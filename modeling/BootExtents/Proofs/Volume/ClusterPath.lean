import BootExtents.Inquiry.Lemmas
import BootExtents.Volume.Allocation
import Mathlib

/-!
# The path through the allocation table

Read as pointers, the entries of the allocation table make any graph: chains may end, branch off
outside the heap, share clusters or run in circles. What is read of a chain is a path in that graph,
with a limit on the number of clusters.

## Main definitions

* `BootExtents.Geometry.Says` — what the entry of a cluster says, if it can be read.
* `BootExtents.Geometry.LeadsTo` — a cluster names the one that follows it.
* `BootExtents.Geometry.IsPath` — the clusters that a walk with a limit finds.
* `BootExtents.Geometry.ComesTo` — a walk gets to a cluster after a number of steps.
* `BootExtents.Geometry.StopsAt` — a walk cannot go on at a cluster.

## Main results

* `BootExtents.Geometry.step_cases` — what one step of a walk can do.
* `BootExtents.Geometry.result_followChain_eq_ok_iff` — a walk finds the clusters of its path.
* `BootExtents.Geometry.result_followChain_eq_error_iff` — it fails at the first cluster where it
  cannot go on.
* `BootExtents.Geometry.length_asked_followChain_le` — it asks at most once for each cluster.
* `BootExtents.readChain_walks_path` — all of this for the chain of a file or a directory.
-/

set_option relaxedAutoImplicit false
set_option autoImplicit false

namespace BootExtents

namespace Geometry

/-! ### The graph of clusters -/

/-- The entry of a cluster can be read, and this is what it says. -/
def Says (geometry : Geometry) (answer : Inquiry.Respondent Sectors VolumeError)
    (cluster : ClusterId) (entry : FatEntry) : Prop :=
  ∃ value, (geometry.fatEntry cluster).result answer = .ok value ∧ FatEntry.ofValue value = entry

/-- A cluster names the one that follows it: the neighbour in a row, or what the entry says. -/
def LeadsTo (geometry : Geometry) (answer : Inquiry.Respondent Sectors VolumeError)
    (contiguous : Bool) (cluster next : ClusterId) : Prop :=
  if contiguous then next = cluster + 1 else geometry.Says answer cluster (.next next)

/-- The clusters that a walk from `first` finds, if it may find at most `limit` of them. -/
structure IsPath (geometry : Geometry) (answer : Inquiry.Respondent Sectors VolumeError)
    (contiguous : Bool) (limit : Nat) (first : ClusterId) (clusters : List ClusterId) : Prop where
  length_le : clusters.length ≤ limit
  head : 0 < limit → clusters.head? = some first
  valid : ∀ cluster ∈ clusters, geometry.isValid cluster = true
  follows : clusters.IsChain fun cluster next =>
    if contiguous then next = cluster + 1 else (geometry.fatEntry cluster).result answer = .ok next
  /-- A row of neighbours has no end of its own. -/
  full : contiguous = true → clusters.length = limit
  /-- The entries of all clusters of a chain can be read and have a meaning there, also that of the
  last one. -/
  entries : contiguous = false → ∀ cluster ∈ clusters,
    (∃ next, geometry.Says answer cluster (.next next)) ∨ geometry.Says answer cluster .last
  /-- Below the limit, a chain is over at an end mark. -/
  ends : contiguous = false → clusters.length < limit →
    ∀ cluster ∈ clusters.getLast?, geometry.Says answer cluster .last
  /-- No end mark comes before the last cluster. -/
  goes_on : contiguous = false → ∀ cluster ∈ clusters.dropLast,
    ¬geometry.Says answer cluster .last

/-- A walk gets to a cluster after a number of steps. -/
inductive ComesTo (geometry : Geometry) (answer : Inquiry.Respondent Sectors VolumeError)
    (contiguous : Bool) : (first : ClusterId) → (steps : Nat) → (target : ClusterId) → Prop where
  /-- It starts there. -/
  | start (first : ClusterId) : ComesTo geometry answer contiguous first 0 first
  /-- It goes on from a cluster of the heap. -/
  | step {first next target : ClusterId} {steps : Nat} (hvalid : geometry.isValid first = true)
      (hleads : geometry.LeadsTo answer contiguous first next)
      (hrest : ComesTo geometry answer contiguous next steps target) :
      ComesTo geometry answer contiguous first (steps + 1) target

/-- A walk cannot go on at a cluster, for this reason. -/
inductive StopsAt (geometry : Geometry) (answer : Inquiry.Respondent Sectors VolumeError)
    (contiguous : Bool) (cluster : ClusterId) : VolumeError → Prop where
  /-- The cluster is not in the heap. -/
  | outside (hvalid : geometry.isValid cluster = false) :
      StopsAt geometry answer contiguous cluster .fatChain
  /-- The table ends before the entry of the cluster. -/
  | behind (hchained : contiguous = false) (hvalid : geometry.isValid cluster = true)
      (hnone : geometry.fatSector? cluster = none) :
      StopsAt geometry answer contiguous cluster .fatChain
  /-- The sector with the entry cannot be read. -/
  | unreadable {number : Nat} {error : VolumeError} (hchained : contiguous = false)
      (hvalid : geometry.isValid cluster = true)
      (hsector : geometry.fatSector? cluster = some number)
      (herror : answer ⟨geometry.sectorShift, number⟩ = .error error) :
      StopsAt geometry answer contiguous cluster error
  /-- The entry has no meaning in a chain: it is free, reserved or marked as bad. -/
  | mark {entry : FatEntry} (hchained : contiguous = false)
      (hvalid : geometry.isValid cluster = true) (hentry : geometry.Says answer cluster entry)
      (hnext : ∀ next, entry ≠ .next next) (hlast : entry ≠ .last) :
      StopsAt geometry answer contiguous cluster .fatChain

variable {geometry : Geometry} {answer : Inquiry.Respondent Sectors VolumeError}
  {contiguous : Bool} {limit steps : Nat} {cluster first next : ClusterId}
  {clusters found : List ClusterId} {entry other : FatEntry} {error : VolumeError}

/-! ### One step -/

/-- An entry says one thing. -/
lemma Says.unique (h : geometry.Says answer cluster entry)
    (hother : geometry.Says answer cluster other) : entry = other := by
  obtain ⟨value, hvalue, rfl⟩ := h
  obtain ⟨value', hvalue', rfl⟩ := hother
  rw [hvalue] at hvalue'
  rw [Except.ok.inj hvalue']

/-- An entry names the next cluster by its number, which is neither too small nor too large. -/
lemma says_next_iff : geometry.Says answer cluster (.next next) ↔
    (geometry.fatEntry cluster).result answer = .ok next ∧ 2 ≤ next ∧ next ≤ 0xFFFFFFF6 := by
  constructor
  · rintro ⟨value, hvalue, hmeaning⟩
    obtain ⟨rfl, hnumber⟩ := FatEntry.ofValue_eq_next_iff.1 hmeaning
    exact ⟨hvalue, hnumber⟩
  · rintro ⟨hvalue, hnumber⟩
    exact ⟨next, hvalue, FatEntry.ofValue_eq_next_iff.2 ⟨rfl, hnumber⟩⟩

/-- An entry ends a chain by the largest of all values. -/
lemma says_last_iff : geometry.Says answer cluster .last ↔
    (geometry.fatEntry cluster).result answer = .ok 0xFFFFFFFF := by
  constructor
  · rintro ⟨value, hvalue, hmeaning⟩
    rwa [FatEntry.ofValue_eq_last_iff.1 hmeaning] at hvalue
  · intro hvalue
    exact ⟨_, hvalue, FatEntry.ofValue_eq_last_iff.2 rfl⟩

/-- An entry neither names a cluster nor ends a chain by any of the other values: those of a cluster
that is free, reserved or bad. -/
lemma says_mark_iff :
    (∃ entry, geometry.Says answer cluster entry ∧ (∀ next, entry ≠ .next next) ∧ entry ≠ .last) ↔
      ∃ value, (geometry.fatEntry cluster).result answer = .ok value ∧
        (value < 2 ∨ 0xFFFFFFF7 ≤ value ∧ value < 0xFFFFFFFF) := by
  have hmark : ∀ value : UInt32, (∀ next, FatEntry.ofValue value ≠ .next next) ∧
      FatEntry.ofValue value ≠ .last ↔ value < 2 ∨ 0xFFFFFFF7 ≤ value ∧ value < 0xFFFFFFFF := by
    intro value
    have hnext : (∀ next, FatEntry.ofValue value ≠ .next next) ↔
        ¬(2 ≤ value ∧ value ≤ 0xFFFFFFF6) := by
      simp [FatEntry.ofValue_eq_next_iff]
    rw [hnext, Ne, FatEntry.ofValue_eq_last_iff]
    grind
  constructor
  · rintro ⟨_, ⟨value, hvalue, rfl⟩, hnext⟩
    exact ⟨value, hvalue, (hmark value).1 hnext⟩
  · rintro ⟨value, hvalue, hrange⟩
    exact ⟨_, ⟨value, hvalue, rfl⟩, (hmark value).2 hrange⟩

/-- A cluster that another one follows is not marked as the last one. -/
lemma LeadsTo.not_last (h : geometry.LeadsTo answer false cluster next) :
    ¬geometry.Says answer cluster .last := by
  intro hlast
  cases Says.unique h hlast

/-- The entry of a cluster in the table is asked for with its sector. -/
lemma result_fatEntry_of_sector {number : Nat} (answer : Inquiry.Respondent Sectors VolumeError)
    (hsector : geometry.fatSector? cluster = some number) :
    (geometry.fatEntry cluster).result answer =
      (answer ⟨geometry.sectorShift, number⟩).map
        fun bytes => Packed.u32At bytes (geometry.fatSlot cluster) := by
  have hquery : (geometry.sector number).result answer = answer ⟨geometry.sectorShift, number⟩ :=
    Inquiry.result_query _ _
  simp only [fatEntry, hsector, Inquiry.bind_eq, Inquiry.result_bind, hquery]
  cases answer ⟨geometry.sectorShift, number⟩ <;> rfl

/-- The entry of a cluster says something, or a walk cannot go on there. -/
lemma says_or_stopsAt (answer : Inquiry.Respondent Sectors VolumeError)
    (hvalid : geometry.isValid cluster = true) :
    (∃ entry, geometry.Says answer cluster entry) ∨
      ∃ error, geometry.StopsAt answer false cluster error := by
  cases hsector : geometry.fatSector? cluster with
  | none => exact .inr ⟨.fatChain, .behind rfl hvalid hsector⟩
  | some number =>
    have hresult := result_fatEntry_of_sector answer hsector
    cases hanswer : answer ⟨geometry.sectorShift, number⟩ with
    | error error => exact .inr ⟨error, .unreadable rfl hvalid hsector hanswer⟩
    | ok bytes =>
      rw [hanswer] at hresult
      exact .inl ⟨_, _, hresult, rfl⟩

/-- **What one step of a walk can do**: stop, go on to the next cluster, or be over at an end
mark. -/
theorem step_cases (geometry : Geometry) (answer : Inquiry.Respondent Sectors VolumeError)
    (contiguous : Bool) (cluster : ClusterId) :
    (∃ error, geometry.StopsAt answer contiguous cluster error) ∨
      geometry.isValid cluster = true ∧
        ((∃ next, geometry.LeadsTo answer contiguous cluster next) ∨
          contiguous = false ∧ geometry.Says answer cluster .last) := by
  cases hvalid : geometry.isValid cluster with
  | false => exact .inl ⟨_, .outside hvalid⟩
  | true =>
    cases contiguous with
    | true => exact .inr ⟨rfl, .inl ⟨cluster + 1, rfl⟩⟩
    | false =>
      rcases says_or_stopsAt answer hvalid with ⟨entry, hentry⟩ | ⟨error, hstops⟩
      · cases entry with
        | next next => exact .inr ⟨rfl, .inl ⟨next, hentry⟩⟩
        | last => exact .inr ⟨rfl, .inr ⟨rfl, hentry⟩⟩
        | bad => exact .inl ⟨_, .mark rfl hvalid hentry (by simp) (by simp)⟩
        | meaningless value => exact .inl ⟨_, .mark rfl hvalid hentry (by simp) (by simp)⟩
      · exact .inl ⟨error, hstops⟩

/-! ### Runs of the walk -/

/-- The clusters found before come in front of the result. -/
lemma result_followChain_found (geometry : Geometry)
    (answer : Inquiry.Respondent Sectors VolumeError) (contiguous : Bool) (limit : Nat)
    (cluster : ClusterId) (found : List ClusterId) :
    (geometry.followChain contiguous limit cluster found).result answer =
      ((geometry.followChain contiguous limit cluster []).result answer).map (found.reverse ++ ·) := by
  induction limit generalizing cluster found with
  | zero => simp [followChain, Inquiry.result, Except.map]
  | succ limit ih =>
    have hnext (next : ClusterId) :
        (geometry.followChain contiguous limit next (cluster :: found)).result answer =
          ((geometry.followChain contiguous limit next [cluster]).result answer).map
            (found.reverse ++ ·) := by
      rw [ih next (cluster :: found), ih next [cluster]]
      cases (geometry.followChain contiguous limit next []).result answer <;> simp [Except.map]
    rw [followChain, followChain]
    by_cases hvalid : geometry.isValid cluster = true
    · rw [if_pos hvalid, if_pos hvalid]
      cases contiguous with
      | true => exact hnext (cluster + 1)
      | false =>
        rw [if_neg Bool.false_ne_true, if_neg Bool.false_ne_true, Inquiry.bind_eq, Inquiry.bind_eq,
          Inquiry.result_bind, Inquiry.result_bind]
        cases (geometry.fatEntry cluster).result answer with
        | error error => rfl
        | ok value =>
          dsimp only
          cases FatEntry.ofValue value with
          | next following => exact hnext following
          | last => simp [Inquiry.result, Except.map]
          | bad => rfl
          | meaningless value => rfl
    · rw [if_neg hvalid, if_neg hvalid]
      rfl

/-- From a cluster that leads to another one, the walk goes on there. -/
lemma result_followChain_of_leadsTo (limit : Nat) (hvalid : geometry.isValid cluster = true)
    (hleads : geometry.LeadsTo answer contiguous cluster next) :
    (geometry.followChain contiguous (limit + 1) cluster []).result answer =
      ((geometry.followChain contiguous limit next []).result answer).map (cluster :: ·) := by
  have hfound := geometry.result_followChain_found answer contiguous limit next [cluster]
  rw [List.reverse_singleton] at hfound
  refine Eq.trans ?_ hfound
  rw [followChain, if_pos hvalid]
  cases contiguous with
  | true =>
    obtain rfl : next = cluster + 1 := hleads
    rfl
  | false =>
    obtain ⟨value, hvalue, hmeaning⟩ := hleads
    rw [if_neg Bool.false_ne_true, Inquiry.bind_eq, Inquiry.result_bind, hvalue]
    dsimp only
    rw [hmeaning]

/-- At an end mark, the walk is over. -/
lemma result_followChain_of_last (limit : Nat) (hvalid : geometry.isValid cluster = true)
    (hlast : geometry.Says answer cluster .last) :
    (geometry.followChain false (limit + 1) cluster []).result answer = .ok [cluster] := by
  obtain ⟨value, hvalue, hmeaning⟩ := hlast
  rw [followChain, if_pos hvalid, if_neg Bool.false_ne_true, Inquiry.bind_eq, Inquiry.result_bind,
    hvalue]
  dsimp only
  rw [hmeaning]
  rfl

/-- Where the walk cannot go on, it fails. -/
lemma result_followChain_of_stopsAt (limit : Nat)
    (h : geometry.StopsAt answer contiguous cluster error) :
    (geometry.followChain contiguous (limit + 1) cluster []).result answer = .error error := by
  rw [followChain]
  cases h with
  | outside hvalid =>
    rw [if_neg (by simp [hvalid])]
    rfl
  | behind hchained hvalid hnone =>
    rw [if_pos hvalid, if_neg (by simp [hchained]), fatEntry, hnone]
    rfl
  | unreadable hchained hvalid hsector herror =>
    rw [if_pos hvalid, if_neg (by simp [hchained]), Inquiry.bind_eq, Inquiry.result_bind,
      result_fatEntry_of_sector answer hsector, herror]
    rfl
  | mark hchained hvalid hentry hnext hlast =>
    obtain ⟨value, hvalue, rfl⟩ := hentry
    rw [if_pos hvalid, if_neg (by simp [hchained]), Inquiry.bind_eq, Inquiry.result_bind, hvalue]
    dsimp only
    cases hmeaning : FatEntry.ofValue value with
    | next next => exact absurd hmeaning (hnext next)
    | last => exact absurd hmeaning hlast
    | bad => rfl
    | meaningless value => rfl

/-! ### A step has one outcome -/

/-- At most one cluster follows. -/
lemma LeadsTo.unique {following : ClusterId}
    (h : geometry.LeadsTo answer contiguous cluster next)
    (hother : geometry.LeadsTo answer contiguous cluster following) : next = following := by
  cases contiguous with
  | true => exact Eq.trans h (Eq.symm hother)
  | false => exact FatEntry.next.inj (Says.unique h hother)

/-- A walk that cannot go on has one reason for it. -/
lemma StopsAt.unique {reason : VolumeError} (h : geometry.StopsAt answer contiguous cluster error)
    (hother : geometry.StopsAt answer contiguous cluster reason) : error = reason :=
  Except.error.inj ((result_followChain_of_stopsAt 0 h).symm.trans
    (result_followChain_of_stopsAt 0 hother))

/-- Where a walk goes on, it does not stop. -/
lemma LeadsTo.not_stopsAt (hvalid : geometry.isValid cluster = true)
    (h : geometry.LeadsTo answer contiguous cluster next) :
    ¬geometry.StopsAt answer contiguous cluster error := by
  intro hstops
  have hresult := result_followChain_of_leadsTo 0 hvalid h
  rw [result_followChain_of_stopsAt 0 hstops] at hresult
  cases hresult

/-- Where a walk is over, it does not stop. -/
lemma Says.not_stopsAt (hvalid : geometry.isValid cluster = true)
    (h : geometry.Says answer cluster .last) : ¬geometry.StopsAt answer false cluster error := by
  intro hstops
  have hresult := result_followChain_of_last 0 hvalid h
  rw [result_followChain_of_stopsAt 0 hstops] at hresult
  cases hresult

/-! ### Paths -/

/-- A path of no clusters is the empty one. -/
lemma isPath_zero : geometry.IsPath answer contiguous 0 first clusters ↔ clusters = [] := by
  constructor
  · intro h
    exact List.length_eq_zero_iff.1 (Nat.le_zero.1 h.length_le)
  · rintro rfl
    exact ⟨le_rfl, by simp, by simp, .nil, fun _ => rfl, by simp, by simp, by simp⟩

/-- A path starts in the heap, and its first cluster does not stop a walk. -/
lemma IsPath.not_stopsAt (h : geometry.IsPath answer contiguous (limit + 1) first clusters) :
    ¬geometry.StopsAt answer contiguous first error := by
  have hmem : first ∈ clusters := List.mem_of_head? (h.head (Nat.succ_pos _))
  have hvalid := h.valid first hmem
  cases contiguous with
  | true =>
    have hleads : geometry.LeadsTo answer true first (first + 1) := rfl
    exact hleads.not_stopsAt hvalid
  | false =>
    rcases h.entries rfl first hmem with ⟨next, hnext⟩ | hlast
    · have hleads : geometry.LeadsTo answer false first next := hnext
      exact hleads.not_stopsAt hvalid
    · exact hlast.not_stopsAt hvalid

/-- What comes behind the first cluster of a path is a path. -/
lemma IsPath.tail {rest : List ClusterId}
    (h : geometry.IsPath answer contiguous (limit + 1) first (first :: rest))
    (hleads : geometry.LeadsTo answer contiguous first next) :
    geometry.IsPath answer contiguous limit next rest where
  length_le := Nat.le_of_succ_le_succ h.length_le
  head hlimit := by
    cases rest with
    | nil =>
      -- Only an end mark, or the limit, ends a path.
      cases contiguous with
      | true => exact absurd (h.full rfl) (by simp; omega)
      | false => exact absurd (h.ends rfl (by simpa using hlimit) first rfl) hleads.not_last
    | cons second rest =>
      have hfollows := (List.isChain_cons_cons.1 h.follows).1
      cases contiguous with
      | true =>
        rw [if_pos rfl] at hfollows
        obtain rfl : next = first + 1 := hleads
        rw [hfollows, List.head?_cons]
      | false =>
        rw [if_neg Bool.false_ne_true, (says_next_iff.1 hleads).1] at hfollows
        rw [Except.ok.inj hfollows, List.head?_cons]
  valid cluster hcluster := h.valid cluster (List.mem_cons_of_mem _ hcluster)
  follows := h.follows.tail
  full hrow := Nat.succ.inj (h.full hrow)
  entries hchained cluster hcluster := h.entries hchained cluster (List.mem_cons_of_mem _ hcluster)
  ends hchained hlt cluster hcluster := by
    cases rest with
    | nil => cases hcluster
    | cons second rest =>
      exact h.ends hchained (Nat.succ_lt_succ hlt) cluster (by rwa [List.getLast?_cons_cons])
  goes_on hchained cluster hcluster := by
    cases rest with
    | nil => cases hcluster
    | cons second rest => exact h.goes_on hchained cluster (List.mem_cons_of_mem _ hcluster)

/-- A cluster in front of a path, to whose start it leads, makes a path. -/
lemma IsPath.cons {rest : List ClusterId} (hvalid : geometry.isValid first = true)
    (hleads : geometry.LeadsTo answer contiguous first next)
    (h : geometry.IsPath answer contiguous limit next rest) :
    geometry.IsPath answer contiguous (limit + 1) first (first :: rest) where
  length_le := Nat.succ_le_succ h.length_le
  head _ := rfl
  valid := List.forall_mem_cons.2 ⟨hvalid, h.valid⟩
  follows := by
    refine List.isChain_cons.2 ⟨fun head hhead => ?_, h.follows⟩
    have hsome := h.head ((List.length_pos_of_mem (List.mem_of_head? hhead)).trans_le h.length_le)
    obtain rfl := Option.some.inj (hsome.symm.trans hhead)
    cases contiguous with
    | true => exact hleads
    | false => exact (says_next_iff.1 hleads).1
  full hrow := congrArg Nat.succ (h.full hrow)
  entries hchained := by
    subst hchained
    exact List.forall_mem_cons.2 ⟨.inl ⟨next, hleads⟩, h.entries rfl⟩
  ends hchained hlt := by
    have hlt : rest.length < limit := Nat.lt_of_succ_lt_succ hlt
    cases rest with
    | nil => exact absurd (h.head hlt) (by simp)
    | cons second rest =>
      rw [List.getLast?_cons_cons]
      exact h.ends hchained hlt
  goes_on hchained := by
    subst hchained
    cases rest with
    | nil => simp
    | cons second rest => exact List.forall_mem_cons.2 ⟨hleads.not_last, h.goes_on rfl⟩

/-- A path goes on from a cluster that leads to another one. -/
lemma isPath_succ_of_leadsTo (hvalid : geometry.isValid first = true)
    (hleads : geometry.LeadsTo answer contiguous first next) :
    geometry.IsPath answer contiguous (limit + 1) first clusters ↔
      ∃ rest, geometry.IsPath answer contiguous limit next rest ∧ clusters = first :: rest := by
  constructor
  · intro h
    obtain ⟨rest, rfl⟩ := List.head?_eq_some_iff.1 (h.head (Nat.succ_pos _))
    exact ⟨rest, h.tail hleads, rfl⟩
  · rintro ⟨rest, h, rfl⟩
    exact h.cons hvalid hleads

/-- A path is over at an end mark. -/
lemma isPath_succ_of_last (hvalid : geometry.isValid first = true)
    (hlast : geometry.Says answer first .last) :
    geometry.IsPath answer false (limit + 1) first clusters ↔ clusters = [first] := by
  constructor
  · intro h
    obtain ⟨rest, rfl⟩ := List.head?_eq_some_iff.1 (h.head (Nat.succ_pos _))
    cases rest with
    | nil => rfl
    | cons second rest => exact absurd hlast (h.goes_on rfl first (List.mem_cons_self ..))
  · rintro rfl
    exact
      { length_le := by simp
        head := fun _ => rfl
        valid := by simpa using hvalid
        follows := .singleton _
        full := by simp
        entries := fun _ cluster hcluster => .inr (List.mem_singleton.1 hcluster ▸ hlast)
        ends := fun _ _ cluster hcluster => Option.some.inj hcluster ▸ hlast
        goes_on := by simp }

/-! ### What a walk finds -/

/-- **A walk finds the clusters of its path.**

**Proof sketch.** Induction on the limit, along the walk. From a cluster that leads to another one,
both the walk and its path go on there; at an end mark both are over; and where a walk cannot go on,
there is no path. -/
theorem result_followChain_eq_ok_iff :
    (geometry.followChain contiguous limit first []).result answer = .ok clusters ↔
      geometry.IsPath answer contiguous limit first clusters := by
  induction limit generalizing first clusters with
  | zero =>
    rw [isPath_zero]
    exact ⟨fun h => (Except.ok.inj h).symm, fun h => congrArg Except.ok h.symm⟩
  | succ limit ih =>
    rcases geometry.step_cases answer contiguous first with
      ⟨error, hstops⟩ | ⟨hvalid, ⟨next, hleads⟩ | ⟨rfl, hlast⟩⟩
    · rw [result_followChain_of_stopsAt limit hstops]
      exact ⟨nofun, fun h => absurd hstops h.not_stopsAt⟩
    · rw [result_followChain_of_leadsTo limit hvalid hleads, isPath_succ_of_leadsTo hvalid hleads]
      simp only [← ih]
      cases (geometry.followChain contiguous limit next []).result answer <;>
        simp [Except.map, eq_comm]
    · rw [result_followChain_of_last limit hvalid hlast, isPath_succ_of_last hvalid hlast]
      exact ⟨fun h => (Except.ok.inj h).symm, fun h => congrArg Except.ok h.symm⟩

/-- **A walk fails at the first cluster where it cannot go on**, if it gets there below the limit.

**Proof sketch.** Induction on the limit, as for its path. A walk gets nowhere from a cluster where
it stops or is over, and only to one cluster from any other. -/
theorem result_followChain_eq_error_iff :
    (geometry.followChain contiguous limit first []).result answer = .error error ↔
      ∃ steps < limit, ∃ cluster, geometry.ComesTo answer contiguous first steps cluster ∧
        geometry.StopsAt answer contiguous cluster error := by
  induction limit generalizing first with
  | zero => exact ⟨nofun, fun ⟨steps, hsteps, _⟩ => absurd hsteps (Nat.not_lt_zero _)⟩
  | succ limit ih =>
    rcases geometry.step_cases answer contiguous first with
      ⟨found, hstops⟩ | ⟨hvalid, ⟨next, hleads⟩ | ⟨rfl, hlast⟩⟩
    · rw [result_followChain_of_stopsAt limit hstops]
      constructor
      · intro h
        obtain rfl := Except.error.inj h
        exact ⟨0, Nat.succ_pos _, first, .start first, hstops⟩
      · rintro ⟨steps, -, cluster, hcomes, hother⟩
        cases hcomes with
        | start => rw [hstops.unique hother]
        | step hvalid hleads => exact absurd hstops (hleads.not_stopsAt hvalid)
    · have hrest : (geometry.followChain contiguous (limit + 1) first []).result answer =
          .error error ↔
            (geometry.followChain contiguous limit next []).result answer = .error error := by
        rw [result_followChain_of_leadsTo limit hvalid hleads]
        cases (geometry.followChain contiguous limit next []).result answer <;> simp [Except.map]
      rw [hrest, ih]
      constructor
      · rintro ⟨steps, hsteps, cluster, hcomes, hstops⟩
        exact ⟨steps + 1, Nat.succ_lt_succ hsteps, cluster, .step hvalid hleads hcomes, hstops⟩
      · rintro ⟨steps, hsteps, cluster, hcomes, hstops⟩
        cases hcomes with
        | start => exact absurd hstops (hleads.not_stopsAt hvalid)
        | step _ hother hcomes =>
          obtain rfl := hleads.unique hother
          exact ⟨_, Nat.lt_of_succ_lt_succ hsteps, cluster, hcomes, hstops⟩
    · rw [result_followChain_of_last limit hvalid hlast]
      refine ⟨nofun, ?_⟩
      rintro ⟨steps, -, cluster, hcomes, hstops⟩
      cases hcomes with
      | start => exact absurd hstops (hlast.not_stopsAt hvalid)
      | step _ hleads => exact absurd hlast hleads.not_last

/-- An entry takes at most one question. -/
lemma length_asked_fatEntry_le (geometry : Geometry)
    (answer : Inquiry.Respondent Sectors VolumeError) (cluster : ClusterId) :
    ((geometry.fatEntry cluster).asked answer).length ≤ 1 := by
  cases hsector : geometry.fatSector? cluster with
  | none => simp [fatEntry, hsector, Inquiry.asked]
  | some number =>
    have hquery : (geometry.sector number).asked answer = [⟨geometry.sectorShift, number⟩] :=
      Inquiry.asked_query _ _
    simp only [fatEntry, hsector, Inquiry.bind_eq, Inquiry.asked_bind, hquery]
    cases (geometry.sector number).result answer <;> exact le_rfl

/-- **A walk asks at most once for each cluster**, so it is over even if the table runs in circles.

**Proof sketch.** One step asks for at most one sector, and there are at most as many as the
limit. -/
theorem length_asked_followChain_le (geometry : Geometry)
    (answer : Inquiry.Respondent Sectors VolumeError) (contiguous : Bool) (limit : Nat)
    (cluster : ClusterId) (found : List ClusterId) :
    ((geometry.followChain contiguous limit cluster found).asked answer).length ≤ limit := by
  induction limit generalizing cluster found with
  | zero => exact le_rfl
  | succ limit ih =>
    rw [followChain]
    split
    · split
      · exact (ih (cluster + 1) _).trans (Nat.le_succ _)
      · have hentry := geometry.length_asked_fatEntry_le answer cluster
        rw [Inquiry.bind_eq, Inquiry.asked_bind, List.length_append, Nat.add_comm]
        refine Nat.add_le_add ?_ hentry
        cases (geometry.fatEntry cluster).result answer with
        | error error => exact Nat.zero_le _
        | ok value =>
          dsimp only
          cases FatEntry.ofValue value with
          | next following => exact ih following _
          | last => exact Nat.zero_le _
          | bad => exact Nat.zero_le _
          | meaningless value => exact Nat.zero_le _
    · exact Nat.zero_le _

end Geometry

/-- **The clusters of a file or a directory are a bounded path through the table.** What an entry
says is told by the range of its value: it names a cluster from 2 to 0xFFFFFFF6, ends a chain by
0xFFFFFFFF, and is of no use in a chain otherwise. As many clusters are found as hold the length,
or, where none is given, one of a row and at most all of the heap of a chain. The first cluster on
the path where the walk cannot go on decides the error, and the walk asks at most once for each
cluster. -/
theorem readChain_walks_path (geometry : Geometry)
    (answer : Inquiry.Respondent Sectors VolumeError) (first : ClusterId) (contiguous : Bool)
    (length : Option Nat) :
    let limit := length.elim (if contiguous then 1 else geometry.clusterCount.toNat)
      (ceilDiv · geometry.clusterSize)
    (∀ cluster,
      (∀ next, geometry.Says answer cluster (.next next) ↔
        (geometry.fatEntry cluster).result answer = .ok next ∧ 2 ≤ next ∧ next ≤ 0xFFFFFFF6) ∧
      (geometry.Says answer cluster .last ↔
        (geometry.fatEntry cluster).result answer = .ok 0xFFFFFFFF) ∧
      ((∃ entry, geometry.Says answer cluster entry ∧
          (∀ next, entry ≠ .next next) ∧ entry ≠ .last) ↔
        ∃ value, (geometry.fatEntry cluster).result answer = .ok value ∧
          (value < 2 ∨ 0xFFFFFFF7 ≤ value ∧ value < 0xFFFFFFFF))) ∧
    (∀ clusters, (geometry.readChain first contiguous length).result answer = .ok clusters ↔
      geometry.IsPath answer contiguous limit first clusters) ∧
    (∀ error, (geometry.readChain first contiguous length).result answer = .error error ↔
      ∃ steps < limit, ∃ cluster, geometry.ComesTo answer contiguous first steps cluster ∧
        geometry.StopsAt answer contiguous cluster error) ∧
    ((geometry.readChain first contiguous length).asked answer).length ≤ limit := by
  intro limit
  have hlimit : geometry.chainLimit contiguous length = limit := by
    cases length <;> rfl
  rw [Geometry.readChain, hlimit]
  exact ⟨fun cluster =>
      ⟨fun next => Geometry.says_next_iff, Geometry.says_last_iff, Geometry.says_mark_iff⟩,
    fun clusters => Geometry.result_followChain_eq_ok_iff,
    fun error => Geometry.result_followChain_eq_error_iff,
    geometry.length_asked_followChain_le answer contiguous limit first []⟩

/-- A table that leads from each of two clusters to the other one gives as many clusters as the
length needs. -/
example :
    let geometry : Geometry := ⟨9, 2, 1, 1, 2, 2, 2, by decide, by decide⟩
    let table : ByteArray := ⟨#[0, 0, 0, 0, 0, 0, 0, 0, 3, 0, 0, 0, 2, 0, 0, 0]⟩
    (geometry.readChain 2 false (some 10240)).result (fun _ => .ok table) =
      .ok [2, 3, 2, 3, 2] := by
  rfl

end BootExtents
