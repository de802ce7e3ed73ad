import BootExtents.Extent.Extract
import Mathlib

/-!
# The clusters of a chain

A chain is asked for its first cluster and then, from each cluster, for the next one. With the
answers fixed, this makes a sequence of clusters, which may break off with an error. On the disk
the sequence falls into rows of neighbours. What can be wrong with a sequence at a place of it is
called a fault.

Where a cluster ends is told with the 64 bits of an address, and so is whether the next one starts
there. As long as the clusters that others follow end below `2 ^ 64`, neighbours are those that lie
one directly behind the other.

## Main definitions

* `BootExtents.ClusterChain.clusterAt` — the cluster at a place of the sequence.
* `BootExtents.ClusterChain.BeginsWith` — the sequence starts with given clusters.
* `BootExtents.ClusterChain.PlacedBy` — where the clusters lie.
* `BootExtents.ClusterChain.ofList` — a chain of listed clusters.
* `BootExtents.ClusterChain.Adjoins` — a cluster starts where another one ends.
* `BootExtents.ClusterChain.rows` — clusters split into maximal rows of neighbours.
* `BootExtents.ClusterChain.NoWrap` — clusters that others follow end below `2 ^ 64`.
* `BootExtents.ClusterChain.Sound` — the first clusters of a sequence can be mapped.
* `BootExtents.ClusterChain.Fault` — what is wrong at a place.

## Main results

* `BootExtents.ClusterChain.rows_concat_of_adjoins`, `rows_concat_of_not_adjoins` — the rows after
  one more cluster.
* `BootExtents.ClusterChain.modEq_getElem_row` — where the clusters of a row lie, as 64 bits tell.
* `BootExtents.ClusterChain.rows_eq_splitBy`, `place_getElem_row` — the rows and where their clusters
  lie, if no end wraps.
* `BootExtents.ClusterChain.Sound.concat_of_adjoins`, `Sound.concat_of_not_adjoins` — soundness after
  one more cluster.
* `BootExtents.ClusterChain.Sound.not_fault` — clusters that can be mapped have no fault.
* `BootExtents.ClusterChain.Fault.unique` — there is at most one fault at a place.
-/

set_option relaxedAutoImplicit false
set_option autoImplicit false

namespace BootExtents

/-! ### Addresses of 64 bits -/

namespace Extent

/-- Bytes of a volume, on the disk, by numbers of 64 bits. -/
lemma onDisk_eq (base offset size : Nat) :
    onDisk base offset size = ⟨(base + offset) % 2 ^ 64, size⟩ :=
  rfl

/-- Where bytes of a volume start on the disk. -/
@[simp] lemma start_onDisk (base offset size : Nat) :
    (onDisk base offset size).start = (base + offset) % 2 ^ 64 :=
  rfl

/-- Where an extent is over, as a number of 64 bits. -/
lemma stop_eq (extent : Extent) : extent.stop = (extent.start + extent.size) % 2 ^ 64 :=
  rfl

end Extent

namespace ClusterChain

variable {I : Interface}

/-! ### The sequence of clusters -/

/-- The cluster at a place of a chain, from 0. -/
def clusterAt (chain : ClusterChain I) (answer : Inquiry.Respondent I Error) :
    Nat → Except Error ClusterId
  | 0 => chain.first.result answer
  | index + 1 => do (chain.next (← chain.clusterAt answer index)).result answer

/-- The chain starts with the given clusters. -/
def BeginsWith (chain : ClusterChain I) (answer : Inquiry.Respondent I Error)
    (clusters : List ClusterId) : Prop :=
  ∀ (index : Nat) (h : index < clusters.length),
    chain.clusterAt answer index = .ok clusters[index]

/-- Every valid cluster lies at the byte of the volume that `place` tells. -/
def PlacedBy (chain : ClusterChain I) (answer : Inquiry.Respondent I Error)
    (place : ClusterId → Nat) : Prop :=
  ∀ cluster, chain.isValid cluster = true →
    (chain.offset cluster).result answer = .ok (place cluster)

section BeginsWith

variable {chain : ClusterChain I} {answer : Inquiry.Respondent I Error}
  {clusters : List ClusterId} {cluster : ClusterId}

/-- After a cluster comes the one that the chain names when asked there. -/
lemma clusterAt_succ {index : Nat} (h : chain.clusterAt answer index = .ok cluster) :
    chain.clusterAt answer (index + 1) = (chain.next cluster).result answer := by
  rw [clusterAt, h]
  rfl

/-- Behind the last of its first clusters, a chain has the one that follows it. -/
lemma BeginsWith.clusterAt_length (h : chain.BeginsWith answer clusters)
    (hlast : clusters.getLast? = some cluster) :
    chain.clusterAt answer clusters.length = (chain.next cluster).result answer := by
  obtain ⟨front, rfl⟩ : ∃ front, clusters = front ++ [cluster] :=
    ⟨_, (List.dropLast_append_getLast? _ hlast).symm⟩
  have hat := h front.length (by simp)
  rw [List.getElem_concat_length rfl] at hat
  rw [List.length_append, List.length_singleton]
  exact clusterAt_succ hat

/-- A chain begins with clusters and one more if it begins with them and that one is next. -/
lemma beginsWith_concat :
    chain.BeginsWith answer (clusters ++ [cluster]) ↔
      chain.BeginsWith answer clusters ∧
        chain.clusterAt answer clusters.length = .ok cluster := by
  constructor
  · intro h
    refine ⟨fun index hindex => ?_, ?_⟩
    · rw [h index (by simp; omega), List.getElem_append_left hindex]
    · rw [h clusters.length (by simp), List.getElem_concat_length rfl]
  · rintro ⟨h, hlast⟩ index hindex
    rcases Nat.lt_or_ge index clusters.length with hlt | hge
    · rw [h index hlt, List.getElem_append_left hlt]
    · obtain rfl : index = clusters.length := by simp at hindex; omega
      rw [hlast, List.getElem_concat_length rfl]

/-- Clusters that the chain names one after the other are the start of it. -/
lemma beginsWith_of_isChain
    (hfirst : ∀ head ∈ clusters.head?, chain.first.result answer = .ok head)
    (h : clusters.IsChain fun cluster next => (chain.next cluster).result answer = .ok next) :
    chain.BeginsWith answer clusters := by
  intro index hindex
  induction index with
  | zero =>
    exact hfirst _ (by rw [List.head?_eq_getElem?, List.getElem?_eq_getElem hindex]; rfl)
  | succ index ih =>
    rw [clusterAt_succ (ih (by omega))]
    exact List.isChain_iff_getElem.1 h index hindex

/-- A chain that begins with clusters begins with fewer of them. -/
lemma BeginsWith.take (h : chain.BeginsWith answer clusters) (count : Nat) :
    chain.BeginsWith answer (clusters.take count) := by
  intro index hindex
  rw [h index (by simp at hindex; omega), List.getElem_take]

/-- Two starts of a chain of one length are the same. -/
lemma BeginsWith.eq_of_length_eq {others : List ClusterId} (h : chain.BeginsWith answer clusters)
    (hothers : chain.BeginsWith answer others) (hlength : clusters.length = others.length) :
    clusters = others := by
  refine List.ext_getElem hlength fun index h₁ h₂ => ?_
  have := (h index h₁).symm.trans (hothers index h₂)
  exact Except.ok.inj this

end BeginsWith

/-- A chain of listed clusters, which lie in the order of their numbers. -/
def ofList (I : Interface) (size : Nat) (clusters : List ClusterId) : ClusterChain I where
  clusterSize := size
  isValid cluster := cluster ∈ clusters
  first := .done (clusters.headD 0)
  next cluster := .done ((clusters.drop (clusters.idxOf cluster + 1)).headD 0)
  offset cluster := .done (cluster.toNat * size)

/-- A chain that is given as a list has its clusters at multiples of their size. -/
lemma placedBy_ofList (size : Nat) (clusters : List ClusterId)
    (answer : Inquiry.Respondent I Error) :
    (ofList I size clusters).PlacedBy answer fun cluster => cluster.toNat * size :=
  fun _ _ => rfl

/-! ### Rows of neighbours -/

/-- A cluster starts where another one ends, as far as the 64 bits of an address tell. Where the
volume starts on the disk does not matter. -/
def Adjoins (chain : ClusterChain I) (place : ClusterId → Nat) (cluster next : ClusterId) : Prop :=
  place cluster + chain.clusterSize ≡ place next [MOD 2 ^ 64]

/-- Whether a cluster starts where another one ends can be worked out. -/
instance (chain : ClusterChain I) (place : ClusterId → Nat) (cluster next : ClusterId) :
    Decidable (chain.Adjoins place cluster next) :=
  inferInstanceAs (Decidable (_ ≡ _ [MOD 2 ^ 64]))

/-- The maximal rows of clusters that start where the ones before them end. -/
def rows (chain : ClusterChain I) (place : ClusterId → Nat) (clusters : List ClusterId) :
    List (List ClusterId) :=
  clusters.splitBy fun cluster next => decide (chain.Adjoins place cluster next)

/-- Clusters that follow others lie below `2 ^ 64`, and those that others follow end there. -/
def NoWrap (chain : ClusterChain I) (place : ClusterId → Nat) (clusters : List ClusterId) : Prop :=
  clusters.IsChain fun cluster next =>
    place cluster + chain.clusterSize < 2 ^ 64 ∧ place next < 2 ^ 64

/-- A list is split in the same way by two conditions that agree on all that stands side by side in
it.

**Proof sketch.** The parts by one condition are parts by the other one, too: what stands side by
side in a part, or at the ends of neighbouring parts, stands side by side in the list. -/
lemma splitBy_congr {α : Type} {touch touch' : α → α → Bool} {members : List α}
    (h : members.IsChain fun member next => touch member next = touch' member next) :
    members.splitBy touch = members.splitBy touch' := by
  have hnil := List.nil_notMem_splitBy touch' members
  rw [← List.flatten_splitBy touch' members, List.isChain_flatten hnil] at h
  obtain ⟨hinside, hbetween⟩ := h
  refine List.splitBy_eq_iff.2 ⟨(List.flatten_splitBy touch' members).symm, hnil, ?_, ?_⟩
  · intro part hpart
    have hsame := List.isChain_iff_getElem.1 (hinside part hpart)
    have htouch := List.isChain_iff_getElem.1 (List.isChain_of_mem_splitBy hpart)
    exact List.isChain_iff_getElem.2 fun index hindex =>
      (hsame index hindex).trans (htouch index hindex)
  · have hapart := List.isChain_iff_getElem.1 (List.isChain_getLast_head_splitBy touch' members)
    refine List.isChain_iff_getElem.2 fun index hindex => ?_
    obtain ⟨hpart, hnext, hne⟩ := hapart index hindex
    have hsame := List.isChain_iff_getElem.1 hbetween index hindex
    exact ⟨hpart, hnext, (hsame _ (List.getLast_mem_getLast? hpart) _
      (List.head_mem_head? hnext)).trans hne⟩

section Rows

variable {chain : ClusterChain I} {place : ClusterId → Nat} {clusters row : List ClusterId}
  {cluster next : ClusterId}

/-- A cluster that lies directly behind another one starts where that one ends. -/
lemma adjoins_of_eq (h : place cluster + chain.clusterSize = place next) :
    chain.Adjoins place cluster next :=
  congrArg (· % 2 ^ 64) h

/-- Below `2 ^ 64`, it is only the cluster that lies directly behind another one that starts where
that one ends. -/
lemma adjoins_iff_eq (hend : place cluster + chain.clusterSize < 2 ^ 64)
    (hnext : place next < 2 ^ 64) :
    chain.Adjoins place cluster next ↔ place cluster + chain.clusterSize = place next := by
  rw [Adjoins, Nat.ModEq, Nat.mod_eq_of_lt hend, Nat.mod_eq_of_lt hnext]

/-- Where no end wraps, the rows are those of clusters that lie directly one behind the other. -/
lemma rows_eq_splitBy (h : chain.NoWrap place clusters) :
    chain.rows place clusters =
      clusters.splitBy fun cluster next => place cluster + chain.clusterSize == place next :=
  splitBy_congr (h.imp fun _ _ hbelow => decide_eq_decide.2 (adjoins_iff_eq hbelow.1 hbelow.2))

/-- Clusters that lie directly one behind the other are one row. -/
lemma rows_of_isChain (hne : clusters ≠ [])
    (h : clusters.IsChain fun cluster next => place cluster + chain.clusterSize = place next) :
    chain.rows place clusters = [clusters] :=
  List.splitBy_of_isChain hne (h.imp fun _ _ hnext => decide_eq_true (adjoins_of_eq hnext))

/-- No clusters are in no rows. -/
@[simp] lemma rows_nil : chain.rows place [] = [] := rfl

/-- A single cluster is a row of its own. -/
@[simp] lemma rows_singleton : chain.rows place [cluster] = [[cluster]] := rfl

/-- Rows one behind the other are the clusters again. -/
@[simp] lemma flatten_rows (chain : ClusterChain I) (place : ClusterId → Nat)
    (clusters : List ClusterId) : (chain.rows place clusters).flatten = clusters :=
  List.flatten_splitBy _ _

/-- A row has clusters. -/
lemma ne_nil_of_mem_rows (h : row ∈ chain.rows place clusters) : row ≠ [] :=
  List.ne_nil_of_mem_splitBy h

/-- Clusters are in some rows. -/
lemma rows_ne_nil (h : clusters ≠ []) : chain.rows place clusters ≠ [] :=
  List.splitBy_ne_nil.2 h

/-- The last row ends with the last cluster. -/
lemma getLast?_row {done : List (List ClusterId)}
    (h : chain.rows place clusters = done ++ [row]) : row.getLast? = clusters.getLast? := by
  have hmem : row ∈ chain.rows place clusters := by simp [h]
  have hne : row ≠ [] := ne_nil_of_mem_rows hmem
  rw [← flatten_rows chain place clusters, h]
  simp [List.getLast?_append_of_ne_nil _ hne]

/-- The clusters are those of the last row and of the rows before it. -/
lemma length_of_rows_eq {done : List (List ClusterId)}
    (h : chain.rows place clusters = done ++ [row]) :
    clusters.length = done.flatten.length + row.length := by
  rw [← flatten_rows chain place clusters, h]
  simp

/-- A cluster behind the last one makes the last row longer. -/
lemma rows_concat_of_adjoins {done : List (List ClusterId)}
    (h : chain.rows place clusters = done ++ [row]) (hlast : clusters.getLast? = some cluster)
    (hnext : chain.Adjoins place cluster next) :
    chain.rows place (clusters ++ [next]) = done ++ [row ++ [next]] := by
  have hrow : row.getLast? = some cluster := (getLast?_row h).trans hlast
  obtain ⟨hflat, hnil, hchain, hapart⟩ := List.splitBy_eq_iff.1 h
  refine List.splitBy_eq_iff.2 ⟨?_, ?_, ?_, ?_⟩
  · rw [hflat]
    simp
  · intro hmem
    simp only [List.mem_append, List.mem_singleton] at hmem
    rcases hmem with hmem | hmem
    · exact hnil (by simp [hmem])
    · simp at hmem
  · intro group hgroup
    simp only [List.mem_append, List.mem_singleton] at hgroup
    rcases hgroup with hgroup | rfl
    · exact hchain group (by simp [hgroup])
    · refine List.isChain_append.2 ⟨hchain row (by simp), List.isChain_singleton _, ?_⟩
      intro x hx y hy
      rw [hrow] at hx
      simp only [Option.mem_def, Option.some.injEq, List.head?_cons] at hx hy
      subst hx hy
      simpa using hnext
  · rw [List.isChain_append] at hapart ⊢
    refine ⟨hapart.1, List.isChain_singleton _, fun x hx y hy => ?_⟩
    obtain ⟨hx', hrow', hne⟩ := hapart.2.2 x hx row (by simp)
    simp only [Option.mem_def, Option.some.injEq, List.head?_cons] at hy
    subst hy
    exact ⟨hx', by simp, by rwa [List.head_append_of_ne_nil hrow']⟩

/-- Where a row ends, the rest of the sequence has its own rows. -/
lemma rows_append {others : List ClusterId} (hlast : clusters.getLast? = some cluster)
    (hnext : ¬chain.Adjoins place cluster next) :
    chain.rows place (clusters ++ next :: others) =
      chain.rows place clusters ++ chain.rows place (next :: others) := by
  refine List.splitBy_append_cons others fun x hx => ?_
  rw [hlast] at hx
  simp only [Option.mem_def, Option.some.injEq] at hx
  subst hx
  simpa using hnext

/-- A cluster elsewhere starts a row of its own. -/
lemma rows_concat_of_not_adjoins (hlast : clusters.getLast? = some cluster)
    (hnext : ¬chain.Adjoins place cluster next) :
    chain.rows place (clusters ++ [next]) = chain.rows place clusters ++ [[next]] :=
  rows_append hlast hnext

/-- The clusters of a row lie one behind the other, from its first one on, as far as the 64 bits of
an address tell. -/
lemma modEq_getElem_row (h : row ∈ chain.rows place clusters) (index : Nat)
    (hindex : index < row.length) :
    place row[index] ≡ place (row.headD firstCluster) + index * chain.clusterSize
      [MOD 2 ^ 64] := by
  have hchain := List.isChain_iff_getElem.1 (List.isChain_of_mem_splitBy h)
  induction index with
  | zero => cases row with
    | nil => simp at hindex
    | cons head rest => simpa using Nat.ModEq.refl _
  | succ index ih =>
    have hstep : chain.Adjoins place row[index] row[index + 1] :=
      of_decide_eq_true (hchain index hindex)
    rw [Nat.succ_mul, ← Nat.add_assoc]
    exact hstep.symm.trans ((ih (by omega)).add_right _)

/-- The last cluster of a row lies one cluster before the row's end, as far as the 64 bits of an
address tell. -/
lemma modEq_getLast_row (h : row ∈ chain.rows place clusters)
    (hlast : row.getLast? = some cluster) :
    place cluster + chain.clusterSize ≡
      place (row.headD firstCluster) + row.length * chain.clusterSize [MOD 2 ^ 64] := by
  rw [List.getLast?_eq_getElem?, List.getElem?_eq_some_iff] at hlast
  obtain ⟨hlt, rfl⟩ := hlast
  have hcount : row.length = row.length - 1 + 1 := by omega
  conv_rhs => rw [hcount, Nat.succ_mul, ← Nat.add_assoc]
  exact (modEq_getElem_row h _ hlt).add_right _

/-- Where no end wraps, the clusters of a row lie one behind the other, from its first one on. -/
lemma place_getElem_row (hwrap : chain.NoWrap place clusters)
    (h : row ∈ chain.rows place clusters) (index : Nat) (hindex : index < row.length) :
    place row[index] = place (row.headD firstCluster) + index * chain.clusterSize := by
  rw [rows_eq_splitBy hwrap] at h
  have hchain := List.isChain_iff_getElem.1 (List.isChain_of_mem_splitBy h)
  induction index with
  | zero => cases row with
    | nil => simp at hindex
    | cons head rest => simp
  | succ index ih =>
    have hstep := hchain index hindex
    rw [beq_iff_eq, ih (by omega)] at hstep
    rw [← hstep, Nat.succ_mul, Nat.add_assoc]

/-- Where no end wraps, the last cluster of a row lies one cluster before the row's end. -/
lemma place_getLast_row (hwrap : chain.NoWrap place clusters)
    (h : row ∈ chain.rows place clusters) (hlast : row.getLast? = some cluster) :
    place cluster + chain.clusterSize =
      place (row.headD firstCluster) + row.length * chain.clusterSize := by
  rw [List.getLast?_eq_getElem?, List.getElem?_eq_some_iff] at hlast
  obtain ⟨hlt, rfl⟩ := hlast
  rw [place_getElem_row hwrap h _ hlt, Nat.add_assoc, ← Nat.succ_mul]
  congr 2
  omega

/-- A byte of a row lies in one of the row's clusters. -/
lemma exists_cluster_of_lt_row (hsize : 0 < chain.clusterSize)
    (hrow : ∀ (index : Nat) (h : index < row.length),
      place row[index] = place (row.headD firstCluster) + index * chain.clusterSize)
    {distance : Nat} (hdistance : distance < row.length * chain.clusterSize) :
    ∃ cluster ∈ row, place (row.headD firstCluster) + distance =
      place cluster + distance % chain.clusterSize := by
  have hindex : distance / chain.clusterSize < row.length :=
    (Nat.div_lt_iff_lt_mul hsize).2 hdistance
  refine ⟨_, List.getElem_mem hindex, ?_⟩
  rw [hrow _ hindex, Nat.add_assoc, Nat.mul_comm, Nat.div_add_mod]

/-- Behind a row, the next one starts elsewhere. -/
lemma rows_apart (chain : ClusterChain I) (place : ClusterId → Nat) (clusters : List ClusterId) :
    (chain.rows place clusters).IsChain fun row next =>
      ¬place (row.headD firstCluster) + row.length * chain.clusterSize ≡
        place (next.headD firstCluster) [MOD 2 ^ 64] := by
  have hsplit : (chain.rows place clusters).IsChain fun row next => ∃ hrow hnext,
      decide (chain.Adjoins place (row.getLast hrow) (next.head hnext)) = false :=
    List.isChain_getLast_head_splitBy
      (fun cluster next => decide (chain.Adjoins place cluster next)) clusters
  refine List.isChain_iff_getElem.2 fun index hindex => ?_
  obtain ⟨hrow, hnext, hne⟩ := List.isChain_iff_getElem.1 hsplit index hindex
  have hend := modEq_getLast_row (List.getElem_mem _) (List.getLast?_eq_some_getLast hrow)
  have hhead : (chain.rows place clusters)[index + 1].headD firstCluster =
      (chain.rows place clusters)[index + 1].head hnext := by
    rw [List.headD_eq_head?_getD, List.head?_eq_some_head hnext, Option.getD_some]
  rw [hhead]
  exact fun hmeet => of_decide_eq_false hne (hend.trans hmeet)

end Rows

/-! ### Faults -/

/-- The given first clusters of a chain can be mapped: all are valid, and every row of them that
another cluster follows is a whole number of image units. -/
structure Sound (chain : ClusterChain I) (answer : Inquiry.Respondent I Error)
    (place : ClusterId → Nat) (clusters : List ClusterId) : Prop where
  begins : chain.BeginsWith answer clusters
  valid : ∀ cluster ∈ clusters, chain.isValid cluster = true
  whole : ∀ row ∈ (chain.rows place clusters).dropLast,
    imageUnitSize ∣ row.length * chain.clusterSize

section Sound

variable {chain : ClusterChain I} {answer : Inquiry.Respondent I Error}
  {place : ClusterId → Nat} {clusters row : List ClusterId} {done : List (List ClusterId)}
  {cluster next : ClusterId}

/-- Sound clusters stay valid with a valid one behind them. -/
lemma Sound.forall_valid_concat (h : chain.Sound answer place clusters)
    (hvalid : chain.isValid next = true) :
    ∀ member ∈ clusters ++ [next], chain.isValid member = true := by
  intro member hmember
  rcases List.mem_append.1 hmember with hmember | hmember
  · exact h.valid member hmember
  · exact List.mem_singleton.1 hmember ▸ hvalid

/-- Clusters stay sound with a neighbour of the last one behind them. -/
lemma Sound.concat_of_adjoins (h : chain.Sound answer place clusters)
    (hrows : chain.rows place clusters = done ++ [row]) (hlast : clusters.getLast? = some cluster)
    (hat : chain.clusterAt answer clusters.length = .ok next)
    (hvalid : chain.isValid next = true)
    (hnext : chain.Adjoins place cluster next) :
    chain.Sound answer place (clusters ++ [next]) where
  begins := beginsWith_concat.2 ⟨h.begins, hat⟩
  valid := h.forall_valid_concat hvalid
  whole := by
    have hwhole := h.whole
    rw [hrows, List.dropLast_concat] at hwhole
    rwa [rows_concat_of_adjoins hrows hlast hnext, List.dropLast_concat]

/-- Clusters stay sound with one elsewhere behind them, if their last row is whole. -/
lemma Sound.concat_of_not_adjoins (h : chain.Sound answer place clusters)
    (hrows : chain.rows place clusters = done ++ [row]) (hlast : clusters.getLast? = some cluster)
    (hat : chain.clusterAt answer clusters.length = .ok next)
    (hvalid : chain.isValid next = true)
    (hnext : ¬chain.Adjoins place cluster next)
    (hrow : imageUnitSize ∣ row.length * chain.clusterSize) :
    chain.Sound answer place (clusters ++ [next]) where
  begins := beginsWith_concat.2 ⟨h.begins, hat⟩
  valid := h.forall_valid_concat hvalid
  whole := by
    have hwhole := h.whole
    rw [hrows, List.dropLast_concat] at hwhole
    rw [rows_concat_of_not_adjoins hlast hnext, List.dropLast_concat, hrows]
    intro member hmember
    rcases List.mem_append.1 hmember with hmember | hmember
    · exact hwhole member hmember
    · exact List.mem_singleton.1 hmember ▸ hrow

end Sound

/-- What is wrong at a place of a chain. -/
inductive Fault (chain : ClusterChain I) (answer : Inquiry.Respondent I Error)
    (place : ClusterId → Nat) : (index : Nat) → Error → Prop where
  /-- The chain does not tell the cluster, for a reason of its own. -/
  | refused {index : Nat} {error : Error} (hat : chain.clusterAt answer index = .error error) :
      Fault chain answer place index error
  /-- The chain starts with a cluster that is not valid. -/
  | invalidStart {cluster : ClusterId} (hat : chain.clusterAt answer 0 = .ok cluster)
      (hinvalid : chain.isValid cluster = false) :
      Fault chain answer place 0 (.io (.invalidData (.invalidStart cluster)))
  /-- The chain goes on with a cluster that is not valid. -/
  | invalidMember {index : Nat} {cluster : ClusterId}
      (hat : chain.clusterAt answer (index + 1) = .ok cluster)
      (hinvalid : chain.isValid cluster = false) :
      Fault chain answer place (index + 1) (.io (.invalidData (.invalidMember cluster)))
  /-- The chain goes on with a valid cluster, but elsewhere, and the row that ends before it is
  no whole number of image units. -/
  | unaligned {index : Nat} {clusters row : List ClusterId} {last next : ClusterId}
      (hindex : clusters.length = index)
      (hbegins : chain.BeginsWith answer (clusters ++ [next]))
      (hvalid : chain.isValid next = true)
      (hrow : (chain.rows place clusters).getLast? = some row)
      (hlast : clusters.getLast? = some last)
      (hnext : ¬chain.Adjoins place last next)
      (hsize : ¬imageUnitSize ∣ row.length * chain.clusterSize) :
      Fault chain answer place index
        (.io (.invalidData (.unaligned (row.length * chain.clusterSize))))

section Fault

variable {chain : ClusterChain I} {answer : Inquiry.Respondent I Error}
  {place : ClusterId → Nat} {clusters : List ClusterId} {index : Nat} {error error' : Error}

/-- There is no fault among clusters that can be mapped.

**Proof sketch.** The chain tells these clusters and they are valid, which leaves an unaligned row.
Its clusters start the sequence, and the cluster behind it starts a row of its own
(`rows_append`), so the row is one of those that another cluster follows. -/
theorem Sound.not_fault (h : chain.Sound answer place clusters) (hindex : index < clusters.length) :
    ¬chain.Fault answer place index error := by
  have hat := h.begins index hindex
  have hvalid := h.valid _ (List.getElem_mem hindex)
  intro hfault
  cases hfault with
  | refused herror => simp [hat] at herror
  | invalidStart hok hinvalid =>
    obtain rfl := Except.ok.inj (hat.symm.trans hok)
    simp [hvalid] at hinvalid
  | invalidMember hok hinvalid =>
    obtain rfl := Except.ok.inj (hat.symm.trans hok)
    simp [hvalid] at hinvalid
  | @unaligned _ front row last next hlength hbegins _ hrow hlast hnext hsize =>
    have htake : front ++ [next] = clusters.take (index + 1) :=
      hbegins.eq_of_length_eq (h.begins.take _) (by simp [hlength]; omega)
    have hsplit : clusters = front ++ next :: clusters.drop (index + 1) := by
      rw [← List.singleton_append, ← List.append_assoc, htake, List.take_append_drop]
    have hrows := h.whole row
    rw [hsplit, rows_append hlast hnext,
      List.dropLast_append_of_ne_nil (rows_ne_nil (List.cons_ne_nil _ _))] at hrows
    exact hsize (hrows (List.mem_append_left _ (List.mem_of_getLast? hrow)))

/-- There is at most one fault at a place. -/
theorem Fault.unique (h : chain.Fault answer place index error)
    (h' : chain.Fault answer place index error') : error = error' := by
  cases h with
  | refused hat =>
    cases h' with
    | refused hat' => exact Except.error.inj (hat.symm.trans hat')
    | invalidStart hat' => simp [hat] at hat'
    | invalidMember hat' => simp [hat] at hat'
    | unaligned hindex hbegins =>
      have hat' := (beginsWith_concat.1 hbegins).2
      simp [hindex, hat] at hat'
  | invalidStart hat hinvalid =>
    cases h' with
    | refused hat' => simp [hat] at hat'
    | invalidStart hat' =>
      obtain rfl := Except.ok.inj (hat.symm.trans hat')
      rfl
    | unaligned hindex _ _ _ hlast =>
      simp [List.length_eq_zero_iff.1 hindex] at hlast
  | invalidMember hat hinvalid =>
    cases h' with
    | refused hat' => simp [hat] at hat'
    | invalidMember hat' =>
      obtain rfl := Except.ok.inj (hat.symm.trans hat')
      rfl
    | unaligned hindex hbegins hvalid =>
      have hat' := (beginsWith_concat.1 hbegins).2
      rw [hindex] at hat'
      obtain rfl := Except.ok.inj (hat.symm.trans hat')
      simp [hvalid] at hinvalid
  | unaligned hindex hbegins hvalid hrow =>
    have hat := (beginsWith_concat.1 hbegins).2
    rw [hindex] at hat
    cases h' with
    | refused hat' => simp [hat] at hat'
    | invalidStart hat' hinvalid =>
      obtain rfl := Except.ok.inj (hat.symm.trans hat')
      simp [hvalid] at hinvalid
    | invalidMember hat' hinvalid =>
      obtain rfl := Except.ok.inj (hat.symm.trans hat')
      simp [hvalid] at hinvalid
    | unaligned hindex' hbegins' _ hrow' =>
      obtain rfl := (beginsWith_concat.1 hbegins).1.eq_of_length_eq
        (beginsWith_concat.1 hbegins').1 (hindex.trans hindex'.symm)
      obtain rfl := Option.some.inj (hrow.symm.trans hrow')
      rfl

end Fault

end ClusterChain

end BootExtents
