import BootExtents.Proofs.Extent.Walk
import BootExtents.Sector.Basic
import Mathlib

/-!
# What an extraction asks, and how it fails

An extraction turns to its chain for the first cluster, for the cluster behind another one and for
the place of a cluster. To see these calls, the chain is put behind an interface of its own: the
extraction is the same inquiry with the calls made there, and each call answered by the chain.

## Main definitions

* `BootExtents.ChainCall`, `ChainCalls` — what a chain is asked for, and the interface of that.
* `BootExtents.ClusterChain.remote`, `reply` — the chain behind the interface, and its answers.
* `BootExtents.ClusterChain.calls` — the calls that an extraction makes.
* `BootExtents.ClusterChain.Interprets` — a chain stands for another one.

## Main results

* `BootExtents.extract_interpret` — extraction along a chain that stands for another one.
* `BootExtents.extract_eq_interpret` — the calls are all that the chain is used for.
* `BootExtents.ChainWalk.asked_iterate` — the calls of a walk are guarded and few.
* `BootExtents.extract_sound_or_first_fault` — an extraction succeeds exactly for sound clusters,
  and otherwise reports the first fault.
-/

set_option relaxedAutoImplicit false
set_option autoImplicit false

namespace BootExtents

variable {I : Interface}

/-! ### Calls to a chain -/

/-- What a chain is asked for. -/
inductive ChainCall where
  /-- The cluster where it starts. -/
  | first
  /-- The cluster behind another one. -/
  | next (cluster : ClusterId)
  /-- The place of a cluster. -/
  | offset (cluster : ClusterId)
deriving DecidableEq, Repr

namespace ChainCall

/-- The cluster that a call is about. -/
def cluster? : ChainCall → Option ClusterId
  | first => none
  | next cluster => some cluster
  | offset cluster => some cluster

/-- Whether a call asks for the cluster behind another one. -/
def isNext : ChainCall → Bool
  | next _ => true
  | first | offset _ => false

end ChainCall

/-- Calls to a chain, and the types of their answers. -/
abbrev ChainCalls : Interface where
  Question := ChainCall
  Answer
    | .first => ClusterId
    | .next _ => ClusterId
    | .offset _ => Nat

namespace ClusterChain

/-- A chain of which only the size and the valid numbers of its clusters are known at hand. -/
def remote (size : Nat) (isValid : ClusterId → Bool) : ClusterChain ChainCalls where
  clusterSize := size
  isValid := isValid
  first := Inquiry.query (I := ChainCalls) .first
  next cluster := Inquiry.query (I := ChainCalls) (.next cluster)
  offset cluster := Inquiry.query (I := ChainCalls) (.offset cluster)

section Remote

variable (size : Nat) (isValid : ClusterId → Bool) (cluster : ClusterId)

/-- A remote chain has clusters of the given size. -/
@[simp] lemma clusterSize_remote : (remote size isValid).clusterSize = size := rfl

/-- A remote chain knows by itself which clusters are valid. -/
@[simp] lemma isValid_remote : (remote size isValid).isValid cluster = isValid cluster := rfl

/-- The first cluster of a remote chain is asked for. -/
@[simp] lemma first_remote : (remote size isValid).first = Inquiry.query (I := ChainCalls) .first :=
  rfl

/-- The next cluster of a remote chain is asked for. -/
@[simp] lemma next_remote : (remote size isValid).next cluster =
    Inquiry.query (I := ChainCalls) (.next cluster) :=
  rfl

/-- The place of a cluster of a remote chain is asked for. -/
@[simp] lemma offset_remote : (remote size isValid).offset cluster =
    Inquiry.query (I := ChainCalls) (.offset cluster) :=
  rfl

end Remote

/-- How a chain answers a call. -/
def reply (chain : ClusterChain I) :
    (call : ChainCalls.Question) → Inquiry I Error (ChainCalls.Answer call)
  | .first => chain.first
  | .next cluster => chain.next cluster
  | .offset cluster => chain.offset cluster

/-- The calls that an extraction makes to a chain, in order. -/
def calls (chain : ClusterChain I) (answer : Inquiry.Respondent I Error) (length base : Nat) :
    List ChainCall :=
  (extract (remote chain.clusterSize chain.isValid) length base).asked fun call =>
    (chain.reply call).result answer

/-- The calls are about valid clusters, and at most `count` of them ask for the cluster behind
another one. -/
structure Guards (isValid : ClusterId → Bool) (count : Nat) (calls : List ChainCall) : Prop where
  valid : ∀ call ∈ calls, ∀ cluster ∈ call.cluster?, isValid cluster = true
  count_next : calls.countP (·.isNext) ≤ count

/-- No calls need no guard. -/
lemma Guards.nil (isValid : ClusterId → Bool) (count : Nat) : Guards isValid count [] :=
  ⟨by simp, by simp⟩

/-- Calls that are guarded for some clusters are guarded for more. -/
lemma Guards.mono {isValid : ClusterId → Bool} {count more : Nat} {calls : List ChainCall}
    (h : Guards isValid count calls) (hle : count ≤ more) : Guards isValid more calls :=
  ⟨h.valid, h.count_next.trans hle⟩

/-- Calls that are guarded one after the other are guarded together. -/
lemma Guards.append {isValid : ClusterId → Bool} {count more : Nat} {calls others : List ChainCall}
    (h : Guards isValid count calls) (hothers : Guards isValid more others) :
    Guards isValid (count + more) (calls ++ others) where
  valid call hcall := by
    rcases List.mem_append.1 hcall with hcall | hcall
    · exact h.valid call hcall
    · exact hothers.valid call hcall
  count_next := by
    rw [List.countP_append]
    exact Nat.add_le_add h.count_next hothers.count_next

end ClusterChain

/-! ### The same extraction -/

section Interprets

variable {J : Interface}

/-- Another chain is a given one with its questions answered by inquiries, as far as an extraction
makes use of it: places are asked for valid clusters only. -/
structure ClusterChain.Interprets
    (stead : (question : I.Question) → Inquiry J Error (I.Answer question))
    (chain : ClusterChain I) (other : ClusterChain J) : Prop where
  clusterSize : other.clusterSize = chain.clusterSize
  isValid : other.isValid = chain.isValid
  first : other.first = chain.first.interpret stead
  next : ∀ cluster, other.next cluster = (chain.next cluster).interpret stead
  offset : ∀ cluster, chain.isValid cluster = true →
    other.offset cluster = (chain.offset cluster).interpret stead

variable {stead : (question : I.Question) → Inquiry J Error (I.Answer question)}
  {chain : ClusterChain I} {other : ClusterChain J}

/-- A step along such a chain is the step along the given one. -/
lemma ChainWalk.advance_interpret (h : chain.Interprets stead other) (base : Nat)
    (walk : ChainWalk) :
    walk.advance other base = (walk.advance chain base).interpret stead := by
  rw [advance, advance]
  refine Inquiry.then_eq_interpret stead (h.next walk.cluster) ?_
  intro cluster
  rw [h.isValid]
  split
  · next hvalid =>
    refine Inquiry.then_eq_interpret stead (h.offset cluster hvalid) ?_
    intro offset
    rw [h.clusterSize]
    split <;> rfl
  · rfl

/-- **Extraction along a chain that stands for another one.**

**Proof sketch.** The same questions are asked in the same places. A repeated step is interpreted
step by step (`Inquiry.interpret_iterate`), and each step is the same
(`ChainWalk.advance_interpret`). -/
theorem extract_interpret (h : chain.Interprets stead other) (length base : Nat) :
    extract other length base = (extract chain length base).interpret stead := by
  rw [extract, extract, h.clusterSize]
  by_cases hzero : chain.clusterSize = 0
  · rw [if_pos hzero, if_pos hzero]
    rfl
  rw [if_neg hzero, if_neg hzero]
  refine Inquiry.then_eq_interpret stead h.first ?_
  intro cluster
  rw [h.isValid]
  split
  · next hvalid =>
    split
    · rfl
    · refine Inquiry.then_eq_interpret stead (h.offset cluster hvalid) ?_
      intro offset
      refine Inquiry.then_eq_interpret stead ?_ fun walk => rfl
      rw [Inquiry.interpret_iterate, funext (ChainWalk.advance_interpret h base)]
  · rfl

end Interprets

/-- **An extraction is its calls, answered by the chain.** -/
theorem extract_eq_interpret (chain : ClusterChain I) (length base : Nat) :
    extract chain length base =
      (extract (.remote chain.clusterSize chain.isValid) length base).interpret chain.reply := by
  have hreply : (ClusterChain.remote chain.clusterSize chain.isValid).Interprets chain.reply chain :=
    { clusterSize := rfl
      isValid := rfl
      first := (Inquiry.interpret_query chain.reply .first).symm
      next := fun cluster => (Inquiry.interpret_query chain.reply (.next cluster)).symm
      offset := fun cluster _ => (Inquiry.interpret_query chain.reply (.offset cluster)).symm }
  exact extract_interpret hreply length base

/-! ### Guarded calls -/

section Guards

open ClusterChain (Guards)

variable {size : Nat} {isValid : ClusterId → Bool} {answer : Inquiry.Respondent ChainCalls Error}

/-- A step from a valid cluster asks once for the next one, and for its place if it is valid. It
ends at a valid cluster. -/
lemma ChainWalk.asked_advance (size : Nat) (answer : Inquiry.Respondent ChainCalls Error)
    (base : Nat) (walk : ChainWalk)
    (hvalid : isValid walk.cluster = true) :
    Guards isValid 1 ((walk.advance (.remote size isValid) base).asked answer) ∧
      ∀ next, (walk.advance (.remote size isValid) base).result answer = .ok next →
        isValid next.cluster = true := by
  have hcall : Guards isValid 1 [.next walk.cluster] :=
    ⟨by simpa [ChainCall.cluster?] using hvalid, by rfl⟩
  rw [advance, Inquiry.bind_eq, Inquiry.asked_bind, Inquiry.result_bind,
    ClusterChain.next_remote, Inquiry.asked_query, Inquiry.result_query]
  cases answer (.next walk.cluster) with
  | error error => exact ⟨hcall, by simp⟩
  | ok cluster =>
    dsimp only
    split
    · next hnext =>
      have hplace : Guards isValid 0 [.offset cluster] :=
        ⟨by simpa [ChainCall.cluster?] using hnext, by rfl⟩
      rw [Inquiry.bind_eq, Inquiry.asked_bind, Inquiry.result_bind, ClusterChain.offset_remote,
        Inquiry.asked_query, Inquiry.result_query]
      cases answer (.offset cluster) with
      | error error => exact ⟨hcall.append hplace, by simp⟩
      | ok offset =>
        dsimp only
        split
        · refine ⟨hcall.append hplace, fun next hresult => ?_⟩
          obtain rfl := Except.ok.inj hresult
          exact hnext
        · exact ⟨hcall.append hplace, by simp [Inquiry.result]⟩
    · exact ⟨hcall, by simp [Inquiry.result]⟩

/-- **The calls of a walk.** In `count` steps from a valid cluster, a walk asks about valid clusters
only, and at most `count` times for the next one.

**Proof sketch.** Induction on `count`. What one step preserves is that the walk stands at a valid
cluster. -/
theorem ChainWalk.asked_iterate (base count : Nat) (walk : ChainWalk)
    (hvalid : isValid walk.cluster = true) :
    Guards isValid count
      ((Inquiry.iterate (advance (.remote size isValid) base) count walk).asked answer) := by
  induction count generalizing walk with
  | zero => exact .nil isValid 0
  | succ count ih =>
    obtain ⟨hstep, hnext⟩ := asked_advance size answer base walk hvalid
    rw [Inquiry.iterate_succ, Inquiry.asked_bind, Nat.add_comm]
    refine hstep.append ?_
    cases hresult : (walk.advance (.remote size isValid) base).result answer with
    | error error => exact .nil isValid count
    | ok next => exact ih next (hnext next hresult)

/-- The calls of an extraction for a file of some clusters. -/
lemma asked_extract (length base : Nat) :
    Guards isValid (ceilDiv length size - 1)
      ((extract (.remote size isValid) length base).asked answer) := by
  rw [extract, ClusterChain.clusterSize_remote]
  split
  · exact .nil ..
  have hfirst : Guards isValid 0 [.first] := ⟨by simp [ChainCall.cluster?], by rfl⟩
  rw [Inquiry.bind_eq, Inquiry.asked_bind, ClusterChain.first_remote, Inquiry.asked_query,
    Inquiry.result_query]
  refine (hfirst.append ?_).mono (Nat.zero_add _).le
  cases answer .first with
  | error error => exact .nil ..
  | ok cluster =>
    dsimp only
    split
    · next hvalid =>
      split
      · exact .nil ..
      have hplace : Guards isValid 0 [.offset cluster] :=
        ⟨by simpa [ChainCall.cluster?] using hvalid, by rfl⟩
      rw [Inquiry.bind_eq, Inquiry.asked_bind, ClusterChain.offset_remote, Inquiry.asked_query,
        Inquiry.result_query]
      refine (hplace.append ?_).mono (Nat.zero_add _).le
      cases answer (.offset cluster) with
      | error error => exact .nil ..
      | ok offset =>
        dsimp only
        rw [Inquiry.bind_eq, Inquiry.asked_bind]
        refine ((ChainWalk.asked_iterate base _ _ ?_).append ?_).mono (Nat.add_zero _).le
        · exact hvalid
        · split <;> exact .nil ..
    · exact .nil ..

end Guards

/-! ### Success and failure -/

/-- **An extraction succeeds exactly for sound clusters**, as many as hold the file and at least
one. Otherwise it ends with the first fault of the chain. Either way its calls are answered by the
chain, they are about valid clusters only, and each further cluster of the file is asked for at most
once. What counts as a row of clusters is told with the 64 bits of their addresses; where no end
wraps, rows are maximal rows of clusters that lie directly one behind the other. -/
theorem extract_sound_or_first_fault {chain : ClusterChain I}
    {answer : Inquiry.Respondent I Error} {place : ClusterId → Nat}
    (hplace : chain.PlacedBy answer place) (hsize : 0 < chain.clusterSize) (length base : Nat) :
    ((∃ list, (extract chain length base).result answer = .ok list) ↔
      ∃ clusters : List ClusterId, clusters.length = max (ceilDiv length chain.clusterSize) 1 ∧
        chain.Sound answer place clusters) ∧
    (∀ error, (extract chain length base).result answer = .error error ↔
      ∃ index < max (ceilDiv length chain.clusterSize) 1, chain.Fault answer place index error ∧
        ∀ earlier < index, ∀ other, ¬chain.Fault answer place earlier other) ∧
    extract chain length base =
      (extract (.remote chain.clusterSize chain.isValid) length base).interpret chain.reply ∧
    ClusterChain.Guards chain.isValid (ceilDiv length chain.clusterSize - 1)
      (chain.calls answer length base) ∧
    ∀ clusters, chain.NoWrap place clusters → chain.rows place clusters =
      clusters.splitBy fun cluster next => place cluster + chain.clusterSize == place next := by
  have hresult := result_extract hplace hsize length base
  refine ⟨⟨?_, ?_⟩, fun error => ⟨?_, ?_⟩, extract_eq_interpret chain length base,
    asked_extract length base, fun _ => ClusterChain.rows_eq_splitBy⟩
  · rintro ⟨list, hlist⟩
    rw [hlist] at hresult
    obtain ⟨clusters, hlength, hsound, -⟩ := hresult
    exact ⟨clusters, hlength, hsound⟩
  · rintro ⟨clusters, hlength, hsound⟩
    exact ⟨_, result_extract_of_sound hplace hsize base hlength hsound⟩
  · intro herror
    rwa [herror] at hresult
  · rintro ⟨index, hindex, hfault, hfirst⟩
    cases hextract : (extract chain length base).result answer with
    | ok list =>
      rw [hextract] at hresult
      obtain ⟨clusters, hlength, hsound, -⟩ := hresult
      exact absurd hfault (hsound.not_fault (hlength ▸ hindex))
    | error found =>
      rw [hextract] at hresult
      obtain ⟨other, hother, hfound, hnone⟩ := hresult
      rcases lt_trichotomy index other with hlt | rfl | hgt
      · exact absurd hfault (hnone index hlt error)
      · rw [hfound.unique hfault]
      · exact absurd hfound (hfirst other hgt found)

/-- A file of two clusters, the second of which is not valid. -/
theorem extract_first_fault_invalid_member :
    (extract (.ofList Sectors 512 [5]) 1024 0).result (fun _ => .error .zeroClusterSize) =
      .error (.io (.invalidData (.invalidMember 0))) := by
  have hplace := ClusterChain.placedBy_ofList (I := Sectors) 512 [5]
    fun _ => .error .zeroClusterSize
  refine ((extract_sound_or_first_fault hplace (by decide) 1024 0).2.1 _).2
    ⟨1, by decide, .invalidMember rfl rfl, ?_⟩
  intro earlier hearlier other hfault
  obtain rfl : earlier = 0 := by omega
  have hsound : (ClusterChain.ofList Sectors 512 [5]).Sound (fun _ => .error .zeroClusterSize)
      (fun cluster => cluster.toNat * 512) [5] :=
    (ChainWalk.visited_start _ 1024 0 rfl rfl).sound
  exact hsound.not_fault (by decide) hfault

end BootExtents
