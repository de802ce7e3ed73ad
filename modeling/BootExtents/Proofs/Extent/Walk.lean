import BootExtents.Inquiry.Lemmas
import BootExtents.Proofs.Extent.Chain
import BootExtents.Proofs.Region.Tiling
import Mathlib

/-!
# What a walk along a chain finds

Extraction visits the clusters of a chain one after the other and folds them into extents. Here it
is told apart from its questions: as long as the clusters visited are sound, the walk's state is a
function of them, and the first fault ends the walk with its error.

## Main definitions

* `BootExtents.ClusterChain.rowExtent`, `extents` — the bytes that rows of clusters hold.
* `BootExtents.ExtentFold.Holds` — the fold of given clusters.
* `BootExtents.ChainWalk.Visited` — the state of a walk that has visited given clusters.

## Main results

* `BootExtents.ChainWalk.Visited.advance` — what one step preserves.
* `BootExtents.ChainWalk.Visited.iterate` — what a whole run preserves.
* `BootExtents.result_extract` — the end of an extraction: the regions of sound clusters, or the
  first fault.
* `BootExtents.result_extract_of_sound` — sound clusters are extracted.
-/

set_option relaxedAutoImplicit false
set_option autoImplicit false

namespace BootExtents

variable {I : Interface}

/-! ### Extents of rows -/

namespace ClusterChain

/-- The extent of a row that holds the next bytes of a file, of which `left` are still to come. -/
def rowExtent (chain : ClusterChain I) (place : ClusterId → Nat) (base left : Nat)
    (row : List ClusterId) : Extent :=
  .onDisk base (place (row.headD firstCluster)) (min (row.length * chain.clusterSize) left)

/-- The extents of rows that hold the next bytes of a file, one row after the other. -/
def extents (chain : ClusterChain I) (place : ClusterId → Nat) (base : Nat) :
    (left : Nat) → List (List ClusterId) → List Extent
  | _, [] => []
  | left, row :: rows =>
    chain.rowExtent place base left row ::
      chain.extents place base (left - row.length * chain.clusterSize) rows

/-- A row's extent starts with the row's first cluster, if this one has an address of 64 bits. -/
lemma start_rowExtent {chain : ClusterChain I} {place : ClusterId → Nat} {base : Nat}
    {row : List ClusterId} (h : base + place (row.headD firstCluster) < 2 ^ 64) (left : Nat) :
    (chain.rowExtent place base left row).start = base + place (row.headD firstCluster) :=
  Nat.mod_eq_of_lt h

/-- One more row has one more extent, of what the rows before it leave. -/
lemma extents_concat (chain : ClusterChain I) (place : ClusterId → Nat) (base left : Nat)
    (rows : List (List ClusterId)) (row : List ClusterId) :
    chain.extents place base left (rows ++ [row]) =
      chain.extents place base left rows ++
        [chain.rowExtent place base (left - rows.flatten.length * chain.clusterSize) row] := by
  induction rows generalizing left with
  | nil => simp [extents]
  | cons first rows ih =>
    simp only [List.cons_append, extents, ih, List.flatten_cons, List.length_append, Nat.add_mul,
      Nat.sub_add_eq]

/-- Every row has an extent. -/
@[simp] lemma length_extents (chain : ClusterChain I) (place : ClusterId → Nat) (base left : Nat)
    (rows : List (List ClusterId)) :
    (chain.extents place base left rows).length = rows.length := by
  induction rows generalizing left with
  | nil => rfl
  | cons row rows ih => simp [extents, ih]

/-- An extent of rows is that of one of them. -/
lemma exists_row_of_mem_extents {chain : ClusterChain I} {place : ClusterId → Nat} {base left : Nat}
    {rows : List (List ClusterId)} {extent : Extent}
    (h : extent ∈ chain.extents place base left rows) :
    ∃ row ∈ rows, ∃ rest, extent = chain.rowExtent place base rest row := by
  induction rows generalizing left with
  | nil => simp [extents] at h
  | cons row rows ih =>
    rw [extents, List.mem_cons] at h
    rcases h with rfl | h
    · exact ⟨row, List.mem_cons_self .., left, rfl⟩
    · obtain ⟨other, hother, hextent⟩ := ih h
      exact ⟨other, List.mem_cons_of_mem _ hother, hextent⟩

end ClusterChain

/-- A row of clusters that are whole numbers of image units has room for the image units of its
extent. -/
lemma ceilDiv_rowExtent_mul_le {chain : ClusterChain I} {place : ClusterId → Nat}
    (hdvd : imageUnitSize ∣ chain.clusterSize) (base left : Nat) (row : List ClusterId) :
    ceilDiv (chain.rowExtent place base left row).size imageUnitSize * imageUnitSize ≤
      row.length * chain.clusterSize :=
  ceilDiv_mul_le_of_dvd imageUnitSize_pos (Nat.dvd_mul_left_of_dvd hdvd row.length)
    (min_le_left _ _)

/-! ### The fold of the clusters visited -/

namespace ExtentFold

variable {chain : ClusterChain I} {place : ClusterId → Nat} {length base : Nat}
  {clusters row : List ClusterId} {done : List (List ClusterId)} {cluster next : ClusterId}
  {fold : ExtentFold}

/-- The fold of the given first clusters of a file: the last row of them is pending, the rows
before it have become regions. -/
structure Holds (chain : ClusterChain I) (place : ClusterId → Nat) (length base : Nat)
    (done : List (List ClusterId)) (row : List ClusterId) (fold : ExtentFold) : Prop where
  builder : fold.builder = RegionBuilder.empty.pushAll (chain.extents place base length done)
  pending : fold.pending =
    chain.rowExtent place base (length - done.flatten.length * chain.clusterSize) row

/-- A row behind which the file goes on is full. -/
lemma size_rowExtent (base : Nat) (hrows : chain.rows place clusters = done ++ [row])
    (hmore : clusters.length * chain.clusterSize < length) :
    (chain.rowExtent place base (length - done.flatten.length * chain.clusterSize) row).size =
      row.length * chain.clusterSize := by
  rw [ClusterChain.length_of_rows_eq hrows, Nat.add_mul] at hmore
  rw [ClusterChain.rowExtent, Extent.size_onDisk]
  omega

/-- A row behind which the file goes on ends where its last cluster ends. -/
lemma stop_rowExtent (base : Nat) (hrows : chain.rows place clusters = done ++ [row])
    (hlast : clusters.getLast? = some cluster)
    (hmore : clusters.length * chain.clusterSize < length) :
    (chain.rowExtent place base (length - done.flatten.length * chain.clusterSize) row).stop =
      (base + (place cluster + chain.clusterSize)) % 2 ^ 64 := by
  have hmem : row ∈ chain.rows place clusters := by simp [hrows]
  have hend := ClusterChain.modEq_getLast_row hmem ((ClusterChain.getLast?_row hrows).trans hlast)
  rw [Extent.stop_eq, size_rowExtent base hrows hmore, ClusterChain.rowExtent, Extent.start_onDisk,
    Nat.mod_add_mod, Nat.add_assoc]
  exact (hend.add_left base).symm

/-- The next cluster continues a row behind which the file goes on exactly if it starts where the
row's last cluster ends: where the volume starts is part of both sums. -/
lemma stop_rowExtent_eq_iff (base size : Nat) (hrows : chain.rows place clusters = done ++ [row])
    (hlast : clusters.getLast? = some cluster)
    (hmore : clusters.length * chain.clusterSize < length) :
    (chain.rowExtent place base (length - done.flatten.length * chain.clusterSize) row).stop =
      (Extent.onDisk base (place next) size).start ↔ chain.Adjoins place cluster next := by
  rw [stop_rowExtent base hrows hlast hmore]
  exact ⟨Nat.ModEq.add_left_cancel' base, Nat.ModEq.add_left base⟩

/-- The next cluster makes the pending row longer if it starts where the last one ends. -/
lemma Holds.add_of_adjoins (h : Holds chain place length base done row fold)
    (hrows : chain.rows place clusters = done ++ [row]) (hlast : clusters.getLast? = some cluster)
    (hmore : clusters.length * chain.clusterSize < length)
    (hnext : chain.Adjoins place cluster next) :
    ∃ fold', fold.add (.onDisk base (place next) (min chain.clusterSize
        (length - clusters.length * chain.clusterSize))) = .ok fold' ∧
      Holds chain place length base done (row ++ [next]) fold' := by
  have hmem : row ∈ chain.rows place clusters := by simp [hrows]
  obtain ⟨head, rest, rfl⟩ :=
    List.exists_cons_of_ne_nil (ClusterChain.ne_nil_of_mem_rows hmem)
  rw [add, h.pending, if_pos ((stop_rowExtent_eq_iff base _ hrows hlast hmore).2 hnext)]
  refine ⟨_, rfl, h.builder, ?_⟩
  rw [size_rowExtent base hrows hmore]
  rw [ClusterChain.length_of_rows_eq hrows] at hmore ⊢
  simp only [ClusterChain.rowExtent, Extent.onDisk, Nat.add_mul, List.cons_append, List.headD_cons,
    List.length_cons, List.length_append, List.length_nil, Extent.mk.injEq, true_and] at hmore ⊢
  omega

/-- The next cluster starts a row if it lies elsewhere and the pending row is whole. -/
lemma Holds.add_of_not_adjoins (h : Holds chain place length base done row fold)
    (hrows : chain.rows place clusters = done ++ [row]) (hlast : clusters.getLast? = some cluster)
    (hmore : clusters.length * chain.clusterSize < length)
    (hnext : ¬chain.Adjoins place cluster next)
    (hwhole : imageUnitSize ∣ row.length * chain.clusterSize) :
    ∃ fold', fold.add (.onDisk base (place next) (min chain.clusterSize
        (length - clusters.length * chain.clusterSize))) = .ok fold' ∧
      Holds chain place length base (done ++ [row]) [next] fold' := by
  rw [add, h.pending, if_neg (mt (stop_rowExtent_eq_iff base _ hrows hlast hmore).1 hnext),
    size_rowExtent base hrows hmore, if_neg (by simpa using Nat.mod_eq_zero_of_dvd hwhole)]
  refine ⟨_, rfl, ?_, ?_⟩
  · rw [ClusterChain.extents_concat, RegionBuilder.pushAll_concat, h.builder,
      size_rowExtent base hrows hmore]
  · simp [ClusterChain.rowExtent, ClusterChain.length_of_rows_eq hrows]

/-- No cluster starts a row behind one that is no whole number of image units. -/
lemma Holds.add_of_not_dvd (h : Holds chain place length base done row fold)
    (hrows : chain.rows place clusters = done ++ [row]) (hlast : clusters.getLast? = some cluster)
    (hmore : clusters.length * chain.clusterSize < length)
    (hnext : ¬chain.Adjoins place cluster next)
    (hwhole : ¬imageUnitSize ∣ row.length * chain.clusterSize) (size : Nat) :
    ∃ extent : Extent, fold.add (.onDisk base (place next) size) = .error extent ∧
      extent.size = row.length * chain.clusterSize := by
  have hsize := size_rowExtent base hrows hmore
  rw [add, h.pending, if_neg (mt (stop_rowExtent_eq_iff base _ hrows hlast hmore).1 hnext), hsize,
    if_pos (by rwa [Nat.dvd_iff_mod_eq_zero] at hwhole)]
  exact ⟨_, rfl, hsize⟩

end ExtentFold

/-! ### One step -/

namespace ChainWalk

/-- A walk for the first `length` bytes of a chain has visited the given clusters. -/
structure Visited (chain : ClusterChain I) (answer : Inquiry.Respondent I Error)
    (place : ClusterId → Nat) (length base : Nat) (clusters : List ClusterId)
    (walk : ChainWalk) : Prop where
  sound : chain.Sound answer place clusters
  cluster : clusters.getLast? = some walk.cluster
  left : walk.left = length - clusters.length * chain.clusterSize
  fold : ∃ done row, chain.rows place clusters = done ++ [row] ∧
    walk.fold.Holds chain place length base done row

variable {chain : ClusterChain I} {answer : Inquiry.Respondent I Error}
  {place : ClusterId → Nat} {length base : Nat} {clusters : List ClusterId} {walk : ChainWalk}

/-- What a step ends with, the answers being known. -/
lemma result_advance (hplace : chain.PlacedBy answer place) (walk : ChainWalk) :
    (walk.advance chain base).result answer =
      match (chain.next walk.cluster).result answer with
      | .error error => .error error
      | .ok cluster =>
        if chain.isValid cluster then
          match walk.fold.add (.onDisk base (place cluster) (min chain.clusterSize walk.left)) with
          | .ok fold => .ok ⟨cluster, walk.index + 1, walk.left - chain.clusterSize, fold⟩
          | .error extent => .error (.io (.invalidData (.unaligned extent.size)))
        else .error (.io (.invalidData (.invalidMember cluster))) := by
  rw [advance, Inquiry.bind_eq, Inquiry.result_bind]
  cases (chain.next walk.cluster).result answer with
  | error error => rfl
  | ok cluster =>
    dsimp only
    split_ifs with hvalid
    · rw [Inquiry.bind_eq, Inquiry.result_bind, hplace cluster hvalid]
      dsimp only
      cases walk.fold.add (.onDisk base (place cluster) (min chain.clusterSize walk.left)) <;> rfl
    · rfl

/-- **One step.** A walk that has visited sound clusters, and not yet the whole file, either visits
one more cluster, with which the clusters are still sound, or meets the fault at its place.

**Proof sketch.** The chain's own error and an invalid cluster are faults as they stand. A valid
cluster that starts where the cluster before it ends makes the last row longer
(`ExtentFold.Holds.add_of_adjoins`). Otherwise it starts a row if the row before it is whole
(`ExtentFold.Holds.add_of_not_adjoins`), and is where the fault shows if not. -/
theorem Visited.advance (hplace : chain.PlacedBy answer place)
    (h : Visited chain answer place length base clusters walk)
    (hmore : clusters.length * chain.clusterSize < length) :
    match (walk.advance chain base).result answer with
    | .ok next => ∃ cluster,
        Visited chain answer place length base (clusters ++ [cluster]) next
    | .error error => chain.Fault answer place clusters.length error := by
  obtain ⟨done, row, hrows, hfold⟩ := h.fold
  have hat := h.sound.begins.clusterAt_length h.cluster
  rw [result_advance hplace]
  cases hnext : (chain.next walk.cluster).result answer with
  | error error => exact .refused (hat.trans hnext)
  | ok cluster =>
    rw [hnext] at hat
    dsimp only
    split_ifs with hvalid
    · have hleft : length - clusters.length * chain.clusterSize - chain.clusterSize =
          length - (clusters ++ [cluster]).length * chain.clusterSize := by
        rw [List.length_append, List.length_singleton, Nat.succ_mul, Nat.sub_add_eq]
      rw [h.left]
      by_cases htouch : chain.Adjoins place walk.cluster cluster
      · obtain ⟨fold, hadd, hholds⟩ := hfold.add_of_adjoins hrows h.cluster hmore htouch
        have hsound := h.sound.concat_of_adjoins hrows h.cluster hat hvalid htouch
        have hrows' := ClusterChain.rows_concat_of_adjoins hrows h.cluster htouch
        rw [hadd]
        exact ⟨cluster, hsound, by simp, hleft, _, _, hrows', hholds⟩
      by_cases hwhole : imageUnitSize ∣ row.length * chain.clusterSize
      · obtain ⟨fold, hadd, hholds⟩ := hfold.add_of_not_adjoins hrows h.cluster hmore htouch hwhole
        have hsound := h.sound.concat_of_not_adjoins hrows h.cluster hat hvalid htouch hwhole
        have hrows' := ClusterChain.rows_concat_of_not_adjoins h.cluster htouch
        rw [hrows] at hrows'
        rw [hadd]
        exact ⟨cluster, hsound, by simp, hleft, _, _, hrows', hholds⟩
      · obtain ⟨extent, hadd, hsize⟩ := hfold.add_of_not_dvd hrows h.cluster hmore htouch hwhole _
        have hbegins := ClusterChain.beginsWith_concat.2 ⟨h.sound.begins, hat⟩
        rw [hadd]
        dsimp only
        rw [hsize]
        exact .unaligned rfl hbegins hvalid (by simp [hrows]) h.cluster htouch hwhole
    · obtain ⟨front, hfront⟩ : ∃ front, clusters = front ++ [walk.cluster] :=
        ⟨_, (List.dropLast_append_getLast? _ h.cluster).symm⟩
      rw [hfront, List.length_append, List.length_singleton] at hat ⊢
      exact .invalidMember hat (by simpa using hvalid)

/-! ### A whole run -/

/-- **A whole run.** After `count` steps within the file, a walk has visited as many more clusters,
and all are sound; or it ended with the first fault of the chain.

**Proof sketch.** Induction on `count`. Each step keeps what `Visited.advance` says; where it fails,
the clusters before it are sound and so have no fault (`Sound.not_fault`). -/
theorem Visited.iterate (hplace : chain.PlacedBy answer place) (count : ℕ)
    (h : Visited chain answer place length base clusters walk)
    (hmore : ∀ index < count, (clusters.length + index) * chain.clusterSize < length) :
    match (Inquiry.iterate (ChainWalk.advance chain base) count walk).result answer with
    | .ok final => ∃ more : List ClusterId, more.length = count ∧
        Visited chain answer place length base (clusters ++ more) final
    | .error error => ∃ index < clusters.length + count, chain.Fault answer place index error ∧
        ∀ earlier < index, ∀ other, ¬chain.Fault answer place earlier other := by
  induction count generalizing clusters walk with
  | zero => exact ⟨[], rfl, by simpa using h⟩
  | succ count ih =>
    have hstep := h.advance hplace (hmore 0 (Nat.succ_pos _))
    rw [Inquiry.iterate_succ, Inquiry.result_bind]
    cases hresult : (walk.advance chain base).result answer with
    | error error =>
      rw [hresult] at hstep
      exact ⟨clusters.length, by omega, hstep, fun _ hearlier _ => h.sound.not_fault hearlier⟩
    | ok next =>
      rw [hresult] at hstep
      obtain ⟨cluster, hvisited⟩ := hstep
      have hlength : (clusters ++ [cluster]).length = clusters.length + 1 := by simp
      have hrun := ih hvisited fun index hindex => by
        rw [hlength, Nat.add_assoc, Nat.add_comm 1]
        exact hmore (index + 1) (Nat.succ_lt_succ hindex)
      dsimp only
      cases hfinal : (Inquiry.iterate (ChainWalk.advance chain base) count next).result answer with
      | error error =>
        rw [hfinal] at hrun
        obtain ⟨index, hindex, hfault⟩ := hrun
        exact ⟨index, by omega, hfault⟩
      | ok final =>
        rw [hfinal] at hrun
        obtain ⟨more, hmorelength, hvisited'⟩ := hrun
        refine ⟨cluster :: more, by simp [hmorelength], ?_⟩
        rwa [← List.singleton_append, ← List.append_assoc]

end ChainWalk

/-! ### Extraction -/

variable {chain : ClusterChain I} {answer : Inquiry.Respondent I Error}
  {place : ClusterId → Nat}

/-- The walk starts at the first cluster of a chain. -/
lemma ChainWalk.visited_start (place : ClusterId → Nat) (length base : Nat)
    {cluster : ClusterId} (hfirst : chain.clusterAt answer 0 = .ok cluster)
    (hvalid : chain.isValid cluster = true) :
    Visited chain answer place length base [cluster]
      ⟨cluster, 0, length - chain.clusterSize,
        ⟨.empty, .onDisk base (place cluster) (min chain.clusterSize length)⟩⟩ where
  sound := {
    begins := fun index hindex => by
      obtain rfl : index = 0 := by simpa using hindex
      exact hfirst
    valid := fun member hmember => List.mem_singleton.1 hmember ▸ hvalid
    whole := by simp }
  cluster := rfl
  left := by simp
  fold := ⟨[], [cluster], rfl, rfl, by simp [ClusterChain.rowExtent]⟩

/-- **Extraction.** The regions of a file are those of the rows of its clusters, which are sound;
if there are none, the extraction ends with the first fault of the chain. An empty file has no
regions, but its first cluster counts as well.

**Proof sketch.** The first cluster is told and valid, or is the fault. Then the walk starts
(`ChainWalk.visited_start`) and runs over the rest of the file (`ChainWalk.Visited.iterate`). Its
last fold holds all rows but the last one as regions, and the last one pending. -/
theorem result_extract (hplace : chain.PlacedBy answer place) (hsize : 0 < chain.clusterSize)
    (length base : Nat) :
    match (extract chain length base).result answer with
    | .ok list => ∃ clusters : List ClusterId,
        clusters.length = max (ceilDiv length chain.clusterSize) 1 ∧
        chain.Sound answer place clusters ∧
        list = (RegionBuilder.empty.pushAll
          (chain.extents place base length (chain.rows place clusters))).build
    | .error error => ∃ index < max (ceilDiv length chain.clusterSize) 1,
        chain.Fault answer place index error ∧
        ∀ earlier < index, ∀ other, ¬chain.Fault answer place earlier other := by
  rw [extract, if_neg hsize.ne', Inquiry.bind_eq, Inquiry.result_bind]
  cases hfirst : chain.first.result answer with
  | error error => exact ⟨0, by omega, .refused hfirst, by simp⟩
  | ok cluster =>
    dsimp only
    by_cases hvalid : chain.isValid cluster = true
    · rw [if_pos hvalid]
      have hvisited := ChainWalk.visited_start place length base hfirst hvalid
      rcases Nat.eq_zero_or_pos length with rfl | hpos
      · refine ⟨[cluster], by simp [ceilDiv_zero hsize], hvisited.sound, ?_⟩
        simp [ClusterChain.extents, ClusterChain.rowExtent,
          RegionBuilder.pushAll, RegionBuilder.push]
      · rw [if_neg hpos.ne', Inquiry.bind_eq, Inquiry.result_bind, hplace cluster hvalid]
        dsimp only
        have hcount : 0 < ceilDiv length chain.clusterSize :=
          (lt_ceilDiv hsize 0 length).2 (by simpa)
        have hrun := hvisited.iterate hplace (ceilDiv length chain.clusterSize - 1)
          fun index hindex => (lt_ceilDiv hsize _ length).1 (by simp; omega)
        rw [Inquiry.bind_eq, Inquiry.result_bind]
        cases hfinal : (Inquiry.iterate (ChainWalk.advance chain base)
            (ceilDiv length chain.clusterSize - 1)
            ⟨cluster, 0, length - chain.clusterSize,
              ⟨.empty, .onDisk base (place cluster) (min chain.clusterSize length)⟩⟩).result
                answer with
        | error error =>
          rw [hfinal] at hrun
          obtain ⟨index, hindex, hfault⟩ := hrun
          exact ⟨index, by simp at hindex; omega, hfault⟩
        | ok final =>
          rw [hfinal] at hrun
          obtain ⟨more, hlength, hvisited'⟩ := hrun
          refine ⟨[cluster] ++ more, by simp [hlength]; omega, hvisited'.sound, ?_⟩
          obtain ⟨done, row, hrows, hholds⟩ := hvisited'.fold
          rw [hrows, ClusterChain.extents_concat, RegionBuilder.pushAll_concat, ← hholds.builder,
            ← hholds.pending]
          rfl
    · rw [if_neg hvalid]
      exact ⟨0, by omega, .invalidStart hfirst (by simpa using hvalid), by simp⟩

/-- Sound clusters, as many as hold the file, are extracted. -/
theorem result_extract_of_sound (hplace : chain.PlacedBy answer place)
    (hsize : 0 < chain.clusterSize) {length : Nat} (base : Nat) {clusters : List ClusterId}
    (hlength : clusters.length = max (ceilDiv length chain.clusterSize) 1)
    (h : chain.Sound answer place clusters) :
    (extract chain length base).result answer = .ok (RegionBuilder.empty.pushAll
      (chain.extents place base length (chain.rows place clusters))).build := by
  have hresult := result_extract hplace hsize length base
  cases hextract : (extract chain length base).result answer with
  | error error =>
    rw [hextract] at hresult
    obtain ⟨index, hindex, hfault, -⟩ := hresult
    exact absurd hfault (h.not_fault (hlength ▸ hindex))
  | ok list =>
    rw [hextract] at hresult
    obtain ⟨others, hothers, hsound, rfl⟩ := hresult
    rw [hsound.begins.eq_of_length_eq h.begins (hothers.trans hlength.symm)]

end BootExtents
