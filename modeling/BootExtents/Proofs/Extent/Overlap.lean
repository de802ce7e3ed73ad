import BootExtents.Proofs.Extent.Regions
import BootExtents.Proofs.Region.DiskUnits
import Mathlib

/-!
# Regions that overlap

The walk along a chain does not look back: a chain that returns to a cluster is followed as far as
the file's length reaches, and the cluster is mapped again. So the regions of a file overlap on the
disk exactly if the file's part of the chain has a cluster twice.

## Main definitions

* `BootExtents.ClusterChain.HasUnit` — a disk unit starts in a cluster.
* `BootExtents.ClusterChain.Backs` — an extent lies in a row of clusters.

## Main results

* `BootExtents.ClusterChain.pairwise_disjoint_extents_iff` — extents of rows overlap only where the
  rows share a cluster.
* `BootExtents.pairwise_disjoint_diskUnits_iff_nodup` — the regions of a file are disjoint exactly
  if its clusters are distinct.
-/

set_option relaxedAutoImplicit false
set_option autoImplicit false

namespace BootExtents

variable {I : Interface}

/-- Lists whose members correspond have corresponding relations between their members. -/
lemma pairwise_iff_of_forall₂ {α β : Type*} {R : α → β → Prop} {S : α → α → Prop}
    {T : β → β → Prop} (hiff : ∀ a b a' b', R a b → R a' b' → (S a a' ↔ T b b'))
    {xs : List α} {ys : List β} (h : List.Forall₂ R xs ys) : xs.Pairwise S ↔ ys.Pairwise T := by
  have hlength := h.length_eq
  rw [List.pairwise_iff_getElem, List.pairwise_iff_getElem]
  constructor
  · intro hpairwise i j hi hj hij
    exact (hiff _ _ _ _ (h.get (by omega) hi) (h.get (by omega) hj)).1
      (hpairwise i j (by omega) (by omega) hij)
  · intro hpairwise i j hi hj hij
    exact (hiff _ _ _ _ (h.get hi (by omega)) (h.get hj (by omega))).2
      (hpairwise i j (by omega) (by omega) hij)

namespace ClusterChain

/-! ### Extents and the clusters behind them -/

section Backs

/-- A disk unit starts in a cluster. -/
def HasUnit (chain : ClusterChain I) (place : ClusterId → Nat) (base : Nat) (cluster : ClusterId)
    (unit : Nat) : Prop :=
  base + place cluster ≤ unit * diskUnitSize ∧
    unit * diskUnitSize < base + place cluster + chain.clusterSize

/-- An extent lies in the clusters of a row, and needs the first unit of each. -/
structure Backs (chain : ClusterChain I) (place : ClusterId → Nat) (base : Nat)
    (row : List ClusterId) (extent : Extent) : Prop where
  first_mem : ∀ cluster ∈ row, (base + place cluster) / diskUnitSize ∈ extent.diskUnits
  exists_hasUnit : ∀ unit ∈ extent.diskUnits, ∃ cluster ∈ row, chain.HasUnit place base cluster unit

variable {chain : ClusterChain I} {place : ClusterId → Nat} {base left : Nat}
  {row other : List ClusterId} {rows : List (List ClusterId)} {extent extent' : Extent}

/-- The extent of a row lies in the row's clusters, if these are whole numbers of image units.

**Proof sketch.** The last cluster of the row is needed, so its start is, and so are those of the
clusters before it. Rounded up, the extent still ends within the row, as the row is a whole number
of image units. -/
lemma backs_rowExtent (hdvd : imageUnitSize ∣ chain.clusterSize) (hsize : 0 < chain.clusterSize)
    (hstart : diskUnitSize ∣ base + place (row.headD firstCluster))
    (hlt : base + place (row.headD firstCluster) < 2 ^ 64)
    (hrow : ∀ (index : Nat) (h : index < row.length),
      place row[index] = place (row.headD firstCluster) + index * chain.clusterSize)
    (hleft : row.length * chain.clusterSize < left + chain.clusterSize) :
    chain.Backs place base row (chain.rowExtent place base left row) where
  first_mem cluster hcluster := by
    obtain ⟨index, hindex, rfl⟩ := List.getElem_of_mem hcluster
    have hbefore : index * chain.clusterSize + chain.clusterSize ≤
        row.length * chain.clusterSize := by
      rw [← Nat.succ_mul]
      exact Nat.mul_le_mul_right _ hindex
    have hneeded : index * chain.clusterSize <
        ceilDiv (min (row.length * chain.clusterSize) left) imageUnitSize * imageUnitSize :=
      lt_of_lt_of_le (by omega) (le_ceilDiv_mul imageUnitSize_pos _)
    rw [Extent.mem_diskUnits, start_rowExtent hlt, rowExtent, Extent.size_onDisk]
    simp only [hrow index hindex, ← Nat.add_assoc, unitsPerImageUnit, imageUnitSize, diskUnitSize]
      at hneeded hstart ⊢
    omega
  exists_hasUnit unit hunit := by
    have hfits := @ceilDiv_rowExtent_mul_le I chain place hdvd base left row
    rw [Extent.mem_diskUnits, start_rowExtent hlt] at hunit
    have hge : base + place (row.headD firstCluster) ≤ unit * diskUnitSize := by
      have := Nat.mul_le_mul_right diskUnitSize hunit.1
      rwa [Nat.div_mul_cancel hstart] at this
    obtain ⟨distance, hdistance⟩ := Nat.exists_eq_add_of_le hge
    have hlt : distance < row.length * chain.clusterSize := by
      simp only [unitsPerImageUnit, imageUnitSize, diskUnitSize] at hunit hfits hstart hdistance
      omega
    have hmod := Nat.mod_lt distance hsize
    obtain ⟨cluster, hcluster, hplace⟩ := exists_cluster_of_lt_row hsize hrow hlt
    refine ⟨cluster, hcluster, ?_⟩
    rw [HasUnit, hdistance]
    omega

/-- Extents are disjoint exactly if the rows behind them are, where clusters do not overlap. -/
lemma Backs.disjoint_iff
    (hapart : ∀ {cluster cluster' unit}, chain.HasUnit place base cluster unit →
      chain.HasUnit place base cluster' unit → cluster = cluster')
    (h : chain.Backs place base row extent) (h' : chain.Backs place base other extent') :
    row.Disjoint other ↔ Disjoint extent.diskUnits extent'.diskUnits := by
  rw [Finset.disjoint_left]
  constructor
  · intro hdisjoint unit hunit hunit'
    obtain ⟨cluster, hcluster, hhas⟩ := h.exists_hasUnit unit hunit
    obtain ⟨cluster', hcluster', hhas'⟩ := h'.exists_hasUnit unit hunit'
    obtain rfl := hapart hhas hhas'
    exact hdisjoint hcluster hcluster'
  · intro hdisjoint cluster hcluster hcluster'
    exact hdisjoint (h.first_mem cluster hcluster) (h'.first_mem cluster hcluster')

/-- The extents of rows lie in these, if the last cluster is needed. -/
lemma forall₂_backs_extents (hdvd : imageUnitSize ∣ chain.clusterSize)
    (hsize : 0 < chain.clusterSize)
    (hrows : ∀ row ∈ rows, row ≠ [] ∧ diskUnitSize ∣ base + place (row.headD firstCluster) ∧
      base + place (row.headD firstCluster) < 2 ^ 64 ∧
      ∀ (index : Nat) (h : index < row.length),
        place row[index] = place (row.headD firstCluster) + index * chain.clusterSize)
    (hleft : rows.flatten.length * chain.clusterSize < left + chain.clusterSize) :
    List.Forall₂ (chain.Backs place base) rows (chain.extents place base left rows) := by
  induction rows generalizing left with
  | nil => exact .nil
  | cons row rows ih =>
    obtain ⟨hne, hstart, hlt, hrow⟩ := hrows row (List.mem_cons_self ..)
    have hpos := Nat.le_mul_of_pos_left chain.clusterSize (List.length_pos_of_ne_nil hne)
    rw [List.flatten_cons, List.length_append, Nat.add_mul] at hleft
    refine .cons (backs_rowExtent hdvd hsize hstart hlt hrow (by omega)) ?_
    exact ih (fun other hother => hrows other (List.mem_cons_of_mem _ hother)) (by omega)

/-- **Extents of rows overlap only where rows share a cluster**: the extents of a file's clusters
are disjoint exactly if the clusters are distinct.

**Proof sketch.** Within a row, clusters lie at different places, so they are distinct. Two rows
share no cluster exactly if their extents share no unit (`Backs.disjoint_iff`). -/
theorem pairwise_disjoint_extents_iff {clusters : List ClusterId}
    (hdvd : imageUnitSize ∣ chain.clusterSize) (hsize : 0 < chain.clusterSize)
    (haligned : Aligned place base clusters)
    (hlt : ∀ cluster ∈ clusters, base + place cluster < 2 ^ 64)
    (hwrap : chain.NoWrap place clusters)
    (hapart : ∀ {cluster cluster' unit}, chain.HasUnit place base cluster unit →
      chain.HasUnit place base cluster' unit → cluster = cluster')
    (hleft : clusters.length * chain.clusterSize < left + chain.clusterSize) :
    ((chain.extents place base left (chain.rows place clusters)).Pairwise fun extent next =>
      Disjoint extent.diskUnits next.diskUnits) ↔ clusters.Nodup := by
  have hbacks : List.Forall₂ (chain.Backs place base) (chain.rows place clusters)
      (chain.extents place base left (chain.rows place clusters)) := by
    refine forall₂_backs_extents hdvd hsize (fun row hrow => ?_) (by rwa [flatten_rows])
    have hhead := headD_mem_of_mem_rows hrow
    exact ⟨ne_nil_of_mem_rows hrow, haligned _ hhead, hlt _ hhead, place_getElem_row hwrap hrow⟩
  have hnodup : ∀ row ∈ chain.rows place clusters, row.Nodup := by
    intro row hrow
    rw [List.nodup_iff_injective_getElem]
    intro index index' heq
    dsimp only at heq
    have hplace := place_getElem_row hwrap hrow index index.2
    rw [heq, place_getElem_row hwrap hrow index' index'.2, Nat.add_left_cancel_iff] at hplace
    exact Fin.ext (Nat.eq_of_mul_eq_mul_right hsize hplace).symm
  have hrows : (chain.rows place clusters).Pairwise List.Disjoint ↔
      (chain.extents place base left (chain.rows place clusters)).Pairwise
        fun extent next => Disjoint extent.diskUnits next.diskUnits :=
    pairwise_iff_of_forall₂ (fun _ _ _ _ h h' => h.disjoint_iff hapart h') hbacks
  rw [← hrows]
  conv_rhs => rw [← flatten_rows chain place clusters, List.nodup_flatten]
  exact ⟨fun h => ⟨hnodup, h⟩, And.right⟩

/-- Clusters that lie in the order of their numbers do not overlap. -/
lemma eq_of_hasUnit {cluster cluster' : ClusterId} {unit : Nat}
    (h : chain.HasUnit (fun cluster => cluster.toNat * chain.clusterSize) base cluster unit)
    (h' : chain.HasUnit (fun cluster => cluster.toNat * chain.clusterSize) base cluster' unit) :
    cluster = cluster' := by
  unfold HasUnit at h h'
  dsimp only at h h'
  have hle : cluster.toNat < cluster'.toNat + 1 := by
    apply Nat.lt_of_mul_lt_mul_right (a := chain.clusterSize)
    rw [Nat.succ_mul]
    omega
  have hge : cluster'.toNat < cluster.toNat + 1 := by
    apply Nat.lt_of_mul_lt_mul_right (a := chain.clusterSize)
    rw [Nat.succ_mul]
    omega
  exact UInt32.toNat_inj.1 (by omega)

end Backs

end ClusterChain

/-! ### Files -/

section Extract

variable {chain : ClusterChain I} {answer : Inquiry.Respondent I Error} {length base : Nat}
  {list : RegionList}

/-- A chain whose regions are known has clusters of some size. -/
lemma clusterSize_pos_of_extract (hresult : (extract chain length base).result answer = .ok list) :
    0 < chain.clusterSize := by
  rw [Nat.pos_iff_ne_zero]
  intro hzero
  simp [extract, hzero, Inquiry.result] at hresult

/-- **No disk unit is mapped twice, unless a cluster is.** Where clusters are whole numbers of image
units and lie in the order of their numbers, within the 64 bits of an address, the regions of a file
are disjoint on the disk exactly if the clusters that hold the file are distinct.

**Proof sketch.** The regions are those of the rows of the file's clusters
(`ClusterChain.exists_layout_of_aligned`), so they have the disk units of the rows' extents
(`map_diskUnits_ofExtents`). These overlap only where rows share a cluster
(`ClusterChain.pairwise_disjoint_extents_iff`). -/
theorem pairwise_disjoint_diskUnits_iff_nodup
    (hplaced : chain.PlacedBy answer fun cluster => cluster.toNat * chain.clusterSize)
    (hdvd : imageUnitSize ∣ chain.clusterSize) (hsize : chain.clusterSize < 2 ^ 32)
    (hbase : diskUnitSize ∣ base) (hunits : ceilDiv length imageUnitSize < 2 ^ 32)
    (hstart : ∀ index < ceilDiv length chain.clusterSize, ∀ cluster,
      chain.clusterAt answer index = .ok cluster →
        base + cluster.toNat * chain.clusterSize < 2 ^ 64)
    (hresult : (extract chain length base).result answer = .ok list) :
    ∃ clusters : List ClusterId, clusters.length = ceilDiv length chain.clusterSize ∧
      chain.BeginsWith answer clusters ∧
      ((list.regions.Pairwise fun region next => Disjoint region.diskUnits next.diskUnits) ↔
        clusters.Nodup) := by
  have hfits : chain.Fits answer (fun cluster => cluster.toNat * chain.clusterSize) length base :=
    { placed := hplaced
      size_pos := clusterSize_pos_of_extract hresult
      base_dvd := hbase
      place_dvd := fun _ _ cluster _ =>
        (((by decide : diskUnitSize ∣ imageUnitSize).trans hdvd).mul_left cluster.toNat)
      start_lt := hstart
      units_lt := hunits }
  obtain ⟨clusters, hlength, hsound, rfl⟩ := hfits.exists_layout hresult
  refine ⟨clusters, hlength, hsound.begins, ?_⟩
  rw [RegionList.ofRegions, ← List.pairwise_map, map_diskUnits_ofExtents 0
    (hfits.isLayout hsound hlength) (hfits.units_extents_lt hsound hlength), List.pairwise_map]
  have hwrap := hfits.noWrap (ClusterChain.endsFit_of_lt hsize) hlength hsound.begins
  exact ClusterChain.pairwise_disjoint_extents_iff hdvd hfits.size_pos
    (hfits.aligned hlength hsound.begins) (hfits.forall_start_lt hlength hsound.begins) hwrap
    ClusterChain.eq_of_hasUnit (hlength ▸ ceilDiv_mul_lt hfits.size_pos length)

/-- Three clusters in two rows, on a volume that starts at the third disk unit. -/
theorem pairwise_disjoint_diskUnits_iff_nodup_two_rows :
    ∃ clusters : List ClusterId, clusters.length = ceilDiv 6000 2048 ∧
      (ClusterChain.ofList Sectors 2048 [10, 11, 14]).BeginsWith
        (fun _ => .error .zeroClusterSize) clusters ∧
      (([Region.mk 0 2 42, ⟨2, 1, 58⟩].Pairwise fun region next =>
        Disjoint region.diskUnits next.diskUnits) ↔ clusters.Nodup) := by
  have hresult : (extract (.ofList Sectors 2048 [10, 11, 14]) 6000 1024).result
      (fun _ => .error .zeroClusterSize) = .ok (.ofRegions [⟨0, 2, 42⟩, ⟨2, 1, 58⟩]) := by rfl
  refine pairwise_disjoint_diskUnits_iff_nodup
    (ClusterChain.placedBy_ofList 2048 [10, 11, 14] _) (by decide) (by decide) (by decide)
    (by decide) (fun _ _ cluster _ => ?_) hresult
  have := cluster.toNat_lt
  show 1024 + cluster.toNat * 2048 < 2 ^ 64
  omega

/-- A chain of two clusters that goes round is followed, and its first cluster mapped twice. -/
theorem overlap_of_cycle :
    (ClusterChain.ofList Sectors 2048 [10, 12, 10]).PlacedBy (fun _ => .error .zeroClusterSize)
        (fun cluster => cluster.toNat * 2048) ∧
      imageUnitSize ∣ 2048 ∧ diskUnitSize ∣ 0 ∧ ceilDiv 6144 imageUnitSize < 2 ^ 32 ∧
      (extract (.ofList Sectors 2048 [10, 12, 10]) 6144 0).result
          (fun _ => .error .zeroClusterSize) =
        .ok (.ofRegions [⟨0, 1, 40⟩, ⟨1, 1, 48⟩, ⟨2, 1, 40⟩]) ∧
      ¬[Region.mk 0 1 40, ⟨1, 1, 48⟩, ⟨2, 1, 40⟩].Pairwise fun region next =>
        Disjoint region.diskUnits next.diskUnits := by
  refine ⟨ClusterChain.placedBy_ofList 2048 _ _, by decide, by decide, by decide, by rfl, ?_⟩
  intro hdisjoint
  have hends := (List.pairwise_cons.1 hdisjoint).1 ⟨2, 1, 40⟩ (by simp)
  have hfirst : 40 ∈ (Region.mk 0 1 40).diskUnits := by decide
  exact Finset.disjoint_left.1 hends hfirst (by decide)

end Extract

end BootExtents
