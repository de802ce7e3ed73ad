import BootExtents.Proofs.Extent.Walk
import BootExtents.Sector.Basic
import Mathlib

/-!
# The regions of a file

Where the clusters of a file start between disk units and the file is small enough for its image
units to be counted with 32 bits, the rows of its clusters are a layout. So its regions tile the image
with one region for each row, and put every byte where the file's clusters have it, as far as the 64
bits of an address tell. If the clusters lie below `2 ^ 64`, and those that others follow end there,
this is where the byte is.

## Main definitions

* `BootExtents.ClusterChain.Fits` — the numbers of a file fit a region list.
* `BootExtents.ClusterChain.EndsFit` — so do the ends of the clusters behind which the file goes on.
* `BootExtents.ClusterChain.Aligned` — clusters start between disk units.

## Main results

* `BootExtents.ClusterChain.Sound.isLayout` — the rows of a file's clusters are a layout.
* `BootExtents.ClusterChain.exists_rows_of_extract` — the regions of a file are pushed for the rows of
  its clusters.
* `BootExtents.ClusterChain.exists_layout_of_aligned`, `Fits.exists_layout` — the regions of a file
  are those of this layout.
* `BootExtents.ClusterChain.Fits.exists_region` — one region holds a byte of a file.
* `BootExtents.byte_of_extract` — every byte of the file is mapped to where its cluster has it.
* `BootExtents.minimal_tiling_of_extract` — the regions tile the image, as few as can be.
-/

set_option relaxedAutoImplicit false
set_option autoImplicit false

namespace BootExtents

variable {I : Interface}

namespace ClusterChain

/-- The numbers of a file fit a region list: its clusters lie between disk units of the disk, and
their addresses and the count of the image units are not too large. -/
structure Fits (chain : ClusterChain I) (answer : Inquiry.Respondent I Error)
    (place : ClusterId → Nat) (length base : Nat) : Prop where
  placed : chain.PlacedBy answer place
  size_pos : 0 < chain.clusterSize
  base_dvd : diskUnitSize ∣ base
  place_dvd : ∀ index < ceilDiv length chain.clusterSize, ∀ cluster,
    chain.clusterAt answer index = .ok cluster → diskUnitSize ∣ place cluster
  start_lt : ∀ index < ceilDiv length chain.clusterSize, ∀ cluster,
    chain.clusterAt answer index = .ok cluster → base + place cluster < 2 ^ 64
  units_lt : ceilDiv length imageUnitSize < 2 ^ 32

/-- Where a file goes on behind a cluster, the cluster ends below `2 ^ 64`. So it does if none of
the ends that an extraction works out on the disk overflows. -/
def EndsFit (chain : ClusterChain I) (answer : Inquiry.Respondent I Error)
    (place : ClusterId → Nat) (length : Nat) : Prop :=
  ∀ index, index + 1 < ceilDiv length chain.clusterSize → ∀ cluster,
    chain.clusterAt answer index = .ok cluster → place cluster + chain.clusterSize < 2 ^ 64

variable {chain : ClusterChain I} {answer : Inquiry.Respondent I Error}
  {place : ClusterId → Nat} {length base left : Nat} {clusters : List ClusterId}
  {rows : List (List ClusterId)}

/-! ### Rows as a layout -/

/-- Together, the extents of rows hold the bytes that are left, as far as the clusters reach. -/
lemma total_extents (chain : ClusterChain I) (place : ClusterId → Nat) (base left : Nat)
    (rows : List (List ClusterId)) :
    Extent.total (chain.extents place base left rows) =
      min (rows.flatten.length * chain.clusterSize) left := by
  induction rows generalizing left with
  | nil => simp [extents, Extent.total]
  | cons row rows ih =>
    rw [extents, Extent.total_cons, ih, rowExtent, Extent.size_onDisk, List.flatten_cons,
      List.length_append, Nat.add_mul]
    omega

/-- If the last cluster is needed, every row has bytes of the file. -/
lemma size_pos_of_mem_extents (hsize : 0 < chain.clusterSize) (hne : ∀ row ∈ rows, row ≠ [])
    (hleft : rows.flatten.length * chain.clusterSize < left + chain.clusterSize)
    {extent : Extent} (h : extent ∈ chain.extents place base left rows) : 0 < extent.size := by
  induction rows generalizing left with
  | nil => simp [extents] at h
  | cons row rows ih =>
    have hrow := Nat.le_mul_of_pos_left chain.clusterSize
      (List.length_pos_of_ne_nil (hne row (List.mem_cons_self ..)))
    rw [List.flatten_cons, List.length_append, Nat.add_mul] at hleft
    rw [extents, List.mem_cons] at h
    rcases h with rfl | h
    · rw [rowExtent, Extent.size_onDisk]
      omega
    · exact ih (fun other hother => hne other (List.mem_cons_of_mem _ hother)) (by omega) h

/-- If the last cluster is needed, rows that lie apart and are whole have such extents.

**Proof sketch.** Induction on the rows. A row that another one follows is full, since the file
reaches into the clusters behind it. If its extent ended where the next one starts, then so would
the row itself, as far as 64 bits tell. -/
lemma isChain_extents (hne : ∀ row ∈ rows, row ≠ [])
    (hapart : rows.IsChain fun row next =>
      imageUnitSize ∣ row.length * chain.clusterSize ∧
        ¬place (row.headD firstCluster) + row.length * chain.clusterSize ≡
          place (next.headD firstCluster) [MOD 2 ^ 64])
    (hleft : rows.flatten.length * chain.clusterSize < left + chain.clusterSize) :
    (chain.extents place base left rows).IsChain fun extent next =>
      imageUnitSize ∣ extent.size ∧ extent.start + extent.size ≠ next.start := by
  induction rows generalizing left with
  | nil => exact .nil
  | cons row rows ih =>
    rw [List.flatten_cons, List.length_append, Nat.add_mul] at hleft
    cases rows with
    | nil => exact .singleton _
    | cons next rows =>
      obtain ⟨⟨hwhole, hstart⟩, hrest⟩ := List.isChain_cons_cons.1 hapart
      have hnext := Nat.le_mul_of_pos_left chain.clusterSize
        (List.length_pos_of_ne_nil (hne next (by simp)))
      have hfull : min (row.length * chain.clusterSize) left = row.length * chain.clusterSize := by
        rw [List.flatten_cons, List.length_append, Nat.add_mul] at hleft
        omega
      refine List.isChain_cons_cons.2 ⟨?_, ?_⟩
      · simp only [rowExtent, Extent.start_onDisk, Extent.size_onDisk, hfull]
        refine ⟨hwhole, fun hmeet => hstart (Nat.ModEq.add_left_cancel' base ?_)⟩
        rw [← Nat.add_assoc]
        exact ((Nat.mod_modEq _ _).symm.add_right _).trans
          (hmeet ▸ Nat.mod_modEq _ _)
      · exact ih (fun other hother => hne other (List.mem_cons_of_mem _ hother)) hrest (by omega)

/-- The extents of rows put a byte of the file into the row that has its cluster, as far behind the
row's start as the clusters before it reach.

**Proof sketch.** Induction on the rows. The first row has the byte, or the byte is found among the
other rows, as many bytes and clusters earlier. -/
lemma exists_address?_extents (base : Nat) (hsize : 0 < chain.clusterSize)
    {offset : Nat} (hoffset : offset < left) {cluster : ClusterId}
    (hcluster : rows.flatten[offset / chain.clusterSize]? = some cluster) :
    ∃ row ∈ rows, ∃ (index : Nat) (h : index < row.length), row[index] = cluster ∧
      Extent.address? (chain.extents place base left rows) offset =
        some ((base + place (row.headD firstCluster)) % 2 ^ 64 + index * chain.clusterSize +
          offset % chain.clusterSize) := by
  induction rows generalizing left offset with
  | nil => simp at hcluster
  | cons row rows ih =>
    rw [List.flatten_cons] at hcluster
    rw [extents, Extent.address?, rowExtent, Extent.size_onDisk, Extent.start_onDisk]
    by_cases hin : offset / chain.clusterSize < row.length
    · have hlt : offset < row.length * chain.clusterSize := (Nat.div_lt_iff_lt_mul hsize).1 hin
      rw [List.getElem?_append_left hin, List.getElem?_eq_getElem hin] at hcluster
      refine ⟨row, List.mem_cons_self .., _, hin, Option.some.inj hcluster, ?_⟩
      rw [if_pos (by omega), Nat.add_assoc, Nat.div_add_mod']
    · have hge : row.length * chain.clusterSize ≤ offset :=
        (Nat.le_div_iff_mul_le hsize).1 (Nat.not_lt.1 hin)
      have hmin : min (row.length * chain.clusterSize) left = row.length * chain.clusterSize := by
        omega
      rw [List.getElem?_append_right (Nat.not_lt.1 hin), ← Nat.sub_mul_div,
        Nat.mul_comm] at hcluster
      obtain ⟨other, hother, index, hindex, hget, haddress⟩ := ih
        (show offset - row.length * chain.clusterSize < left - row.length * chain.clusterSize by
          omega) hcluster
      refine ⟨other, List.mem_cons_of_mem _ hother, index, hindex, hget, ?_⟩
      rw [if_neg (by omega), hmin, haddress, Nat.mul_comm row.length,
        Nat.sub_mul_mod (by rwa [Nat.mul_comm])]

/-- The rows of sound clusters, each of which is whole if another one follows, lie apart. -/
lemma Sound.whole_and_apart (h : chain.Sound answer place clusters) :
    (chain.rows place clusters).IsChain fun row next =>
      imageUnitSize ∣ row.length * chain.clusterSize ∧
        ¬place (row.headD firstCluster) + row.length * chain.clusterSize ≡
          place (next.headD firstCluster) [MOD 2 ^ 64] := by
  refine List.isChain_iff_getElem.2 fun index hindex => ⟨?_, ?_⟩
  · apply h.whole
    rw [List.dropLast_eq_take]
    exact List.mem_take_iff_getElem.2 ⟨index, by omega, rfl⟩
  · exact List.isChain_iff_getElem.1 (chain.rows_apart place clusters) index hindex

/-- A row starts with one of the clusters. -/
lemma headD_mem_of_mem_rows {row : List ClusterId} (h : row ∈ chain.rows place clusters) :
    row.headD firstCluster ∈ clusters := by
  obtain ⟨head, rest, rfl⟩ := List.exists_cons_of_ne_nil (ne_nil_of_mem_rows h)
  rw [← flatten_rows chain place clusters]
  exact List.mem_flatten_of_mem h (List.mem_cons_self ..)

/-- Clusters start between units of the disk. -/
def Aligned (place : ClusterId → Nat) (base : Nat) (clusters : List ClusterId) : Prop :=
  ∀ cluster ∈ clusters, diskUnitSize ∣ base + place cluster

/-- The rows of a file's clusters are a layout, if these are sound and no more than it needs. -/
lemma Sound.isLayout (hsound : chain.Sound answer place clusters) (hsize : 0 < chain.clusterSize)
    (haligned : Aligned place base clusters)
    (hlength : clusters.length = ceilDiv length chain.clusterSize) :
    Extent.IsLayout (chain.extents place base length (chain.rows place clusters)) := by
  have hleft := ceilDiv_mul_lt hsize length
  rw [← hlength, ← flatten_rows chain place clusters] at hleft
  have hne : ∀ row ∈ chain.rows place clusters, row ≠ [] := fun row hrow => ne_nil_of_mem_rows hrow
  refine ⟨?_, ?_, ?_, isChain_extents hne hsound.whole_and_apart hleft⟩
  · exact fun extent hextent => size_pos_of_mem_extents hsize hne hleft hextent
  · intro extent hextent
    obtain ⟨row, hrow, rest, rfl⟩ := exists_row_of_mem_extents hextent
    exact (Nat.dvd_mod_iff (by decide)).2 (haligned _ (headD_mem_of_mem_rows hrow))
  · intro extent hextent
    obtain ⟨row, hrow, rest, rfl⟩ := exists_row_of_mem_extents hextent
    exact (Nat.div_le_self _ _).trans_lt (Nat.mod_lt _ (by decide))

/-- The rows of a file's clusters hold the file. -/
lemma total_extents_rows (place : ClusterId → Nat) (base : Nat) (hsize : 0 < chain.clusterSize)
    (hlength : clusters.length = ceilDiv length chain.clusterSize) :
    Extent.total (chain.extents place base length (chain.rows place clusters)) = length := by
  rw [total_extents, flatten_rows, hlength]
  exact min_eq_right (le_ceilDiv_mul hsize length)

/-- **The rows of a file.** The regions extracted from a chain are those pushed for the rows of the
file's clusters, as many as hold it.

**Proof sketch.** This is what the walk's result tells (`result_extract`). An empty file has no
rows, and the extent pushed for its first cluster is empty. -/
theorem exists_rows_of_extract (hplaced : chain.PlacedBy answer place)
    (hsize : 0 < chain.clusterSize) {list : RegionList}
    (hresult : (extract chain length base).result answer = .ok list) :
    ∃ clusters : List ClusterId, clusters.length = ceilDiv length chain.clusterSize ∧
      chain.Sound answer place clusters ∧
      list = (RegionBuilder.empty.pushAll
        (chain.extents place base length (chain.rows place clusters))).build := by
  have hextract := result_extract hplaced hsize length base
  rw [hresult] at hextract
  obtain ⟨clusters, hlength, hsound, rfl⟩ := hextract
  rcases Nat.eq_zero_or_pos length with rfl | hpos
  · rw [ceilDiv_zero hsize] at hlength ⊢
    obtain ⟨cluster, rfl⟩ := List.length_eq_one_iff.1 hlength
    refine ⟨[], rfl, ⟨fun index hindex => absurd hindex (by simp), by simp, by simp⟩, ?_⟩
    simp [extents, rowExtent, RegionBuilder.pushAll, RegionBuilder.push]
  · have hcount := (lt_ceilDiv hsize 0 length).2 (by simpa)
    exact ⟨clusters, by rw [hlength, max_eq_left hcount], hsound, rfl⟩

/-- **The layout of aligned clusters.** The regions extracted from a chain are those of the rows of
the file's clusters, which are a layout.

**Proof sketch.** The regions are those pushed for the rows of sound clusters
(`exists_rows_of_extract`). The rows are a layout (`Sound.isLayout`), which the builder turns into
one region each (`regions_pushAll`). -/
theorem exists_layout_of_aligned (hplaced : chain.PlacedBy answer place)
    (hsize : 0 < chain.clusterSize) (hunits : ceilDiv length imageUnitSize < 2 ^ 32)
    (haligned : ∀ clusters : List ClusterId,
      clusters.length = ceilDiv length chain.clusterSize → chain.BeginsWith answer clusters →
        Aligned place base clusters)
    {list : RegionList} (hresult : (extract chain length base).result answer = .ok list) :
    ∃ clusters : List ClusterId, clusters.length = ceilDiv length chain.clusterSize ∧
      chain.Sound answer place clusters ∧
      list = .ofRegions
        (Region.ofExtents 0 (chain.extents place base length (chain.rows place clusters))) := by
  obtain ⟨clusters, hlength, hsound, rfl⟩ := exists_rows_of_extract hplaced hsize hresult
  have hlayout := hsound.isLayout hsize (haligned clusters hlength hsound.begins) hlength
  have hfew : Extent.units (chain.extents place base length (chain.rows place clusters)) <
      2 ^ 32 := by rwa [hlayout.units_eq, total_extents_rows place base hsize hlength]
  refine ⟨clusters, hlength, hsound, ?_⟩
  rw [← RegionBuilder.regions_pushAll hlayout fun extent hextent =>
    (Extent.ceilDiv_le_units hextent).trans_lt hfew]
  rfl

/-! ### Files that fit -/

/-- The clusters of a file that fits start between disk units. -/
lemma Fits.aligned (h : chain.Fits answer place length base)
    (hlength : clusters.length = ceilDiv length chain.clusterSize)
    (hbegins : chain.BeginsWith answer clusters) : Aligned place base clusters := by
  intro cluster hcluster
  obtain ⟨index, hindex, rfl⟩ := List.getElem_of_mem hcluster
  exact Nat.dvd_add h.base_dvd (h.place_dvd index (hlength ▸ hindex) _ (hbegins index hindex))

/-- The clusters of a file that fits have addresses of 64 bits. -/
lemma Fits.forall_start_lt (h : chain.Fits answer place length base)
    (hlength : clusters.length = ceilDiv length chain.clusterSize)
    (hbegins : chain.BeginsWith answer clusters) :
    ∀ cluster ∈ clusters, base + place cluster < 2 ^ 64 := by
  intro cluster hcluster
  obtain ⟨index, hindex, rfl⟩ := List.getElem_of_mem hcluster
  exact h.start_lt index (hlength ▸ hindex) _ (hbegins index hindex)

/-- Where the ends fit as well, no end wraps. -/
lemma Fits.noWrap (h : chain.Fits answer place length base)
    (hends : chain.EndsFit answer place length)
    (hlength : clusters.length = ceilDiv length chain.clusterSize)
    (hbegins : chain.BeginsWith answer clusters) : chain.NoWrap place clusters := by
  refine List.isChain_iff_getElem.2 fun index hindex => ⟨?_, ?_⟩
  · exact hends index (hlength ▸ hindex) _ (hbegins index (by omega))
  · exact (Nat.le_add_left _ base).trans_lt
      (h.forall_start_lt hlength hbegins _ (List.getElem_mem hindex))

/-- The rows of a file's clusters are a layout. -/
lemma Fits.isLayout (h : chain.Fits answer place length base)
    (hsound : chain.Sound answer place clusters)
    (hlength : clusters.length = ceilDiv length chain.clusterSize) :
    Extent.IsLayout (chain.extents place base length (chain.rows place clusters)) :=
  hsound.isLayout h.size_pos (h.aligned hlength hsound.begins) hlength

/-- The rows of a file's clusters hold the file. -/
lemma Fits.total_extents (h : chain.Fits answer place length base)
    (hlength : clusters.length = ceilDiv length chain.clusterSize) :
    Extent.total (chain.extents place base length (chain.rows place clusters)) = length :=
  total_extents_rows place base h.size_pos hlength

/-- They need no more image units than a region list can count. -/
lemma Fits.units_extents_lt (h : chain.Fits answer place length base)
    (hsound : chain.Sound answer place clusters)
    (hlength : clusters.length = ceilDiv length chain.clusterSize) :
    Extent.units (chain.extents place base length (chain.rows place clusters)) < 2 ^ 32 := by
  rw [(h.isLayout hsound hlength).units_eq, h.total_extents hlength]
  exact h.units_lt

/-- **The layout of a file** that fits. -/
theorem Fits.exists_layout (h : chain.Fits answer place length base) {list : RegionList}
    (hresult : (extract chain length base).result answer = .ok list) :
    ∃ clusters : List ClusterId, clusters.length = ceilDiv length chain.clusterSize ∧
      chain.Sound answer place clusters ∧
      list = .ofRegions
        (Region.ofExtents 0 (chain.extents place base length (chain.rows place clusters))) :=
  exists_layout_of_aligned h.placed h.size_pos h.units_lt (fun _ => h.aligned) hresult

/-- **Of the regions for a file's clusters, one holds the image unit of a byte.** It puts the byte
where its cluster lies, as far as 64 bits tell, and just there if no end wraps.

**Proof sketch.** The extents of the rows put the byte into the row that has its cluster
(`exists_address?_extents`), whose clusters lie one behind the other. -/
lemma Fits.exists_region (h : chain.Fits answer place length base)
    (hsound : chain.Sound answer place clusters)
    (hlength : clusters.length = ceilDiv length chain.clusterSize) {offset : Nat}
    (hoffset : offset < length) (hindex : offset / chain.clusterSize < clusters.length) :
    ∃ region, (Region.ofExtents 0
        (chain.extents place base length (chain.rows place clusters))).filter
          (·.Covers (offset / imageUnitSize)) = [region] ∧
      region.diskByte offset ≡
        base + place clusters[offset / chain.clusterSize] + offset % chain.clusterSize
          [MOD 2 ^ 64] ∧
      (chain.NoWrap place clusters → region.diskByte offset =
        base + place clusters[offset / chain.clusterSize] + offset % chain.clusterSize) := by
  have hunits := h.units_extents_lt hsound hlength
  rw [← Nat.zero_add (Extent.units _)] at hunits
  obtain ⟨region, hfilter, haddress⟩ := filter_covers_ofExtents (h.isLayout hsound hlength) hunits
    (hoffset.trans_eq (h.total_extents hlength).symm)
  have hcluster : (chain.rows place clusters).flatten[offset / chain.clusterSize]? =
      some clusters[offset / chain.clusterSize] := by
    rw [flatten_rows]
    exact List.getElem?_eq_getElem hindex
  obtain ⟨row, hrow, position, hposition, hget, hfound⟩ :=
    exists_address?_extents base h.size_pos hoffset hcluster
  rw [hfound, Option.some.injEq, Nat.zero_mul, Nat.zero_add] at haddress
  rw [Nat.zero_add] at hfilter
  refine ⟨region, hfilter, ?_, fun hwrap => ?_⟩
  · rw [← haddress, ← hget]
    refine Nat.ModEq.add_right _ (((Nat.mod_modEq _ _).add_right _).trans ?_)
    rw [Nat.add_assoc]
    exact ((modEq_getElem_row hrow position hposition).add_left base).symm
  · have hstart := h.forall_start_lt hlength hsound.begins _ (headD_mem_of_mem_rows hrow)
    rw [← haddress, ← hget, place_getElem_row hwrap hrow position hposition,
      Nat.mod_eq_of_lt hstart, Nat.add_assoc base]

/-- The numbers of a chain of listed clusters fit if a cluster is a whole number of disk units. -/
lemma fits_ofList {size : Nat} (hsize : 0 < size) (hdvd : diskUnitSize ∣ size)
    (hbase : diskUnitSize ∣ base) (hlt : base + 2 ^ 32 * size ≤ 2 ^ 64)
    (hunits : ceilDiv length imageUnitSize < 2 ^ 32) :
    (ofList I size clusters).Fits answer (fun cluster => cluster.toNat * size) length base where
  placed := placedBy_ofList size clusters answer
  size_pos := hsize
  base_dvd := hbase
  place_dvd _ _ cluster _ := Nat.dvd_mul_left_of_dvd hdvd cluster.toNat
  start_lt _ _ cluster _ :=
    lt_of_lt_of_le
      (Nat.add_lt_add_left (Nat.mul_lt_mul_of_pos_right cluster.toNat_lt hsize) base) hlt
  units_lt := hunits

/-- The ends of clusters of less than 4 GiB fit, where these lie in the order of their numbers. -/
lemma endsFit_of_lt (hsize : chain.clusterSize < 2 ^ 32) :
    chain.EndsFit answer (fun cluster => cluster.toNat * chain.clusterSize) length := by
  intro _ _ cluster _
  have hend := Nat.mul_le_mul_right chain.clusterSize (Nat.succ_le_of_lt cluster.toNat_lt)
  rw [Nat.succ_mul] at hend
  dsimp only
  omega

end ClusterChain

/-! ### Results of an extraction -/

section Extract

variable {chain : ClusterChain I} {answer : Inquiry.Respondent I Error}
  {place : ClusterId → Nat} {length base : Nat} {list : RegionList}

/-- **The regions of a file are its minimal tiling.** They follow one another through the image
units of the file, none could be part of the one before it, and there are as many as the file's
clusters have rows of neighbours; a file in one row has one region. Unless a cluster behind which
the file goes on ends beyond `2 ^ 64`, the rows are those of clusters that lie directly one behind
the other. -/
theorem minimal_tiling_of_extract (h : chain.Fits answer place length base)
    (hresult : (extract chain length base).result answer = .ok list) :
    IsTiling 0 (ceilDiv length imageUnitSize) list.regions ∧
      ∃ clusters : List ClusterId, clusters.length = ceilDiv length chain.clusterSize ∧
        chain.BeginsWith answer clusters ∧
        list.regions.length = (chain.rows place clusters).length ∧
        (chain.EndsFit answer place length → chain.rows place clusters =
          clusters.splitBy fun cluster next => place cluster + chain.clusterSize == place next) ∧
        (clusters ≠ [] →
          (clusters.IsChain fun cluster next =>
            place cluster + chain.clusterSize = place next) → list.regions.length = 1) := by
  obtain ⟨clusters, hlength, hsound, rfl⟩ := h.exists_layout hresult
  have hlayout := h.isLayout hsound hlength
  have hunits : Extent.units (chain.extents place base length (chain.rows place clusters)) =
      ceilDiv length imageUnitSize := by rw [hlayout.units_eq, h.total_extents hlength]
  have hcount : (Region.ofExtents 0
      (chain.extents place base length (chain.rows place clusters))).length =
        (chain.rows place clusters).length := by simp
  refine ⟨?_, clusters, hlength, hsound.begins, hcount, fun hends => ?_, fun hne hrow => ?_⟩
  · rw [← hunits]
    exact isTiling_ofExtents hlayout (by rw [hunits, Nat.zero_add]; exact h.units_lt)
  · exact ClusterChain.rows_eq_splitBy (h.noWrap hends hlength hsound.begins)
  · rw [RegionList.ofRegions, hcount, ClusterChain.rows_of_isChain hne hrow, List.length_singleton]

/-- Nine clusters in two rows, which take three image units. -/
theorem minimal_tiling_of_extract_two_rows :
    IsTiling 0 (ceilDiv 4196 imageUnitSize) [⟨0, 1, 8⟩, ⟨1, 2, 20⟩] := by
  have hresult : (extract (.ofList Sectors 512 [8, 9, 10, 11, 20, 21, 22, 23, 24]) 4196 0).result
      (fun _ => .error .zeroClusterSize) = .ok (.ofRegions [⟨0, 1, 8⟩, ⟨1, 2, 20⟩]) := by rfl
  exact (minimal_tiling_of_extract
    (ClusterChain.fits_ofList (by decide) (by decide) (by decide) (by decide) (by decide))
    hresult).1

end Extract

end BootExtents
