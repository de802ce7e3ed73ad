import BootExtents.Proofs.Extent.Regions
import BootExtents.Proofs.Region.DiskUnits
import Mathlib

/-!
# What the regions of a file expose

A region takes whole image units on the disk. Rows of clusters that others follow are whole, so
their regions end where they end. Only the last row may end within an image unit; then its region
takes the rest of that unit as well, which is less than an image unit behind the last cluster.

## Main definitions

* `BootExtents.ClusterChain.Contains` — a disk unit lies in a cluster.
* `BootExtents.ClusterChain.Trails` — a disk unit is one of the three behind a cluster.

## Main results

* `BootExtents.ClusterChain.exists_contains_of_whole` — the extent of a whole row lies in its
  clusters.
* `BootExtents.ClusterChain.contains_or_trails` — the extent of any row, up to its last image unit.
* `BootExtents.only_own_units_of_extract` — the regions of a file lie in its clusters, but for the
  rest of the last image unit.
-/

set_option relaxedAutoImplicit false
set_option autoImplicit false

namespace BootExtents

variable {I : Interface}

namespace ClusterChain

/-- A disk unit lies in a cluster, with all its bytes. -/
def Contains (chain : ClusterChain I) (place : ClusterId → Nat) (base : Nat) (cluster : ClusterId)
    (unit : Nat) : Prop :=
  base + place cluster ≤ unit * diskUnitSize ∧
    (unit + 1) * diskUnitSize ≤ base + place cluster + chain.clusterSize

/-- A disk unit is one of the three that directly follow a cluster. -/
def Trails (chain : ClusterChain I) (place : ClusterId → Nat) (base : Nat) (cluster : ClusterId)
    (unit : Nat) : Prop :=
  ∃ distance < 3, unit * diskUnitSize =
    base + place cluster + chain.clusterSize + distance * diskUnitSize

variable {chain : ClusterChain I} {answer : Inquiry.Respondent I Error}
  {place : ClusterId → Nat} {base left unit : Nat} {clusters row : List ClusterId}

/-! ### Extents of rows -/

/-- A disk unit that starts within a row lies in one of the row's clusters.

**Proof sketch.** The unit's first byte lies in a cluster. What is left of the cluster there is a
whole number of disk units, and not none, so the unit ends in it, too. -/
lemma exists_contains (hdvd : diskUnitSize ∣ chain.clusterSize) (hsize : 0 < chain.clusterSize)
    (hstart : diskUnitSize ∣ base + place (row.headD firstCluster))
    (hrow : ∀ (index : Nat) (h : index < row.length),
      place row[index] = place (row.headD firstCluster) + index * chain.clusterSize)
    (hge : base + place (row.headD firstCluster) ≤ unit * diskUnitSize)
    (hlt : unit * diskUnitSize <
      base + place (row.headD firstCluster) + row.length * chain.clusterSize) :
    ∃ cluster ∈ row, chain.Contains place base cluster unit := by
  obtain ⟨distance, hdistance⟩ := Nat.exists_eq_add_of_le hge
  obtain ⟨cluster, hcluster, hplace⟩ :=
    exists_cluster_of_lt_row hsize hrow (show distance < row.length * chain.clusterSize by omega)
  have hwhole : diskUnitSize ∣ distance :=
    (Nat.dvd_add_right hstart).1 (hdistance ▸ Nat.dvd_mul_left diskUnitSize unit)
  obtain ⟨before, hbefore⟩ := (Nat.dvd_mod_iff hdvd).2 hwhole
  obtain ⟨units, hunits⟩ := hdvd
  have hfits : before + 1 ≤ units := by
    have hmod := Nat.mod_lt distance hsize
    rw [hbefore, hunits] at hmod
    exact Nat.lt_of_mul_lt_mul_left hmod
  have hend := Nat.mul_le_mul_left diskUnitSize hfits
  refine ⟨cluster, hcluster, ?_, ?_⟩
  · omega
  · rw [Nat.mul_add, ← hbefore, ← hunits] at hend
    rw [Nat.add_mul, hdistance]
    omega

/-- The disk units of a row's extent start at its first cluster or behind that start. -/
lemma start_le_of_mem_rowExtent (hstart : diskUnitSize ∣ base + place (row.headD firstCluster))
    (hlt : base + place (row.headD firstCluster) < 2 ^ 64)
    (hunit : unit ∈ (chain.rowExtent place base left row).diskUnits) :
    base + place (row.headD firstCluster) ≤ unit * diskUnitSize := by
  have hfirst := Nat.mul_le_mul_right diskUnitSize (Extent.mem_diskUnits.1 hunit).1
  rwa [start_rowExtent hlt, Nat.div_mul_cancel hstart] at hfirst

/-- They end with the extent's last image unit. -/
lemma lt_stop_of_mem_rowExtent (hstart : diskUnitSize ∣ base + place (row.headD firstCluster))
    (hlt : base + place (row.headD firstCluster) < 2 ^ 64)
    (hunit : unit ∈ (chain.rowExtent place base left row).diskUnits) :
    (unit + 1) * diskUnitSize ≤ base + place (row.headD firstCluster) +
      ceilDiv (min (row.length * chain.clusterSize) left) imageUnitSize * imageUnitSize := by
  have hratio : unitsPerImageUnit * diskUnitSize = imageUnitSize := by decide
  have hlast := Nat.mul_le_mul_right diskUnitSize (Extent.mem_diskUnits.1 hunit).2
  rw [start_rowExtent hlt, rowExtent, Extent.size_onDisk] at hlast
  rwa [Nat.add_mul _ _ diskUnitSize, Nat.div_mul_cancel hstart, Nat.mul_right_comm, hratio,
    Nat.mul_comm imageUnitSize] at hlast

/-- The extent of a whole row lies in the row's clusters. -/
lemma exists_contains_of_whole (hdvd : diskUnitSize ∣ chain.clusterSize)
    (hsize : 0 < chain.clusterSize)
    (hstart : diskUnitSize ∣ base + place (row.headD firstCluster))
    (hlt : base + place (row.headD firstCluster) < 2 ^ 64) (hwrap : chain.NoWrap place clusters)
    (hrow : row ∈ chain.rows place clusters)
    (hwhole : imageUnitSize ∣ row.length * chain.clusterSize)
    (hunit : unit ∈ (chain.rowExtent place base left row).diskUnits) :
    ∃ cluster ∈ row, chain.Contains place base cluster unit := by
  have hge := start_le_of_mem_rowExtent hstart hlt hunit
  have hstop := lt_stop_of_mem_rowExtent hstart hlt hunit
  have hroom := ceilDiv_mul_le_of_dvd imageUnitSize_pos hwhole
    (min_le_left (row.length * chain.clusterSize) left)
  refine exists_contains hdvd hsize hstart (place_getElem_row hwrap hrow) hge ?_
  have := diskUnitSize_pos
  rw [Nat.add_mul] at hstop
  omega

/-- The extent of any row lies in the row's clusters, or in the rest of the image unit in which the
last one of them ends.

**Proof sketch.** A unit behind the row is less than an image unit behind it, as the extent is not
longer than the row. The row ends between disk units, so three of them are left. -/
lemma contains_or_trails (hdvd : diskUnitSize ∣ chain.clusterSize) (hsize : 0 < chain.clusterSize)
    (hstart : diskUnitSize ∣ base + place (row.headD firstCluster))
    (hlt : base + place (row.headD firstCluster) < 2 ^ 64) (hwrap : chain.NoWrap place clusters)
    (hrow : row ∈ chain.rows place clusters)
    (hunit : unit ∈ (chain.rowExtent place base left row).diskUnits) :
    (∃ cluster ∈ row, chain.Contains place base cluster unit) ∨
      ∃ last ∈ row.getLast?, chain.Trails place base last unit := by
  have hge := start_le_of_mem_rowExtent hstart hlt hunit
  rcases Nat.lt_or_ge (unit * diskUnitSize)
    (base + place (row.headD firstCluster) + row.length * chain.clusterSize) with hlt | hbehind
  · exact .inl (exists_contains hdvd hsize hstart (place_getElem_row hwrap hrow) hge hlt)
  · have hlast := List.getLast?_eq_some_getLast (ne_nil_of_mem_rows hrow)
    have hend := place_getLast_row hwrap hrow hlast
    have hstop := lt_stop_of_mem_rowExtent hstart hlt hunit
    have hunits := ceilDiv_mul_lt imageUnitSize_pos (min (row.length * chain.clusterSize) left)
    obtain ⟨distance, hdistance⟩ : diskUnitSize ∣ unit * diskUnitSize -
        (base + place (row.headD firstCluster) + row.length * chain.clusterSize) :=
      Nat.dvd_sub (Nat.dvd_mul_left _ _) (Nat.dvd_add hstart (hdvd.mul_left _))
    refine .inr ⟨_, hlast, distance, ?_, ?_⟩
    · simp only [imageUnitSize, diskUnitSize] at hstop hunits hbehind hdistance
      omega
    · rw [Nat.mul_comm distance, ← hdistance, Nat.add_assoc base, hend]
      omega

/-- The extent of each row, by its place. -/
lemma exists_getElem_extents (chain : ClusterChain I) (place : ClusterId → Nat) (base left : Nat)
    {rows : List (List ClusterId)} {index : Nat} (h : index < rows.length)
    (hextent : index < (chain.extents place base left rows).length) :
    ∃ rest, (chain.extents place base left rows)[index] =
      chain.rowExtent place base rest rows[index] := by
  induction rows generalizing left index with
  | nil => simp at h
  | cons row rows ih =>
    cases index with
    | zero => exact ⟨left, rfl⟩
    | succ index => exact ih _ (Nat.lt_of_succ_lt_succ h) (Nat.lt_of_succ_lt_succ hextent)

/-! ### Regions of rows -/

/-- The region for each row of a file's clusters has the disk units of the row's extent. -/
lemma Fits.exists_diskUnits_eq {length : Nat} (h : chain.Fits answer place length base)
    (hsound : chain.Sound answer place clusters)
    (hlength : clusters.length = ceilDiv length chain.clusterSize) {index : Nat}
    (hindex : index < (chain.rows place clusters).length)
    (hregion : index < (Region.ofExtents 0 (chain.extents place base length
      (chain.rows place clusters))).length) :
    ∃ rest, (Region.ofExtents 0 (chain.extents place base length
        (chain.rows place clusters)))[index].diskUnits =
      (chain.rowExtent place base rest (chain.rows place clusters)[index]).diskUnits := by
  have hunits := map_diskUnits_ofExtents 0 (h.isLayout hsound hlength)
    (h.units_extents_lt hsound hlength)
  have hequal := List.getElem_of_eq hunits (i := index) (by simpa using hindex)
  obtain ⟨rest, hextent⟩ := exists_getElem_extents chain place base length hindex
    (by simpa using hindex)
  rw [List.getElem_map, List.getElem_map, hextent] at hequal
  exact ⟨rest, hequal⟩

end ClusterChain

/-! ### Regions of a file -/

section Extract

variable {chain : ClusterChain I} {answer : Inquiry.Respondent I Error}
  {place : ClusterId → Nat} {length base : Nat} {list : RegionList}

/-- **The regions of a file expose its own clusters only, but for the rest of the last image unit.**
No sum of 64 bits overflows, and clusters are whole numbers of disk units. If they are whole numbers
of image units, every disk unit of a region lies in one of the clusters that hold the file. For
clusters of any other size, a unit that does not is one of the three that directly follow the last
cluster, and belongs to the last region.

**Proof sketch.** Each region has the units of a row (`ClusterChain.Fits.exists_diskUnits_eq`). A
row that another one follows is whole, since the clusters are sound, and so is any row of clusters
that are whole themselves; its units lie in its clusters (`ClusterChain.exists_contains_of_whole`).
The last row ends with the last cluster, which is what its other units follow
(`ClusterChain.contains_or_trails`). -/
theorem only_own_units_of_extract (h : chain.Fits answer place length base)
    (hends : chain.EndsFit answer place length) (hdvd : diskUnitSize ∣ chain.clusterSize)
    (hresult : (extract chain length base).result answer = .ok list) :
    ∃ clusters : List ClusterId, clusters.length = ceilDiv length chain.clusterSize ∧
      chain.BeginsWith answer clusters ∧
      (imageUnitSize ∣ chain.clusterSize →
        ∀ region ∈ list.regions, ∀ unit ∈ region.diskUnits,
          ∃ cluster ∈ clusters, chain.Contains place base cluster unit) ∧
      ∀ (index : Nat) (hindex : index < list.regions.length),
        ∀ unit ∈ list.regions[index].diskUnits,
          (∃ cluster ∈ clusters, chain.Contains place base cluster unit) ∨
            index + 1 = list.regions.length ∧
              ∃ last ∈ clusters.getLast?, chain.Trails place base last unit := by
  obtain ⟨clusters, hlength, hsound, rfl⟩ := h.exists_layout hresult
  have hwrap := h.noWrap hends hlength hsound.begins
  have hstart : ∀ row ∈ chain.rows place clusters,
      diskUnitSize ∣ base + place (row.headD firstCluster) := fun row hrow =>
    h.aligned hlength hsound.begins _ (ClusterChain.headD_mem_of_mem_rows hrow)
  have hlt : ∀ row ∈ chain.rows place clusters,
      base + place (row.headD firstCluster) < 2 ^ 64 := fun row hrow =>
    h.forall_start_lt hlength hsound.begins _ (ClusterChain.headD_mem_of_mem_rows hrow)
  have hmember : ∀ row ∈ chain.rows place clusters, ∀ cluster ∈ row, cluster ∈ clusters := by
    intro row hrow cluster hcluster
    rw [← ClusterChain.flatten_rows chain place clusters]
    exact List.mem_flatten_of_mem hrow hcluster
  have hwholeRow : ∀ row ∈ chain.rows place clusters,
      imageUnitSize ∣ row.length * chain.clusterSize → ∀ rest,
        ∀ unit ∈ (chain.rowExtent place base rest row).diskUnits,
          ∃ cluster ∈ clusters, chain.Contains place base cluster unit := by
    intro row hrow hwhole rest unit hunit
    obtain ⟨cluster, hcluster, hcontains⟩ := ClusterChain.exists_contains_of_whole hdvd h.size_pos
      (hstart row hrow) (hlt row hrow) hwrap hrow hwhole hunit
    exact ⟨cluster, hmember row hrow cluster hcluster, hcontains⟩
  refine ⟨clusters, hlength, hsound.begins, fun hwhole region hregion unit hunit => ?_,
    fun index hindex unit hunit => ?_⟩
  · obtain ⟨index, hindex, rfl⟩ := List.getElem_of_mem hregion
    have hrow : index < (chain.rows place clusters).length := by
      simpa [RegionList.ofRegions] using hindex
    obtain ⟨rest, hunits⟩ := h.exists_diskUnits_eq hsound hlength hrow hindex
    exact hwholeRow _ (List.getElem_mem hrow) (hwhole.mul_left _) rest unit (hunits ▸ hunit)
  · have hcount : (RegionList.ofRegions (Region.ofExtents 0 (chain.extents place base length
        (chain.rows place clusters)))).regions.length = (chain.rows place clusters).length := by
      simp [RegionList.ofRegions]
    have hregion := hindex
    rw [hcount] at hindex ⊢
    obtain ⟨rest, hunits⟩ := h.exists_diskUnits_eq hsound hlength hindex hregion
    have hextent : unit ∈ (chain.rowExtent place base rest
        (chain.rows place clusters)[index]).diskUnits := hunits ▸ hunit
    rcases Nat.lt_or_ge (index + 1) (chain.rows place clusters).length with hfollowed | hlast
    · have hwhole := hsound.whole (chain.rows place clusters)[index] (by
        rw [List.dropLast_eq_take]
        exact List.mem_take_iff_getElem.2 ⟨index, by omega, rfl⟩)
      exact .inl (hwholeRow _ (List.getElem_mem hindex) hwhole rest unit hextent)
    · have hrow := List.getElem_mem hindex
      have hrows : chain.rows place clusters =
          (chain.rows place clusters).take index ++ [(chain.rows place clusters)[index]] := by
        rw [List.take_concat_get', List.take_of_length_le hlast]
      rcases ClusterChain.contains_or_trails hdvd h.size_pos (hstart _ hrow) (hlt _ hrow) hwrap hrow
        hextent with
        ⟨cluster, hcluster, hcontains⟩ | ⟨last, hend, htrails⟩
      · exact .inl ⟨cluster, hmember _ hrow cluster hcluster, hcontains⟩
      · rw [ClusterChain.getLast?_row hrows] at hend
        exact .inr ⟨by omega, last, hend, htrails⟩

/-- Nine clusters in two rows, each cluster a quarter of an image unit. The first row is whole, the
second one is five clusters in two image units. -/
theorem only_own_units_of_extract_two_rows :
    ∃ clusters : List ClusterId, clusters.length = ceilDiv 4196 512 ∧
      (ClusterChain.ofList Sectors 512 [8, 9, 10, 11, 20, 21, 22, 23, 24]).BeginsWith
        (fun _ => .error .zeroClusterSize) clusters ∧
      (∀ unit ∈ (Region.mk 0 1 8).diskUnits, ∃ cluster ∈ clusters,
        (ClusterChain.ofList Sectors 512 [8, 9, 10, 11, 20, 21, 22, 23, 24]).Contains
          (fun cluster => cluster.toNat * 512) 0 cluster unit) ∧
      ∀ unit ∈ (Region.mk 1 2 20).diskUnits,
        (∃ cluster ∈ clusters,
          (ClusterChain.ofList Sectors 512 [8, 9, 10, 11, 20, 21, 22, 23, 24]).Contains
            (fun cluster => cluster.toNat * 512) 0 cluster unit) ∨
        ∃ last ∈ clusters.getLast?,
          (ClusterChain.ofList Sectors 512 [8, 9, 10, 11, 20, 21, 22, 23, 24]).Trails
            (fun cluster => cluster.toNat * 512) 0 last unit := by
  have hresult : (extract (.ofList Sectors 512 [8, 9, 10, 11, 20, 21, 22, 23, 24]) 4196 0).result
      (fun _ => .error .zeroClusterSize) = .ok (.ofRegions [⟨0, 1, 8⟩, ⟨1, 2, 20⟩]) := by rfl
  obtain ⟨clusters, hlength, hbegins, -, hunits⟩ := only_own_units_of_extract
    (ClusterChain.fits_ofList (by decide) (by decide) (by decide) (by decide) (by decide))
    (ClusterChain.endsFit_of_lt (by decide)) (by decide) hresult
  refine ⟨clusters, hlength, hbegins, fun unit hunit => ?_, fun unit hunit => ?_⟩
  · exact (hunits 0 (by decide) unit hunit).resolve_right fun hlast => absurd hlast.1 (by decide)
  · exact (hunits 1 (by decide) unit hunit).imp_right And.right

end Extract

end BootExtents
