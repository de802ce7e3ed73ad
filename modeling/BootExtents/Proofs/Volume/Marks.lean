import BootExtents.Proofs.Extent.Walk
import BootExtents.Proofs.Region.DiskUnits
import BootExtents.Proofs.Volume.Reading
import Mathlib

/-!
# Marks in the allocation table

An entry of the allocation table names a cluster or is a mark: free, bad, the end of a chain, or
without a meaning. A chain hands on entries as they are stored. What keeps marks out of the regions
of a file is that they are no numbers of clusters, which holds for heaps of the size that the table
has numbers for. Where the boot sector tells of a larger heap, marks are taken for clusters.

## Main definitions

* `BootExtents.FatEntry.maxCluster` — the largest number of a cluster.
* `BootExtents.Geometry.maxClusterCount` — the clusters that the table has numbers for.

## Main results

* `BootExtents.Geometry.isValid_eq_false_of_mark` — no mark is the number of a cluster.
* `BootExtents.Volume.clusterOffset_row_le`, `not_mem_diskUnits_rowExtent` — a row of clusters ends
  before the marks.
* `BootExtents.marks_not_mapped` — a chain with a mark has no regions, and no region reaches as far
  as where a cluster with the number of a mark would be.
-/

set_option relaxedAutoImplicit false
set_option autoImplicit false

namespace BootExtents

/-! ### Marks and numbers of clusters -/

/-- The largest number of a cluster; larger values are marks. -/
def FatEntry.maxCluster : ClusterId := 0xFFFFFFF6

/-- The number of clusters from the first one to the one with the largest number. -/
def Geometry.maxClusterCount : Nat := 0xFFFFFFF5

namespace Geometry

variable {geometry : Geometry} {cluster value : ClusterId}

/-- Clusters of the heap have the numbers from the first one on. -/
lemma isValid_iff : geometry.isValid cluster = true ↔
    firstCluster.toNat ≤ cluster.toNat ∧ cluster.toNat < geometry.clusterCount.toNat + 2 := by
  rw [isValid, Bool.and_eq_true, decide_eq_true_iff, decide_eq_true_iff, UInt32.le_iff_toNat_le]

/-- No mark is the number of a cluster, if the heap is not too large. -/
theorem isValid_eq_false_of_mark (hcount : geometry.clusterCount.toNat ≤ maxClusterCount)
    (hmark : ∀ next, FatEntry.ofValue value ≠ .next next) : geometry.isValid value = false := by
  by_contra hvalid
  rw [Bool.not_eq_false, isValid_iff] at hvalid
  have hnumber : firstCluster ≤ value ∧ value ≤ FatEntry.maxCluster := by
    have hmax : FatEntry.maxCluster.toNat = maxClusterCount + 1 := by decide
    rw [UInt32.le_iff_toNat_le, UInt32.le_iff_toNat_le, hmax]
    omega
  exact hmark value (FatEntry.ofValue_eq_next_iff.2 ⟨rfl, hnumber⟩)

/-! ### Rows of clusters -/

/-- The image units that hold some clusters are no more than clusters to fill one image unit
longer. -/
lemma ceilDiv_mul_clusterSize_le (geometry : Geometry) (count : Nat) :
    ceilDiv (count * geometry.clusterSize) imageUnitSize * imageUnitSize ≤
      (count + (imageUnitSize / geometry.clusterSize - 1)) * geometry.clusterSize := by
  have hunit : imageUnitSize = 2 ^ 11 := rfl
  have hsize := geometry.two_pow_add_shifts.symm
  rcases Nat.le_total 11 (geometry.sectorShift + geometry.clusterShift) with hlarge | hsmall
  · have hdvd : imageUnitSize ∣ count * geometry.clusterSize := by
      rw [hunit, hsize]
      exact Nat.dvd_mul_left_of_dvd (Nat.pow_dvd_pow 2 hlarge) count
    rw [ceilDiv_mul_of_dvd imageUnitSize_pos hdvd]
    exact Nat.mul_le_mul_right _ (Nat.le_add_right _ _)
  · have hdvd : geometry.clusterSize ∣ imageUnitSize := by
      rw [hunit, hsize]
      exact Nat.pow_dvd_pow 2 hsmall
    obtain ⟨ratio, hratio⟩ := hdvd
    have hdiv : imageUnitSize / geometry.clusterSize = ratio := by
      rw [hratio, Nat.mul_div_cancel_left ratio geometry.clusterSize_pos]
    have hpos : 0 < ratio := by
      rw [← hdiv]
      exact Nat.div_pos (Nat.le_of_dvd imageUnitSize_pos ⟨ratio, hratio⟩) geometry.clusterSize_pos
    -- Both sides are whole clusters, so less than one image unit more is at most all but one
    -- cluster of it more.
    have hlt := ceilDiv_mul_lt imageUnitSize_pos (count * geometry.clusterSize)
    rw [hdiv]
    generalize ceilDiv (count * geometry.clusterSize) imageUnitSize = units at hlt ⊢
    have hunits : units * imageUnitSize = units * ratio * geometry.clusterSize := by
      rw [hratio, Nat.mul_assoc, Nat.mul_comm ratio]
    have hroom : count * geometry.clusterSize + imageUnitSize =
        (count + ratio) * geometry.clusterSize := by
      rw [hratio, Nat.add_mul, Nat.mul_comm ratio]
    rw [hunits, hroom] at hlt
    rw [hunits]
    have := Nat.lt_of_mul_lt_mul_right hlt
    exact Nat.mul_le_mul_right _ (by omega)

end Geometry

namespace Volume

variable {volume : Volume} {node : Node} {answer : Inquiry.Respondent Sectors Error}
  {clusters row : List ClusterId} {cluster : ClusterId} {length base : Nat}

/-- The chain of a node has the clusters of the volume. -/
@[simp] lemma clusterSize_chain (volume : Volume) (node : Node) :
    (volume.chain node).clusterSize = volume.geometry.clusterSize := rfl

/-- A row of valid clusters, in whole image units, ends at most all but one cluster of an image unit
behind the heap. -/
lemma clusterOffset_row_le (left : Nat)
    (hvalid : ∀ cluster ∈ clusters, volume.geometry.isValid cluster = true)
    (hrow : row ∈ (volume.chain node).rows volume.geometry.clusterOffset clusters)
    (hbeyond : volume.geometry.clusterCount.toNat + 2 +
      (imageUnitSize / volume.geometry.clusterSize - 1) ≤ cluster.toNat) :
    volume.geometry.clusterOffset (row.headD firstCluster) +
        ceilDiv (min (row.length * volume.geometry.clusterSize) left) imageUnitSize *
          imageUnitSize ≤ volume.geometry.clusterOffset cluster := by
  have hpos := List.length_pos_of_ne_nil (ClusterChain.ne_nil_of_mem_rows hrow)
  have hlast := ClusterChain.place_getElem_row (volume.noWrap_chain node clusters) hrow
    (row.length - 1) (by omega)
  have hlastvalid : volume.geometry.isValid row[row.length - 1] = true := by
    apply hvalid
    rw [← ClusterChain.flatten_rows (volume.chain node) volume.geometry.clusterOffset clusters]
    exact List.mem_flatten_of_mem hrow (List.getElem_mem _)
  have hindex : Geometry.heapIndex row[row.length - 1] =
      Geometry.heapIndex (row.headD firstCluster) + (row.length - 1) := by
    rw [Geometry.clusterOffset, Geometry.clusterOffset, clusterSize_chain, Nat.add_assoc,
      Nat.add_left_cancel_iff, ← Nat.add_mul] at hlast
    exact Nat.eq_of_mul_eq_mul_right volume.geometry.clusterSize_pos hlast
  have hbehind : Geometry.heapIndex (row.headD firstCluster) +
      (row.length + (imageUnitSize / volume.geometry.clusterSize - 1)) ≤
        Geometry.heapIndex cluster := by
    have hbounds := Geometry.isValid_iff.1 hlastvalid
    have hfirst : firstCluster.toNat = 2 := rfl
    unfold Geometry.heapIndex at hindex ⊢
    omega
  have hneeded : ceilDiv (min (row.length * volume.geometry.clusterSize) left) imageUnitSize *
      imageUnitSize ≤
        (row.length + (imageUnitSize / volume.geometry.clusterSize - 1)) *
          volume.geometry.clusterSize := by
    refine le_trans (Nat.mul_le_mul_right _ ?_) (volume.geometry.ceilDiv_mul_clusterSize_le _)
    rw [ceilDiv_le imageUnitSize_pos]
    exact (min_le_left _ _).trans (le_ceilDiv_mul imageUnitSize_pos _)
  have hplace := Nat.mul_le_mul_right volume.geometry.clusterSize hbehind
  rw [Nat.add_mul] at hplace
  unfold Geometry.clusterOffset
  omega

/-- No unit of the extent of such a row is where a cluster further behind would start, be it by the
plain sum or by the 64 bits of it.

**Proof sketch.** The row ends before that cluster, so it does on the disk if the sum wraps around
for both or for none. If it does so for the cluster only, the cluster is far before the row. -/
lemma not_mem_diskUnits_rowExtent (hbase : base < 2 ^ 64) (left : Nat)
    (hvalid : ∀ cluster ∈ clusters, volume.geometry.isValid cluster = true)
    (hrow : row ∈ (volume.chain node).rows volume.geometry.clusterOffset clusters)
    (hbeyond : volume.geometry.clusterCount.toNat + 2 +
      (imageUnitSize / volume.geometry.clusterSize - 1) ≤ cluster.toNat) {byte : Nat}
    (hbyte : byte = base + volume.geometry.clusterOffset cluster ∨
      byte = (base + volume.geometry.clusterOffset cluster) % 2 ^ 64) :
    byte / diskUnitSize ∉
      ((volume.chain node).rowExtent volume.geometry.clusterOffset base left row).diskUnits := by
  have hstop := clusterOffset_row_le left hvalid hrow hbeyond
  have hfar := volume.geometry.clusterOffset_lt cluster
  rw [Extent.mem_diskUnits, ClusterChain.rowExtent, Extent.start_onDisk, Extent.size_onDisk,
    clusterSize_chain]
  simp only [unitsPerImageUnit, imageUnitSize, diskUnitSize] at hstop ⊢
  omega

/-- The clusters of a node lie where the geometry says, whoever answers. -/
lemma placedBy_chain (volume : Volume) (node : Node) (answer : Inquiry.Respondent Sectors Error) :
    (volume.chain node).PlacedBy answer volume.geometry.clusterOffset :=
  fun _ _ => rfl

/-- A mark that a file's chain has in the place of a cluster ends the extraction with an error.

**Proof sketch.** Regions come from valid clusters, as many as hold the file (`result_extract`). The
entry of one of them, except for the last one, is the next of them, so it is no mark
(`Geometry.isValid_eq_false_of_mark`). -/
lemma exists_error_of_mark (base : Nat)
    (hcount : volume.geometry.clusterCount.toNat ≤ Geometry.maxClusterCount)
    (hchained : node.isContiguous = false) {index : Nat} {value : UInt32}
    (hindex : index + 1 < ceilDiv length volume.geometry.clusterSize)
    (hat : (volume.chain node).clusterAt answer index = .ok cluster)
    (hvalue : ((volume.geometry.fatEntry cluster).mapError .volume).result answer = .ok value)
    (hmark : ∀ next, FatEntry.ofValue value ≠ .next next) :
    ∃ error, (extract (volume.chain node) length base).result answer = .error error := by
  have hresult := result_extract (volume.placedBy_chain node answer)
    volume.geometry.clusterSize_pos length base
  cases hextract : (extract (volume.chain node) length base).result answer with
  | error error => exact ⟨error, rfl⟩
  | ok list =>
    rw [hextract] at hresult
    obtain ⟨clusters, hlength, hsound, -⟩ := hresult
    have hnext : (volume.chain node).next cluster =
        (volume.geometry.fatEntry cluster).mapError .volume := by
      show (volume.nextCluster node.isContiguous cluster).mapError _ = _
      rw [nextCluster, hchained, if_neg Bool.false_ne_true]
    have hin : index + 1 < clusters.length := by
      rw [hlength, clusterSize_chain]
      exact lt_max_of_lt_left hindex
    have hmember : clusters[index + 1] = value := by
      have hsucc := ClusterChain.clusterAt_succ hat
      rw [hsound.begins _ hin, hnext, hvalue] at hsucc
      exact Except.ok.inj hsucc
    have hvalid := hsound.valid _ (List.getElem_mem hin)
    rw [hmember] at hvalid
    have hinvalid := Geometry.isValid_eq_false_of_mark hcount hmark
    exact absurd (hinvalid.symm.trans hvalid) Bool.false_ne_true

/-- No region of a file reaches further behind the heap than the last image unit does, be it by the
plain sum or by the 64 bits of it.

**Proof sketch.** A builder takes the units of the rows' extents only
(`RegionBuilder.mem_diskUnits_pushAll`), and none of these is further behind
(`not_mem_diskUnits_rowExtent`). -/
lemma not_mem_diskUnits_of_extract (hbase : base < 2 ^ 64)
    (hbeyond : volume.geometry.clusterCount.toNat + 2 +
      (imageUnitSize / volume.geometry.clusterSize - 1) ≤ cluster.toNat)
    {list : RegionList}
    (hextract : (extract (volume.chain node) length base).result answer = .ok list)
    {region : Region} (hregion : region ∈ list.regions) {byte : Nat}
    (hbyte : byte = base + volume.geometry.clusterOffset cluster ∨
      byte = (base + volume.geometry.clusterOffset cluster) % 2 ^ 64) :
    byte / diskUnitSize ∉ region.diskUnits := by
  have hresult := result_extract (volume.placedBy_chain node answer)
    volume.geometry.clusterSize_pos length base
  rw [hextract] at hresult
  obtain ⟨clusters, -, hsound, rfl⟩ := hresult
  intro hunit
  have hnewest := List.mem_reverse.1 hregion
  have hstart : ∀ extent ∈ (volume.chain node).extents volume.geometry.clusterOffset base length
      ((volume.chain node).rows volume.geometry.clusterOffset clusters),
        extent.start / diskUnitSize < 2 ^ 64 := by
    intro extent hextent
    obtain ⟨row, -, rest, rfl⟩ := ClusterChain.exists_row_of_mem_extents hextent
    exact (Nat.div_le_self _ _).trans_lt (Nat.mod_lt _ (by decide))
  rcases RegionBuilder.mem_diskUnits_pushAll hstart hnewest hunit with
    ⟨extent, hextent, hmem⟩ | ⟨older, holder, -⟩
  · obtain ⟨row, hrow, rest, rfl⟩ := ClusterChain.exists_row_of_mem_extents hextent
    exact not_mem_diskUnits_rowExtent hbase rest hsound.valid hrow hbeyond hbyte hmem
  · exact absurd holder (by simp [RegionBuilder.empty])

end Volume

/-- **Marks are not mapped**, where the heap is not larger than the table has numbers for. If one of
the entries behind which a file goes on is a mark, its chain has no regions. And no region reaches
as far as where a cluster with the number of a mark would be, if there is room for the last image
unit before it; nor is one there where the 64 bits of an address would have that cluster. -/
theorem marks_not_mapped {volume : Volume} {node : Node}
    {answer : Inquiry.Respondent Sectors Error} {base : Nat} (length : Nat)
    (hcount : volume.geometry.clusterCount.toNat ≤ Geometry.maxClusterCount)
    (hchained : node.isContiguous = false) (hbase : base < 2 ^ 64) :
    (∀ index cluster value, index + 1 < ceilDiv length volume.geometry.clusterSize →
      (volume.chain node).clusterAt answer index = .ok cluster →
      ((volume.geometry.fatEntry cluster).mapError .volume).result answer = .ok value →
      (∀ next, FatEntry.ofValue value ≠ .next next) →
      ∃ error, (extract (volume.chain node) length base).result answer = .error error) ∧
    (volume.geometry.clusterCount.toNat + (imageUnitSize / volume.geometry.clusterSize - 1) ≤
        Geometry.maxClusterCount →
      ∀ list, (extract (volume.chain node) length base).result answer = .ok list →
        ∀ region ∈ list.regions, ∀ cluster, FatEntry.maxCluster < cluster →
          (base + volume.geometry.clusterOffset cluster) / diskUnitSize ∉ region.diskUnits ∧
          (base + volume.geometry.clusterOffset cluster) % 2 ^ 64 / diskUnitSize ∉
            region.diskUnits) := by
  constructor
  · intro index cluster value hindex hat hvalue hmark
    exact Volume.exists_error_of_mark base hcount hchained hindex hat hvalue hmark
  · intro hroom list hextract region hregion cluster hlarge
    have hmax : FatEntry.maxCluster.toNat = Geometry.maxClusterCount + 1 := by decide
    rw [UInt32.lt_iff_toNat_lt, hmax] at hlarge
    have hbeyond : volume.geometry.clusterCount.toNat + 2 +
        (imageUnitSize / volume.geometry.clusterSize - 1) ≤ cluster.toNat := by omega
    exact ⟨Volume.not_mem_diskUnits_of_extract hbase hbeyond hextract hregion (.inl rfl),
      Volume.not_mem_diskUnits_of_extract hbase hbeyond hextract hregion (.inr rfl)⟩

/-- A volume of two clusters of 2048 bytes. -/
def endedVolume : Volume where
  geometry := ⟨9, 2, 1, 1, 2, 2, 2, by decide, by decide⟩
  caseMap := ⟨#[]⟩

/-- A file in its first cluster. -/
def endedNode : Node := ⟨"a", 2, 2048, 2048, false, false⟩

/-- A table of end marks, as each sector of the volume. -/
def endMarks : Inquiry.Respondent Sectors Error :=
  fun _ => .ok ⟨(List.replicate 512 0xFF).toArray⟩

/-- A file of one cluster by its end mark is no file of two clusters, and what is mapped of it is no
more than the one. -/
theorem marks_not_mapped_end_mark :
    (∃ error, (extract (endedVolume.chain endedNode) 4096 0).result endMarks = .error error) ∧
      ∀ cluster, FatEntry.maxCluster < cluster →
        (0 + endedVolume.geometry.clusterOffset cluster) / diskUnitSize ∉
          (Region.mk 0 1 2).diskUnits := by
  have hmarks := @marks_not_mapped endedVolume endedNode endMarks 0 4096 (by decide) rfl (by decide)
  have hregions :=
    @marks_not_mapped endedVolume endedNode endMarks 0 2048 (by decide) rfl (by decide)
  have hentry : ((endedVolume.geometry.fatEntry 2).mapError .volume).result endMarks =
      .ok (0xFFFFFFFF : UInt32) := eq_ok_of_toOption_eq_some (by decide +kernel)
  have hextract : (extract (endedVolume.chain endedNode) 2048 0).result endMarks =
      .ok (.ofRegions [⟨0, 1, 2⟩]) := by rfl
  refine ⟨hmarks.1 0 2 _ (by decide) rfl hentry ?_, fun cluster hcluster => ?_⟩
  · have hlast : FatEntry.ofValue 0xFFFFFFFF = .last := by decide
    simp [hlast]
  · exact (hregions.2 (by decide) _ hextract _ (List.mem_singleton.2 rfl) cluster hcluster).1

/-- The bytes of a volume whose boot sector counts more clusters than there are numbers for: the
root directory, and a file by the name of `a`, one byte longer than its only cluster. -/
def overcountedVolume : List UInt8 :=
  let zeros (count : Nat) : List UInt8 := List.replicate count 0
  -- The boot sector, its FAT at sector 1, its heap at sector 2.
  Geometry.signature ++ (zeros 69 ++
    ([1, 0, 0, 0, 1, 0, 0, 0, 2, 0, 0, 0, 0xFF, 0xFF, 0xFF, 0xFF, 2, 0, 0, 0] ++ (zeros 8 ++
    ([9, 2, 1] ++ (zeros 401 ++
  -- The FAT: both clusters are the last ones of their chains.
  (zeros 8 ++ ([0xFF, 0xFF, 0xFF, 0xFF, 0xFF, 0xFF, 0xFF, 0xFF] ++ (zeros 496 ++
  -- The root directory: an empty case map, and the three entries of the file.
  ([0x82] ++ (zeros 31 ++
    ([0x85, 2, 0xC6, 0x74] ++ (zeros 28 ++
    ([0xC0, 1, 0, 1, 0x30, 0x80, 0, 0, 1, 8] ++ (zeros 10 ++
      ([3, 0, 0, 0, 1, 8, 0, 0, 0, 0, 0, 0] ++
    ([0xC1, 0, 0x61] ++ (zeros 29 ++ (zeros 1920 ++
  -- The cluster of the file.
  zeros 2048))))))))))))))))))

/-- Behind the file's cluster stands the end mark, and the mark's place is mapped. -/
theorem end_mark_mapped_overcounted : ∃ volume node,
    Volume.mount.result (volumeSectors ⟨overcountedVolume.toArray⟩) = .ok volume ∧
      (volume.lookup "a").result (volumeSectors ⟨overcountedVolume.toArray⟩) = .ok node ∧
      node.isContiguous = false ∧
      0 + 1 < ceilDiv node.dataLength.toNat volume.geometry.clusterSize ∧
      (volume.chain node).clusterAt (chainSectors ⟨overcountedVolume.toArray⟩) 0 = .ok 3 ∧
      ((volume.geometry.fatEntry 3).mapError .volume).result
        (chainSectors ⟨overcountedVolume.toArray⟩) = .ok 0xFFFFFFFF ∧
      (∀ next, FatEntry.ofValue 0xFFFFFFFF ≠ .next next) ∧
      (extract (volume.chain node) node.dataLength.toNat 0).result
        (chainSectors ⟨overcountedVolume.toArray⟩) =
          .ok (.ofRegions [⟨0, 1, 6⟩, ⟨1, 1, 17179869174⟩]) ∧
      (0 + volume.geometry.clusterOffset 0xFFFFFFFF) / diskUnitSize = 17179869174 := by
  have hnames : Volume.components "a" = ["a"] := by cbv
  have hrun : ((do
      let volume ← Volume.mount.mapError .volume
      let node ← (volume.descend volume.root ["a"]).mapError .volume
      let entry ← (volume.geometry.fatEntry node.firstCluster).mapError .volume
      let list ← extract (volume.chain node) node.dataLength.toNat 0
      return (node, volume.geometry.clusterSize, volume.geometry.heapStart, entry, list) :
        Inquiry Sectors Error _).result
          fun address => (listedSectors overcountedVolume address).mapError .volume).toOption =
      some (⟨"a", 3, 2049, 2049, false, false⟩, 2048, 1024, 0xFFFFFFFF,
        .ofRegions [⟨0, 1, 6⟩, ⟨1, 1, 17179869174⟩]) := by decide +kernel
  rw [← volumeSectors_toArray] at hrun
  have hok := eq_ok_of_toOption_eq_some hrun
  obtain ⟨volume, hmount, hrest⟩ := Inquiry.result_bind_eq_ok.1 hok
  obtain ⟨node, hnode, hrest⟩ := Inquiry.result_bind_eq_ok.1 hrest
  obtain ⟨entry, hentry, hrest⟩ := Inquiry.result_bind_eq_ok.1 hrest
  obtain ⟨list, hlist, hend⟩ := Inquiry.result_bind_eq_ok.1 hrest
  have hvalues := Except.ok.inj hend
  simp only [Prod.mk.injEq] at hvalues
  obtain ⟨rfl, hsize, hheap, rfl, rfl⟩ := hvalues
  have hmounted := Inquiry.eq_ok_of_mapError_eq_ok ((result_chainSectors _ _).symm.trans hmount)
  have hfound := Inquiry.eq_ok_of_mapError_eq_ok ((result_chainSectors _ _).symm.trans hnode)
  have hmark : FatEntry.ofValue 0xFFFFFFFF = .last := by decide
  refine ⟨volume, _, hmounted, ?_, rfl, by rw [hsize]; decide, rfl, hentry, by simp [hmark], hlist,
    ?_⟩
  · rw [Volume.lookup, hnames]
    exact hfound
  · rw [Geometry.clusterOffset, hsize, hheap]
    decide

end BootExtents
