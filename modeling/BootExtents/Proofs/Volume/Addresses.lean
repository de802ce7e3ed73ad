import BootExtents.Proofs.Bytes.Fields
import BootExtents.Proofs.Volume.Bounds
import BootExtents.Proofs.Volume.Mapping
import Mathlib

/-!
# Where clusters and table entries lie

The place of a cluster is worked out in sectors where it is read, and in bytes where it is mapped. The
place of a table entry is a sector and a byte of that sector. For an image of the volume, both are
ranges of bytes of the image, and the mapped bytes are those that are read.

## Main definitions

* `BootExtents.readRange` — a range of an image, or the error that the image ends before.
* `BootExtents.Geometry.clusterBytes` — the bytes of the volume that a cluster has.

## Main results

* `BootExtents.Geometry.result_readCluster` — what is read of a cluster is a range of the image.
* `BootExtents.Geometry.result_fatEntry` — an entry of the table is a word of the image.
* `BootExtents.Geometry.disjoint_clusterBytes` — clusters do not share bytes.
* `BootExtents.addresses_agree` — reading and mapping agree on all of this.
-/

set_option relaxedAutoImplicit false
set_option autoImplicit false

namespace BootExtents

/-! ### Ranges of an image -/

/-- The `length` bytes of an image from `position` on, if it has all of them. -/
def readRange (image : ByteArray) (position length : Nat) : Except VolumeError ByteArray :=
  if position + length ≤ image.size then .ok (image.extract position (position + length))
  else .error (.io .endOfFile)

/-- A word of a range is a word of the whole. -/
lemma Packed.u32At_extract (bytes : ByteArray) (start : Nat) {length offset : Nat}
    (h : offset + 4 ≤ length) :
    u32At (bytes.extract start (start + length)) offset = u32At bytes (start + offset) := by
  rw [u32At_eq, u32At_eq, toList_extract, Bytes.u32At, Bytes.u32At, Bytes.slice_slice _ _ h]

/-- If the items of a list either have a value or one common error, the list has the values of all
of them or this error. -/
lemma mapM_eq_ite {ε α β : Type} {f : α → Except ε β} {fits : α → Prop} [DecidablePred fits]
    {value : α → β} {error : ε} {items : List α}
    (h : ∀ item ∈ items, f item = if fits item then .ok (value item) else .error error) :
    items.mapM f =
      if ∀ item ∈ items, fits item then .ok (items.map value) else .error error := by
  induction items with
  | nil => rfl
  | cons item items ih =>
    rw [List.mapM_cons, h item (List.mem_cons_self ..),
      ih fun other hother => h other (List.mem_cons_of_mem _ hother)]
    by_cases hitem : fits item
    · by_cases hitems : ∀ other ∈ items, fits other
      · rw [if_pos hitem, if_pos hitems, if_pos (List.forall_mem_cons.2 ⟨hitem, hitems⟩)]
        rfl
      · rw [if_pos hitem, if_neg hitems, if_neg fun hall => hitems (List.forall_mem_cons.1 hall).2]
        rfl
    · rw [if_neg hitem, if_neg fun hall => hitem (List.forall_mem_cons.1 hall).1]
      rfl

/-- Ranges of one size that follow one another end within a bound if the last one does. -/
lemma forall_range_add_le_iff (start size bound : Nat) {count : Nat} (hcount : 0 < count) :
    (∀ index < count, start + index * size + size ≤ bound) ↔ start + count * size ≤ bound := by
  constructor
  · intro hall
    have hend := hall (count - 1) (by omega)
    rwa [Nat.add_assoc, ← Nat.succ_mul, Nat.succ_eq_add_one, Nat.sub_add_cancel hcount] at hend
  · intro hend index hindex
    have hbefore := Nat.mul_le_mul_right size (Nat.succ_le_of_lt hindex)
    rw [Nat.succ_mul] at hbefore
    omega

namespace Geometry

variable {geometry : Geometry} {image : ByteArray} {cluster other next : ClusterId}

/-! ### Clusters -/

/-- A sector at a position that files can have is read as a range of the image. -/
lemma result_sector (image : ByteArray) {number : Nat} (h : number * geometry.sectorSize < 2 ^ 63) :
    (geometry.sector number).result (volumeSectors image) =
      readRange image (number * geometry.sectorSize) geometry.sectorSize := by
  have hquery : (geometry.sector number).result (volumeSectors image) =
      (readExact image (number * geometry.sectorSize) geometry.sectorSize).mapError .io :=
    Inquiry.result_query _ _
  have hlimit : ¬positionLimit ≤ number * geometry.sectorSize :=
    Nat.not_le.2 (h.trans_eq (by decide))
  rw [hquery, readExact, readRange, if_neg hlimit]
  split <;> rfl

/-- **What is read of a cluster** is the range of the image where it lies, if that is in the
image.

**Proof sketch.** The sectors of the cluster are ranges of one size, which follow one another from
where the cluster starts (`clusterSector_mul`). All of them are in the image if the last one is. -/
theorem result_readCluster (geometry : Geometry) (image : ByteArray) (cluster : ClusterId) :
    (geometry.readCluster cluster).result (volumeSectors image) =
      readRange image (geometry.clusterOffset cluster) geometry.clusterSize := by
  have hsectors : ((geometry.clusterSectors cluster).mapM geometry.sector).result
      (volumeSectors image) =
        if ∀ number ∈ geometry.clusterSectors cluster,
          number * geometry.sectorSize + geometry.sectorSize ≤ image.size
        then .ok ((geometry.clusterSectors cluster).map fun number =>
          image.extract (number * geometry.sectorSize)
            (number * geometry.sectorSize + geometry.sectorSize))
        else .error (.io .endOfFile) := by
    rw [Inquiry.result_mapM]
    exact mapM_eq_ite fun number hnumber =>
      result_sector image (position_lt_of_mem_clusterSectors hnumber)
  have hfits : (∀ number ∈ geometry.clusterSectors cluster,
      number * geometry.sectorSize + geometry.sectorSize ≤ image.size) ↔
        geometry.clusterOffset cluster + geometry.clusterSize ≤ image.size := by
    rw [clusterSize_eq, ← forall_range_add_le_iff _ _ _ geometry.sectorsPerCluster_pos]
    simp only [clusterSectors, List.mem_map, List.mem_range, forall_exists_index, and_imp,
      forall_apply_eq_imp_iff₂, clusterSector_mul]
  rw [readCluster, Inquiry.bind_eq, Inquiry.result_bind, hsectors, readRange, if_congr hfits rfl rfl]
  by_cases hend : geometry.clusterOffset cluster + geometry.clusterSize ≤ image.size
  · rw [if_pos hend, if_pos hend]
    simp only [clusterSectors, List.map_map, Function.comp_def, clusterSector_mul]
    rw [clusterSize_eq, ← joined_extract_row]
    rfl
  · rw [if_neg hend, if_neg hend]

/-- The bytes of the volume that a cluster has. -/
def clusterBytes (geometry : Geometry) (cluster : ClusterId) : Finset Nat :=
  Finset.Ico (geometry.clusterOffset cluster)
    (geometry.clusterOffset cluster + geometry.clusterSize)

/-- Behind a cluster of the heap lies the one with the next number. -/
lemma clusterOffset_next (hvalid : geometry.isValid cluster = true)
    (hnext : next.toNat = cluster.toNat + 1) :
    geometry.clusterOffset next = geometry.clusterOffset cluster + geometry.clusterSize := by
  have hfirst := (isValid_iff.1 hvalid).1
  have hindex : heapIndex next = heapIndex cluster + 1 := by
    unfold heapIndex
    omega
  rw [clusterOffset, clusterOffset, hindex, Nat.succ_mul, Nat.add_assoc]

/-- A cluster of the heap ends before each one with a larger number. -/
lemma clusterOffset_add_le (hvalid : geometry.isValid cluster = true) (hlt : cluster < other) :
    geometry.clusterOffset cluster + geometry.clusterSize ≤ geometry.clusterOffset other := by
  have hfirst := (isValid_iff.1 hvalid).1
  have hindex : heapIndex cluster + 1 ≤ heapIndex other := by
    rw [UInt32.lt_iff_toNat_lt] at hlt
    unfold heapIndex
    omega
  have hplace := Nat.mul_le_mul_right geometry.clusterSize hindex
  rw [Nat.succ_mul] at hplace
  unfold clusterOffset
  omega

/-- Clusters of the heap do not share bytes. -/
lemma disjoint_clusterBytes (hvalid : geometry.isValid cluster = true)
    (hother : geometry.isValid other = true) (hne : cluster ≠ other) :
    Disjoint (geometry.clusterBytes cluster) (geometry.clusterBytes other) := by
  simp only [Finset.disjoint_left, clusterBytes, Finset.mem_Ico]
  intro position hposition
  rcases UInt32.lt_or_lt_of_ne hne with hlt | hgt
  · have := clusterOffset_add_le hvalid hlt
    omega
  · have := clusterOffset_add_le hother hgt
    omega

/-! ### Table entries -/

/-- **An entry of the table** is a word of the image, if the table has the cluster and the image has
the sector.

**Proof sketch.** The sector's number and the entry's place in it are quotient and remainder of the
entry's place in the table. -/
theorem result_fatEntry (geometry : Geometry) (image : ByteArray) (cluster : ClusterId) :
    (geometry.fatEntry cluster).result (volumeSectors image) =
      if 4 * cluster.toNat < geometry.fatLength.toNat * geometry.sectorSize then
        if (geometry.fatOffset.toNat + 4 * cluster.toNat / geometry.sectorSize) *
          geometry.sectorSize + geometry.sectorSize ≤ image.size
        then .ok (Packed.u32At image
          (geometry.fatOffset.toNat * geometry.sectorSize + 4 * cluster.toNat))
        else .error (.io .endOfFile)
      else .error .fatChain := by
  have hplace : cluster.toNat * 4 = 4 * cluster.toNat := Nat.mul_comm _ _
  by_cases hlt : 4 * cluster.toNat < geometry.fatLength.toNat * geometry.sectorSize
  · have hindex : 4 * cluster.toNat / geometry.sectorSize < geometry.fatLength.toNat :=
      (Nat.div_lt_iff_lt_mul geometry.sectorSize_pos).2 hlt
    have hsector : geometry.fatSector? cluster =
        some (geometry.fatOffset.toNat + 4 * cluster.toNat / geometry.sectorSize) := by
      rw [fatSector?, hplace, if_pos hindex]
    have hword : (geometry.fatOffset.toNat + 4 * cluster.toNat / geometry.sectorSize) *
        geometry.sectorSize + geometry.fatSlot cluster =
          geometry.fatOffset.toNat * geometry.sectorSize + 4 * cluster.toNat := by
      rw [fatSlot, hplace, Nat.add_mul, Nat.add_assoc, Nat.div_add_mod']
    rw [fatEntry, hsector, if_pos hlt, ← hword]
    simp only [Inquiry.bind_eq, Inquiry.result_bind]
    rw [result_sector image (position_lt_of_mem_fatSector? hsector), readRange]
    by_cases hend : (geometry.fatOffset.toNat + 4 * cluster.toNat / geometry.sectorSize) *
        geometry.sectorSize + geometry.sectorSize ≤ image.size
    · rw [if_pos hend, if_pos hend, ← Packed.u32At_extract _ _ (geometry.fatSlot_add_le cluster)]
      rfl
    · rw [if_neg hend, if_neg hend]
  · have hindex : ¬4 * cluster.toNat / geometry.sectorSize < geometry.fatLength.toNat := fun h =>
      hlt ((Nat.div_lt_iff_lt_mul geometry.sectorSize_pos).1 h)
    rw [fatEntry, fatSector?, hplace, if_neg hindex, if_neg hlt]
    rfl

/-- **The bytes of an entry** stand in the image behind four bytes for each number before it in the
table.

**Proof sketch.** An entry that is read ends before its sector does, and so before the image
does. -/
theorem bytes_of_fatEntry {geometry : Geometry} {image : ByteArray} {cluster : ClusterId}
    {value : UInt32} (h : (geometry.fatEntry cluster).result (volumeSectors image) = .ok value) :
    ∃ byte₀ byte₁ byte₂ byte₃ : UInt8,
      Bytes.slice image.data.toList
        (geometry.fatOffset.toNat * geometry.sectorSize + 4 * cluster.toNat) 4 =
          [byte₀, byte₁, byte₂, byte₃] ∧
      value.toNat = byte₀.toNat + 2 ^ 8 * byte₁.toNat + 2 ^ 16 * byte₂.toNat +
        2 ^ 24 * byte₃.toNat := by
  rw [result_fatEntry] at h
  split_ifs at h with hlt hend
  obtain rfl := Except.ok.inj h
  rw [Packed.u32At_eq]
  apply Bytes.exists_bytes_of_u32At
  have hslot := geometry.fatSlot_add_le cluster
  have hplace := Nat.div_add_mod' (4 * cluster.toNat) geometry.sectorSize
  rw [fatSlot, Nat.mul_comm cluster.toNat] at hslot
  rw [Nat.add_mul] at hend
  rw [Array.length_toList, ByteArray.size_data]
  omega

end Geometry

/-! ### Mapped bytes -/

namespace Volume

variable {volume : Volume} {node : Node} {answer : Inquiry.Respondent Sectors Error}
  {length base : Nat} {list : RegionList}

/-- One region holds a byte of a file, and it puts the byte into a cluster of the heap, there where
the geometry has the cluster. -/
lemma exists_region_of_extract
    (h : (volume.chain node).Fits answer volume.geometry.clusterOffset length base)
    (hextract : (extract (volume.chain node) length base).result answer = .ok list) {offset : Nat}
    (hoffset : offset < length) :
    ∃ region cluster, list.regions.filter (·.Covers (offset / imageUnitSize)) = [region] ∧
      (volume.chain node).clusterAt answer (offset / volume.geometry.clusterSize) = .ok cluster ∧
      volume.geometry.isValid cluster = true ∧
      region.diskByte offset = base + volume.geometry.clusterOffset cluster +
        offset % volume.geometry.clusterSize := by
  obtain ⟨clusters, hlength, hsound, rfl⟩ := h.exists_layout hextract
  have hindex : offset / volume.geometry.clusterSize < clusters.length := by
    rw [hlength, clusterSize_chain, lt_ceilDiv volume.geometry.clusterSize_pos]
    exact (Nat.div_mul_le_self _ _).trans_lt hoffset
  obtain ⟨region, hfilter, -, hbyte⟩ := h.exists_region hsound hlength hoffset hindex
  exact ⟨region, _, hfilter, hsound.begins _ hindex, hsound.valid _ (List.getElem_mem hindex),
    hbyte (volume.noWrap_chain node clusters)⟩

end Volume

/-- **Reading and mapping agree on addresses**, for any volume and any image of it. What is read of
a cluster of the heap is the range of the image at the cluster's offset; the next cluster lies
behind it, and no other one shares a byte with it. The entry of any cluster is the word that stands
behind four bytes for each number before it in the table, and this word is the number of its four
bytes, the low one first. And a byte of a file is mapped to where the image has the byte that is
read of its cluster. -/
theorem addresses_agree (volume : Volume) (image : ByteArray) :
    (∀ cluster, volume.geometry.isValid cluster = true →
      (volume.geometry.readCluster cluster).result (volumeSectors image) =
        readRange image (volume.geometry.clusterOffset cluster) volume.geometry.clusterSize) ∧
    (∀ cluster next, volume.geometry.isValid cluster = true → next.toNat = cluster.toNat + 1 →
      volume.geometry.clusterOffset next =
        volume.geometry.clusterOffset cluster + volume.geometry.clusterSize) ∧
    (∀ cluster other, volume.geometry.isValid cluster = true →
      volume.geometry.isValid other = true → cluster ≠ other →
      Disjoint (volume.geometry.clusterBytes cluster) (volume.geometry.clusterBytes other)) ∧
    (∀ cluster, (volume.geometry.fatEntry cluster).result (volumeSectors image) =
      if 4 * cluster.toNat < volume.geometry.fatLength.toNat * volume.geometry.sectorSize then
        if (volume.geometry.fatOffset.toNat + 4 * cluster.toNat / volume.geometry.sectorSize) *
          volume.geometry.sectorSize + volume.geometry.sectorSize ≤ image.size
        then .ok (Packed.u32At image
          (volume.geometry.fatOffset.toNat * volume.geometry.sectorSize + 4 * cluster.toNat))
        else .error (.io .endOfFile)
      else .error .fatChain) ∧
    (∀ cluster value, (volume.geometry.fatEntry cluster).result (volumeSectors image) = .ok value →
      ∃ byte₀ byte₁ byte₂ byte₃ : UInt8,
        Bytes.slice image.data.toList
          (volume.geometry.fatOffset.toNat * volume.geometry.sectorSize + 4 * cluster.toNat) 4 =
            [byte₀, byte₁, byte₂, byte₃] ∧
        value.toNat = byte₀.toNat + 2 ^ 8 * byte₁.toNat + 2 ^ 16 * byte₂.toNat +
          2 ^ 24 * byte₃.toNat) ∧
    ∀ node length base list, diskUnitSize ∣ base → ceilDiv length imageUnitSize < 2 ^ 32 →
      (∀ index < ceilDiv length volume.geometry.clusterSize, ∀ cluster,
        (volume.chain node).clusterAt (chainSectors image) index = .ok cluster →
          base + volume.geometry.clusterOffset cluster < 2 ^ 64) →
      (extract (volume.chain node) length base).result (chainSectors image) = .ok list →
      ∀ offset < length, ∃ region cluster,
        list.regions.filter (·.Covers (offset / imageUnitSize)) = [region] ∧
        (volume.chain node).clusterAt (chainSectors image)
          (offset / volume.geometry.clusterSize) = .ok cluster ∧
        volume.geometry.isValid cluster = true ∧
        region.diskByte offset = base + volume.geometry.clusterOffset cluster +
          offset % volume.geometry.clusterSize ∧
        ∀ bytes, (volume.geometry.readCluster cluster).result (volumeSectors image) = .ok bytes →
          bytes.data[offset % volume.geometry.clusterSize]? =
            image.data[region.diskByte offset - base]? := by
  refine ⟨fun cluster _ => volume.geometry.result_readCluster image cluster,
    fun cluster next => Geometry.clusterOffset_next,
    fun cluster other => Geometry.disjoint_clusterBytes,
    volume.geometry.result_fatEntry image, fun cluster value => Geometry.bytes_of_fatEntry, ?_⟩
  intro node length base list hbase hunits hstart hextract offset hoffset
  obtain ⟨region, cluster, hfilter, hat, hvalid, hbyte⟩ :=
    Volume.exists_region_of_extract (Volume.fits_chain hbase hunits hstart) hextract hoffset
  refine ⟨region, cluster, hfilter, hat, hvalid, hbyte, fun bytes hbytes => ?_⟩
  obtain ⟨hfile, rfl⟩ := Geometry.readCluster_eq_ok hbytes
  have hin := Nat.mod_lt offset volume.geometry.clusterSize_pos
  have hstop : volume.geometry.clusterOffset cluster + volume.geometry.clusterSize ≤
      image.data.size := hfile.stop_le
  rw [hbyte, Nat.add_assoc, Nat.add_sub_cancel_left, ByteArray.data_extract,
    Array.getElem?_extract, if_pos (by omega)]

/-- The second cluster of the small volume, its entry in the table, one behind the table, and the
last byte of the file in this cluster. -/
theorem addresses_agree_small_volume :
    let image : ByteArray := ⟨smallVolume.toArray⟩
    (endedVolume.geometry.readCluster 3).result (volumeSectors image) =
        .ok (image.extract 3072 5120) ∧
      endedVolume.geometry.clusterOffset 3 = 1024 + 2048 ∧
      Disjoint (endedVolume.geometry.clusterBytes 2) (endedVolume.geometry.clusterBytes 3) ∧
      (endedVolume.geometry.fatEntry 3).result (volumeSectors image) = .ok 0xFFFFFFFF ∧
      (endedVolume.geometry.fatEntry 128).result (volumeSectors image) = .error .fatChain ∧
      ∃ region, [Region.mk 0 1 6].filter (·.Covers (4 / imageUnitSize)) = [region] ∧
        image.data[region.diskByte 4]? = some 111 := by
  intro image
  obtain ⟨hread, hnext, hapart, hentry, -, hmapped⟩ := addresses_agree endedVolume image
  have hextract : (extract (endedVolume.chain ⟨"a", 3, 5, 5, false, false⟩) 5 0).result
      (chainSectors image) = .ok (.ofRegions [⟨0, 1, 6⟩]) := by rfl
  have hsize : image.size = 5120 := by decide +kernel
  refine ⟨?_, hnext 2 3 rfl rfl, hapart 2 3 rfl rfl (by decide), ?_, ?_, ?_⟩
  · rw [hread 3 rfl, readRange, hsize]
    rfl
  · rw [hentry, hsize]
    decide +kernel
  · rw [hentry]
    rfl
  · obtain ⟨region, cluster, hfilter, hat, -, hbyte, -⟩ :=
      hmapped _ 5 0 _ (by decide) (by decide) (fun _ _ cluster _ => by
        have := endedVolume.geometry.clusterOffset_lt cluster
        omega) hextract 4 (by decide)
    obtain rfl : 3 = cluster := Except.ok.inj hat
    refine ⟨region, hfilter, ?_⟩
    rw [hbyte]
    decide +kernel

end BootExtents
