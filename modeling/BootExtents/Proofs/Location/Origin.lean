import BootExtents.Proofs.Location.Snapshot
import Mathlib

/-!
# What is known of a list that is found

A list that is found is one of the boot stage. What else is known of it depends on where it comes
from. A copy is handed on as it stands: of its content only the unit sizes are looked at, so its
regions may be empty, overlap, or be out of order. A list that is derived from a file is in order,
and so is its table.

## Main definitions

* `BootExtents.RegionList.IsVerbatim` — a list says what bytes say.
* `BootExtents.RegionList.IsOrderly` — a list has the usual units and regions that follow one
  another.

## Main results

* `BootExtents.RegionList.isOrderly_ofRegions` — regions that follow one another make such a list.
* `BootExtents.located_as_copied_or_derived` — what is known of a list that is found.
* `BootExtents.disorderly_copy_located` — a copy need not be in order.
-/

set_option relaxedAutoImplicit false
set_option autoImplicit false

namespace BootExtents

/-! ### Lists -/

namespace RegionList

/-- The list says what the bytes say, and its unit sizes match. -/
structure IsVerbatim (bytes : List UInt8) (list : RegionList) : Prop where
  units : list.UnitsMatch
  bytes : list.toBytes = bytes.take (headerSize + regionSize * list.regions.length)

/-- The list has the usual units and regions that follow one another, so its table is in order. -/
structure IsOrderly (list : RegionList) : Prop where
  imageUnit : list.imageUnit = 2048
  diskUnit : list.diskUnit = 512
  count_pos : ∀ region ∈ list.regions, 0 < region.imageCount.toNat
  increasing : list.regions.Pairwise fun region later =>
    region.imageStart.toNat < later.imageStart.toNat
  follows : list.regions.IsChain fun region next =>
    next.imageStart.toNat = region.imageStart.toNat + region.imageCount.toNat
  table : ∀ device start, (LinearTable.mk list device start).InOrder

/-- Regions in sequence make an orderly list. -/
lemma isOrderly_ofRegions {regions : List Region} (h : IsSequence regions) :
    (ofRegions regions).IsOrderly where
  imageUnit := rfl
  diskUnit := rfl
  count_pos := h.count_pos
  increasing := h.strictly_increasing
  follows := h.follows
  table _ _ := LinearTable.inOrder_of_isSequence h (by rw [unitRatio_ofRegions]; decide)

end RegionList

/-- A copy is read as what it says. -/
lemma isVerbatim_of_readCopy {bytes : List UInt8} {list : RegionList}
    (h : readCopy bytes = .ok (some list)) : list.IsVerbatim bytes :=
  have hread := readCopy_eq_ok_iff.1 h
  ⟨(RegionList.of_ofBytes_eq_ok hread).1, RegionList.toBytes_of_ofBytes hread⟩

/-! ### Ways -/

section Ways

variable {platform : Platform} {disk : String} {record : Record} {list : RegionList}
  {sources : List (LocationSource Files)}
  {answer : (question : Files.Question) → Files.Answer question}

/-- A list from memory is the copy there. -/
lemma exists_copy_of_memorySnapshotSource {I : Interface} {memory : PhysicalMemory I}
    {answer : (question : I.Question) → I.Answer question}
    (h : (memorySnapshotSource memory).outcome answer record = .ok (some list)) :
    record.hasSnapshot = true ∧ ∃ bytes,
      (memory.read record.snapshotAddress record.snapshotLength.toNat).result (.willing answer) =
        .ok bytes ∧ list.IsVerbatim bytes := by
  rw [outcome_memorySnapshotSource] at h
  split_ifs at h with hsnapshot
  · refine ⟨hsnapshot, ?_⟩
    cases hread : (memory.read record.snapshotAddress record.snapshotLength.toNat).result
        (.willing answer) with
    | error error => rw [hread] at h; cases h
    | ok bytes =>
      rw [hread] at h
      exact ⟨bytes, rfl, isVerbatim_of_readCopy h⟩
  · cases h

/-- A list from the firmware table is the copy there. -/
lemma Platform.exists_copy_of_tableSnapshotSource
    (h : platform.tableSnapshotSource.outcome answer record = .ok (some list)) :
    ∃ bytes, platform.tableSnapshot.result (.willing answer) = .ok (some bytes) ∧
      list.IsVerbatim bytes := by
  rw [outcome_tableSnapshotSource] at h
  rcases hcopy : platform.tableSnapshot.result (.willing answer) with error | _ | bytes
  · rw [hcopy] at h; cases h
  · rw [hcopy] at h; cases h
  · rw [hcopy] at h
    exact ⟨bytes, rfl, isVerbatim_of_readCopy h⟩

/-- **What is known of a list that is found.** It is one of the boot stage, and one of the ways
gives it. If that is a copy, in memory or in the firmware table, the list says what the copy says,
and its unit sizes match. If it is the filesystem, the list is that of the image, in the usual
units, and if the image units can be counted with 32 bits, the list is in order. -/
theorem located_as_copied_or_derived
    (h : (locateImage sources record).result (.willing answer) = .ok list) :
    list.isGenuine = true ∧ ∃ source ∈ sources, source.outcome answer record = .ok (some list) ∧
      (∀ memory, source = memorySnapshotSource memory → record.hasSnapshot = true ∧ ∃ bytes,
        (memory.read record.snapshotAddress record.snapshotLength.toNat).result
          (.willing answer) = .ok bytes ∧ list.IsVerbatim bytes) ∧
      (∀ platform : Platform, source = platform.tableSnapshotSource → ∃ bytes,
        platform.tableSnapshot.result (.willing answer) = .ok (some bytes) ∧
          list.IsVerbatim bytes) ∧
      ∀ (platform : Platform) (disk : String), source = platform.volumeSource disk → ∃ node,
        platform.IsImage disk answer record node ∧
          list.imageUnit = 2048 ∧ list.diskUnit = 512 ∧
          (ceilDiv node.dataLength.toNat 2048 < 2 ^ 32 → list.IsOrderly) := by
  obtain ⟨hgenuine, source, hsource, houtcome⟩ := exists_source_of_locateImage h
  refine ⟨hgenuine, source, hsource, houtcome, ?_, ?_, ?_⟩
  · rintro memory rfl
    exact exists_copy_of_memorySnapshotSource houtcome
  · rintro platform rfl
    exact Platform.exists_copy_of_tableSnapshotSource houtcome
  · rintro platform disk rfl
    obtain ⟨node, himage, ⟨regions, rfl⟩, hsequence⟩ :=
      Platform.exists_image_of_volumeSource houtcome
    exact ⟨node, himage, rfl, rfl, fun hunits =>
      RegionList.isOrderly_ofRegions (hsequence hunits)⟩

end Ways

/-- A copy in memory of the boot stage, with one unit for image and disk, an empty region and one
that starts before the region in front of it. It is found as it stands. -/
theorem disorderly_copy_located :
    let list : RegionList := ⟨bootIdentity, 512, 512, [⟨4, 1, 8⟩, ⟨0, 0, 16⟩]⟩
    let record := (Record.create (Vector.replicate 16 7) 1024 1 .exfat "/a" 0).withSnapshot 4096 60
    let told : (question : Files.Question) → Files.Answer question
      | .isThere _ => true
      | .read _ => .error .notFound
      | .list _ => .error .notFound
      | .ordinarySize _ => .ok none
      | .length _ => .error .notFound
      | .slice _ _ _ => .ok ⟨list.toBytes.toArray⟩
    (locateImage (Platform.live.locationSources "sda") record).result (.willing told) = .ok list ∧
      list.unitRatio = 1 ∧
      (¬∀ region ∈ list.regions, 0 < region.imageCount.toNat) ∧
      (¬list.regions.Pairwise fun region later =>
        region.imageStart.toNat < later.imageStart.toNat) ∧
      (¬list.regions.IsChain fun region next =>
        next.imageStart.toNat = region.imageStart.toNat + region.imageCount.toNat) ∧
      ¬(LinearTable.mk list "/dev/sda1" 0).InOrder := by
  intro list record told
  have hholds : MemoryHolds Platform.live.memory told record list :=
    ⟨by decide, by decide, _, rfl, List.prefix_refl _⟩
  have hunits : list.UnitsMatch := ⟨by decide, by decide, by decide⟩
  have hoffer := LocationSource.offer?_eq_some_iff.2
    ⟨hholds.outcome hunits (by decide), show list.isGenuine = true from by decide⟩
  refine ⟨?_, by decide, by decide, by decide, by decide, fun horder => ?_⟩
  · exact result_locateImage_of_offer [] _ (by simp) hoffer
  · exact absurd horder.apart (by decide)

/-- The file of a small volume, on a machine without copies of its regions. -/
theorem located_as_copied_or_derived_small_volume :
    let record := Record.create (Vector.replicate 16 7) 1024 1 .exfat "a" 5
    let told : (question : Files.Question) → Files.Answer question
      | .isThere _ => false
      | .read _ => .error .notFound
      | .list _ => .error .notFound
      | .ordinarySize _ => .ok none
      | .length _ => .error .notFound
      | .slice _ position length => readExact ⟨smallVolume.toArray⟩ position length
    ∃ list, (locateImage (Platform.live.locationSources "sda") record).result (.willing told) =
      .ok list ∧ list.IsOrderly := by
  intro record told
  obtain ⟨volume, node, hmount, hlookup, hdata, hcluster, hfile, hlength⟩ := exists_read_smallVolume
  have hname : record.path.toList.takeWhile (· ≠ 0) = [0x61] := by decide +kernel
  have hpath : record.imagePath = "a" := by
    rw [Record.imagePath, hname]
    cbv
  have hsectors (device : String) :
      deviceSectors told device = chainSectors ⟨smallVolume.toArray⟩ :=
    deviceSectors_eq_chainSectors fun _ _ => rfl
  have hpos : 0 < node.dataLength.toNat := by
    rw [hlength]
    decide
  obtain ⟨partition, hpartition⟩ : ∃ partition,
      (Platform.live.partition "sda" record.partitionIndex).result (.willing told) =
        .ok partition := ⟨_, rfl⟩
  obtain ⟨list, hregions⟩ := Volume.exists_fileRegions partition.offset hmount
    (by rw [hcluster]; decide) hlookup hfile hpos hdata (by rw [hlength]; rfl)
  have hvolume : (Platform.live.volumeSource "sda").outcome told record = .ok (some list) := by
    refine Platform.outcome_volumeSource_eq_ok_iff.2
      ⟨by decide, partition, hpartition, ⟨none, rfl⟩, ?_⟩
    rw [hsectors, hpath]
    exact hregions
  have hmemory : (memorySnapshotSource Platform.live.memory).outcome told record = .ok none := rfl
  have htable : Platform.live.tableSnapshotSource.outcome told record = .ok none := rfl
  have hlocated : (locateImage (Platform.live.locationSources "sda") record).result
      (.willing told) = .ok list := by
    obtain ⟨-, -, ⟨regions, rfl⟩, -⟩ := Platform.exists_image_of_volumeSource hvolume
    have hoffer := LocationSource.offer?_eq_some_iff.2
      ⟨hvolume, RegionList.isGenuine_ofRegions regions⟩
    refine result_locateImage_of_offer
      [memorySnapshotSource Platform.live.memory, Platform.live.tableSnapshotSource] []
      (fun earlier hearlier => ?_) hoffer
    rcases List.mem_pair.1 hearlier with rfl | rfl
    · exact LocationSource.offer?_of_nothing hmemory
    · exact LocationSource.offer?_of_nothing htable
  refine ⟨list, hlocated, ?_⟩
  obtain ⟨-, source, hsource, houtcome, -, -, hderived⟩ := located_as_copied_or_derived hlocated
  -- The copies are missing, so the list comes from the filesystem.
  obtain rfl : source = Platform.live.volumeSource "sda" := by
    simp only [Platform.locationSources, List.mem_cons, List.not_mem_nil, or_false] at hsource
    rcases hsource with rfl | rfl | rfl
    · cases hmemory.symm.trans houtcome
    · cases htable.symm.trans houtcome
    · rfl
  obtain ⟨other, himage, -, -, horderly⟩ := hderived Platform.live "sda" rfl
  have hnode : Platform.live.IsImage "sda" told record node := by
    refine ⟨by decide, volume, ?_⟩
    rw [hsectors, hpath]
    exact ⟨by rw [result_chainSectors, hmount]; rfl, by rw [result_chainSectors, hlookup]; rfl,
      hfile⟩
  obtain rfl := himage.unique hnode
  apply horderly
  rw [hlength]
  decide

end BootExtents
