import BootExtents.Location.Source
import BootExtents.Proofs.Extent.Walk
import BootExtents.Proofs.Region.Sequence
import BootExtents.Proofs.Volume.Mapping
import BootExtents.Proofs.Volume.Marks
import Mathlib

/-!
# Regions derived from a filesystem

The regions of an exFAT file follow one another, whatever its clusters are, as long as the image
units of the file can be counted with 32 bits. For this, its rows must not need more image units
than the file as a whole, and they do not: all but the last one are whole numbers of them.

## Main definitions

* `BootExtents.deviceSectors` — what is read from the sectors of a device.
* `BootExtents.Volume.Names` — a path of a volume is that of a file.
* `BootExtents.Platform.IsImage` — the file that a record means.

## Main results

* `BootExtents.ClusterChain.units_extents_le` — the image units that rows need.
* `BootExtents.isSequence_of_extract` — the regions of a chain follow one another.
* `BootExtents.Platform.outcome_volumeSource_eq_ok_iff` — when a list is derived.
* `BootExtents.Platform.exists_image_of_volumeSource` — a list derived from a filesystem is that of
  the image's regions, which follow one another.
-/

set_option relaxedAutoImplicit false
set_option autoImplicit false

namespace BootExtents

variable {I : Interface}

/-! ### Image units of a file -/

/-- If the first part of a length is a whole number of units, the rest of it starts a unit. -/
lemma ceilDiv_min_add {unit part : Nat} (hunit : 0 < unit) (hdvd : unit ∣ part) (length : Nat) :
    ceilDiv (min part length) unit + ceilDiv (length - part) unit = ceilDiv length unit := by
  rcases Nat.le_total part length with hle | hle
  · have hpart : part = ceilDiv part unit * unit := (ceilDiv_mul_of_dvd hunit hdvd).symm
    have hlength : length = ceilDiv part unit * unit + (length - part) := by omega
    rw [min_eq_left hle]
    conv_rhs => rw [hlength, ceilDiv_mul_add hunit]
  · rw [min_eq_right hle, Nat.sub_eq_zero_of_le hle, ceilDiv_zero hunit, Nat.add_zero]

/-- More bytes do not need fewer units. -/
lemma ceilDiv_mono {unit less more : Nat} (hunit : 0 < unit) (h : less ≤ more) :
    ceilDiv less unit ≤ ceilDiv more unit :=
  (ceilDiv_le hunit _ _).2 (h.trans (le_ceilDiv_mul hunit more))

namespace ClusterChain

variable {chain : ClusterChain I} {rows : List (List ClusterId)}

/-- **The image units that rows need** are no more than those of the bytes that they hold, if all
rows but the last one are whole numbers of image units.

**Proof sketch.** Induction on the rows. The last one has at most the bytes that are left. A row
before it ends with an image unit, so what follows it is counted on its own. -/
lemma units_extents_le (place : ClusterId → Nat) (base left : Nat)
    (hwhole : ∀ row ∈ rows.dropLast, imageUnitSize ∣ row.length * chain.clusterSize) :
    Extent.units (chain.extents place base left rows) ≤ ceilDiv left imageUnitSize := by
  induction rows generalizing left with
  | nil => exact Nat.zero_le _
  | cons row rows ih =>
    rw [extents, Extent.units_cons, rowExtent]
    cases rows with
    | nil => exact ceilDiv_mono imageUnitSize_pos (min_le_right _ _)
    | cons next rows =>
      rw [List.dropLast_cons_cons] at hwhole
      have hrow := hwhole row (List.mem_cons_self ..)
      rw [← ceilDiv_min_add imageUnitSize_pos hrow left]
      exact Nat.add_le_add_left
        (ih _ fun member hmember => hwhole member (List.mem_cons_of_mem _ hmember)) _

end ClusterChain

/-- **The regions of a chain follow one another**, if the image units of the file can be counted.

**Proof sketch.** Extraction pushes the extents of sound clusters (`result_extract`). Their rows
need no more units than the file (`ClusterChain.units_extents_le`), and the regions that a builder
makes of extents follow one another. -/
theorem isSequence_of_extract {chain : ClusterChain I} {answer : Inquiry.Respondent I Error}
    {place : ClusterId → Nat} {length base : Nat} (hplaced : chain.PlacedBy answer place)
    (hsize : 0 < chain.clusterSize) {list : RegionList}
    (hresult : (extract chain length base).result answer = .ok list) :
    (∃ regions, list = .ofRegions regions) ∧
      (ceilDiv length imageUnitSize < 2 ^ 32 → IsSequence list.regions) := by
  have hextract := result_extract hplaced hsize length base
  rw [hresult] at hextract
  obtain ⟨clusters, -, hsound, rfl⟩ := hextract
  refine ⟨⟨_, rfl⟩, fun hunits => RegionBuilder.isSequence_build ?_⟩
  exact (ClusterChain.units_extents_le place base length hsound.whole).trans_lt hunits

/-! ### Files of a volume -/

/-- A volume that can be mounted has a file at a path. -/
structure Volume.Names (answer : Inquiry.Respondent Sectors Error) (path : String)
    (volume : Volume) (node : Node) : Prop where
  mounted : (mount.mapError .volume).result answer = .ok volume
  found : ((volume.lookup path).mapError .volume).result answer = .ok node
  file : node.isDirectory = false

/-- Regions of a file are extracted from the clusters of the file that its path names. -/
lemma result_fileRegions_eq_ok {answer : Inquiry.Respondent Sectors Error} {path : String}
    {base : Nat} {list : RegionList} : (fileRegions path base).result answer = .ok list ↔
      ∃ volume node, Volume.Names answer path volume node ∧
        (extract (volume.chain node) node.dataLength.toNat base).result answer = .ok list := by
  rw [fileRegions, Inquiry.bind_eq, Inquiry.result_bind_eq_ok]
  constructor
  · rintro ⟨volume, hmount, hrest⟩
    obtain ⟨node, hlookup, hrest⟩ := Inquiry.result_bind_eq_ok.1 hrest
    by_cases hdirectory : node.isDirectory = true
    · rw [if_pos hdirectory] at hrest
      cases hrest
    · rw [if_neg hdirectory] at hrest
      exact ⟨volume, node, ⟨hmount, hlookup, by simpa using hdirectory⟩, hrest⟩
  · rintro ⟨volume, node, ⟨hmount, hlookup, hfile⟩, hextract⟩
    refine ⟨volume, hmount, Inquiry.result_bind_eq_ok.2 ⟨node, hlookup, ?_⟩⟩
    rw [if_neg (by simp [hfile])]
    exact hextract

/-- A file that can be read as a whole has regions. -/
lemma Volume.exists_fileRegions {image data : ByteArray} {path : String} {volume : Volume}
    {node : Node} (base : Nat) (hmount : mount.result (volumeSectors image) = .ok volume)
    (hwhole : imageUnitSize ∣ volume.geometry.clusterSize)
    (hlookup : (volume.lookup path).result (volumeSectors image) = .ok node)
    (hfile : node.isDirectory = false) (hlength : 0 < node.dataLength.toNat)
    (hdata : (volume.geometry.readData node.firstCluster node.isContiguous
      (some node.dataLength.toNat)).result (volumeSectors image) = .ok data)
    (hsize : data.size = node.dataLength.toNat) :
    ∃ list, (fileRegions path base).result (chainSectors image) = .ok list := by
  obtain ⟨clusters, hcount, hsound, -⟩ := sound_of_readData hwhole hdata hsize
  have hpos := volume.geometry.clusterSize_pos
  have hmax : clusters.length =
      max (ceilDiv node.dataLength.toNat volume.geometry.clusterSize) 1 := by
    have hneeded := (lt_ceilDiv hpos 0 node.dataLength.toNat).2 (by simpa)
    omega
  rw [result_fileRegions hmount hlookup hfile]
  exact ⟨_, result_extract_of_sound (placedBy_chain volume node _) hpos base hmax hsound⟩

/-! ### The image -/

/-- What is read from the sectors of a device. -/
def deviceSectors (answer : (question : Files.Question) → Files.Answer question)
    (device : String) : Inquiry.Respondent Sectors Error :=
  fun address => (Platform.deviceSector device address).result (.willing answer)

/-- To inquire about the sectors of a device is to read them from it. -/
lemma result_interpret_deviceSector {α : Type}
    (answer : (question : Files.Question) → Files.Answer question) (device : String)
    (inquiry : Inquiry Sectors Error α) :
    (inquiry.interpret (Platform.deviceSector device)).result (.willing answer) =
      inquiry.result (deviceSectors answer device) :=
  Inquiry.result_interpret _ _ _

/-- A sector of a device is read from the device, or is a failure of the volume. -/
lemma result_deviceSector (answer : (question : Files.Question) → Files.Answer question)
    (device : String) (address : SectorAddress) :
    (Platform.deviceSector device address).result (.willing answer) =
      (((answer (FileQuestion.slice device address.position address.size) :
        Except IoError ByteArray).mapError VolumeError.io).mapError Error.volume) := by
  rw [Platform.deviceSector]
  refine (Inquiry.result_query_bind answer _ _).trans ?_
  generalize (answer (FileQuestion.slice device address.position address.size) :
    Except IoError ByteArray) = content
  cases content <;> rfl

/-- A device that is read like an image has the image's sectors. -/
lemma deviceSectors_eq_chainSectors {answer : (question : Files.Question) → Files.Answer question}
    {device : String} {image : ByteArray}
    (h : ∀ position length, answer (FileQuestion.slice device position length) =
      readExact image position length) : deviceSectors answer device = chainSectors image := by
  funext address
  have hread := h address.position address.size
  exact (result_deviceSector answer device address).trans (by rw [hread]; rfl)

namespace Platform

variable {platform : Platform} {disk : String} {record : Record} {list : RegionList}
  {answer : (question : Files.Question) → Files.Answer question}

/-- The file that a record means: on the exFAT volume of a partition of the disk, it has the path
that the record tells. -/
def IsImage (platform : Platform) (disk : String)
    (answer : (question : Files.Question) → Files.Answer question) (record : Record)
    (node : Node) : Prop :=
  record.filesystem = .exfat ∧ ∃ volume, Volume.Names
    (deviceSectors answer (platform.device (Disk.partitionName disk record.partitionIndex)))
    record.imagePath volume node

/-- A path names one file. -/
lemma IsImage.unique {node other : Node} (h : platform.IsImage disk answer record node)
    (hother : platform.IsImage disk answer record other) : node = other := by
  obtain ⟨-, volume, hmounted, hfound, -⟩ := h
  obtain ⟨-, volume', hmounted', hfound', -⟩ := hother
  obtain rfl := Except.ok.inj (hmounted.symm.trans hmounted')
  exact Except.ok.inj (hfound.symm.trans hfound')

/-- The filesystem either gives a list or fails. -/
lemma outcome_volumeSource_ne_none :
    ((platform.volumeSource disk).find record).result (.willing answer) ≠ .ok none := by
  intro h
  dsimp only [volumeSource] at h
  split_ifs at h with hexfat
  · obtain ⟨partition, -, h⟩ := Inquiry.result_bind_eq_ok.1 h
    obtain ⟨size?, -, h⟩ := Inquiry.result_bind_eq_ok.1 h
    obtain ⟨found, -, h⟩ := Inquiry.result_bind_eq_ok.1 h
    cases h
  · cases h

/-- A list is derived from the volume on the partition's device, if this can be opened. -/
lemma outcome_volumeSource_eq_ok_iff :
    ((platform.volumeSource disk).find record).result (.willing answer) = .ok (some list) ↔
      record.filesystem = .exfat ∧ ∃ partition,
        (platform.partition disk record.partitionIndex).result (.willing answer) = .ok partition ∧
        (∃ size?, (Files.ordinarySize partition.device).result (.willing answer) = .ok size?) ∧
        (fileRegions record.imagePath partition.offset).result
          (deviceSectors answer partition.device) = .ok list := by
  dsimp only [volumeSource]
  constructor
  · intro h
    split_ifs at h with hexfat
    · obtain ⟨partition, hpartition, h⟩ := Inquiry.result_bind_eq_ok.1 h
      obtain ⟨size?, hsize, h⟩ := Inquiry.result_bind_eq_ok.1 h
      obtain ⟨found, hfound, h⟩ := Inquiry.result_bind_eq_ok.1 h
      obtain rfl := Option.some.inj (Except.ok.inj h)
      exact ⟨hexfat, partition, hpartition, ⟨size?, hsize⟩,
        (result_interpret_deviceSector answer _ _).symm.trans hfound⟩
    · cases h
  · rintro ⟨hexfat, partition, hpartition, ⟨size?, hsize⟩, hregions⟩
    rw [if_pos hexfat]
    refine Inquiry.result_bind_eq_ok.2 ⟨partition, hpartition, ?_⟩
    refine Inquiry.result_bind_eq_ok.2 ⟨size?, hsize, ?_⟩
    exact Inquiry.result_bind_eq_ok.2
      ⟨list, (result_interpret_deviceSector answer _ _).trans hregions, rfl⟩

/-- **A list derived from a filesystem** is that of the image's regions, in the usual units. These
follow one another, if the image units can be counted. -/
theorem exists_image_of_volumeSource
    (h : ((platform.volumeSource disk).find record).result (.willing answer) = .ok (some list)) :
    ∃ node, platform.IsImage disk answer record node ∧ (∃ regions, list = .ofRegions regions) ∧
      (ceilDiv node.dataLength.toNat imageUnitSize < 2 ^ 32 → IsSequence list.regions) := by
  obtain ⟨hexfat, partition, hpartition, -, hregions⟩ := outcome_volumeSource_eq_ok_iff.1 h
  obtain ⟨start, -, hpartition⟩ := Inquiry.result_bind_eq_ok.1 hpartition
  obtain rfl := Except.ok.inj hpartition
  obtain ⟨volume, node, hnames, hextract⟩ := result_fileRegions_eq_ok.1 hregions
  exact ⟨node, ⟨hexfat, volume, hnames⟩, isSequence_of_extract
    (Volume.placedBy_chain volume node _) volume.geometry.clusterSize_pos hextract⟩

end Platform

end BootExtents
