import BootExtents.Dump
import BootExtents.Proofs.Extent.Shift
import BootExtents.Proofs.Location.Snapshot
import Mathlib

/-!
# Where a partition is believed to start

The regions of a file are told in units of the disk, so the start of the partition is added to what
the volume says; in the table of the file they are told in units of the partition, so it is taken
away again. What the kernel says of the start therefore does not matter, nor whether it says
anything, as long as no byte of the disk is beyond 64 bits.

## Main definitions

* `BootExtents.Partition.imageTable` — the table of a file, derived from its partition.
* `BootExtents.Partition.NoOverflow` — no byte of the file is beyond 64 bits on the disk.

## Main results

* `BootExtents.RegionList.Moved.text_eq` — the table of a list further on.
* `BootExtents.endAlike_fileRegions` — the regions of a file, on a disk further on.
* `BootExtents.start_irrelevant` — derived tables do not depend on the start of the partition.
-/

set_option relaxedAutoImplicit false
set_option autoImplicit false

namespace BootExtents

/-! ### Tables further on -/

namespace RegionList.Moved

variable {units : Nat} {list list' : RegionList}

/-- On a partition that starts at the unit by which a list has moved, the table is the same as
before. -/
lemma text_eq (h : Moved units list list') (device : String) :
    LinearTable.text ⟨list', device, units⟩ = LinearTable.text ⟨list, device, 0⟩ := by
  obtain ⟨rfl, hroom⟩ := h
  have hrows : LinearTable.rows ⟨list.shift units, device, units⟩ =
      LinearTable.rows ⟨list, device, 0⟩ := by
    simp only [LinearTable.rows, shift, List.map_map]
    refine List.map_congr_left fun region hregion => ?_
    simp only [Function.comp_apply, (hroom region hregion).toNat_diskStart_shift]
    rw [Nat.add_sub_cancel, Nat.sub_zero]
    rfl
  rw [LinearTable.text, LinearTable.text, hrows]

/-- No region of a list that has moved lies in front of the unit by which it has. -/
lemma le_diskStart (h : Moved units list list') :
    ∀ region ∈ list'.regions, units ≤ region.diskStart.toNat := by
  obtain ⟨rfl, hroom⟩ := h
  intro region hregion
  obtain ⟨other, hother, rfl⟩ := List.mem_map.1 hregion
  rw [(hroom other hother).toNat_diskStart_shift]
  exact Nat.le_add_left _ _

end RegionList.Moved

/-! ### Files further on -/

/-- **The regions of a file further on.** On a disk where the volume starts some disk units further
on, the regions of a file are as many units further on, or are not found in the same way. -/
theorem endAlike_fileRegions {answer : Inquiry.Respondent Sectors Error} {path : String}
    {units : Nat} (h : ∀ volume node, Volume.Names answer path volume node →
      (volume.chain node).NoOverflow answer node.dataLength.toNat (units * diskUnitSize)) :
    EndAlike (RegionList.Moved units) ((fileRegions path 0).result answer)
      ((fileRegions path (units * diskUnitSize)).result answer) := by
  unfold fileRegions
  refine EndAlike.bind (.refl _) fun volume _ hmount heq => ?_
  subst heq
  refine EndAlike.bind (.refl _) fun node _ hlookup heq => ?_
  subst heq
  by_cases hdirectory : node.isDirectory = true
  · rw [if_pos hdirectory, if_pos hdirectory]
    exact .error _
  · rw [if_neg hdirectory, if_neg hdirectory]
    exact endAlike_extract (h volume node ⟨hmount, hlookup, by simpa using hdirectory⟩)

namespace Partition

/-- The table of the file at a path of a partition's volume. -/
def imageTable (partition : Partition) (path : String) : Inquiry Sectors Error LinearTable := do
  let list ← fileRegions path partition.offset
  return { list, device := partition.device, partitionStart := partition.start.toNat }

/-- No byte of the disk that is worked out for the file at a path is beyond 64 bits, where the
partition starts at the byte that its sector tells. -/
def NoOverflow (partition : Partition) (answer : Inquiry.Respondent Sectors Error)
    (path : String) : Prop :=
  ∀ volume node, Volume.Names answer path volume node →
    (volume.chain node).NoOverflow answer node.dataLength.toNat
      (partition.start.toNat * kernelSectorSize)

variable {partition other : Partition} {answer : Inquiry.Respondent Sectors Error} {path : String}

/-- The places on a volume are below 2^58, so there is room for them behind any smaller start. -/
lemma noOverflow_of_le (h : partition.start.toNat * kernelSectorSize + 2 ^ 58 ≤ 2 ^ 64) :
    partition.NoOverflow answer path := by
  intro volume node _ cluster _ offset hoffset
  have hplace : volume.geometry.clusterOffset cluster = offset := Except.ok.inj hoffset
  have hlt := volume.geometry.clusterOffset_lt cluster
  omega

/-- The regions of a file are those on a disk where the partition starts at the byte that its sector
tells, even if this byte is beyond 64 bits. -/
lemma fileRegions_offset (partition : Partition) (path : String) :
    fileRegions path partition.offset =
      fileRegions path (partition.start.toNat * kernelSectorSize) := by
  have hoffset : partition.offset = partition.start.toNat * kernelSectorSize % 2 ^ 64 := rfl
  simp only [fileRegions, hoffset, extract_mod]

/-- The table of a file is that of its regions on a disk that starts with the volume, and it tells
no unit in front of the partition. -/
lemma endAlike_imageTable (h : partition.NoOverflow answer path) :
    EndAlike (fun list table => table.text = LinearTable.text ⟨list, partition.device, 0⟩ ∧
        ∀ region ∈ table.list.regions, table.partitionStart ≤ region.diskStart.toNat)
      ((fileRegions path 0).result answer) ((partition.imageTable path).result answer) := by
  rw [← Inquiry.bind_done (fileRegions path 0), imageTable, fileRegions_offset]
  refine (endAlike_fileRegions h).bind fun list list' _ hmoved => .ok ?_
  exact ⟨hmoved.text_eq partition.device, hmoved.le_diskStart⟩

/-- Two partitions of one device have the same table of a file. -/
lemma endAlike_text (hdevice : partition.device = other.device)
    (h : partition.NoOverflow answer path) (h' : other.NoOverflow answer path) :
    EndAlike (fun table table' => table.text = table'.text)
      ((partition.imageTable path).result answer) ((other.imageTable path).result answer) := by
  refine ((endAlike_imageTable h).common (endAlike_imageTable h')).mono ?_
  rintro table table' ⟨list, ⟨htext, -⟩, htext', -⟩
  rw [htext, htext', hdevice]

end Partition

/-! ### The printed table -/

namespace Platform

variable {platform : Platform} {disk : String} {record : Record} {partition partition' : Partition}
  {answer answer' : (question : Files.Question) → Files.Answer question}

/-- The image of a record is located through its filesystem: no copy of its regions is found, and
no byte of the disk that is worked out for it is beyond 64 bits. -/
structure Derives (platform : Platform) (disk : String) (record : Record)
    (answer : (question : Files.Question) → Files.Answer question) : Prop where
  memory : (memorySnapshotSource platform.memory).offer? answer record = none
  table : platform.tableSnapshotSource.offer? answer record = none
  noOverflow : ∀ partition,
    (platform.partition disk record.partitionIndex).result (.willing answer) = .ok partition →
      partition.NoOverflow (deviceSectors answer partition.device) record.imagePath

/-- A device can be opened and read on two machines alike. -/
structure SameDevice (device : String)
    (answer answer' : (question : Files.Question) → Files.Answer question) : Prop where
  opens : (Files.ordinarySize device).result (.willing answer) =
    (Files.ordinarySize device).result (.willing answer')
  sectors : deviceSectors answer device = deviceSectors answer' device

/-- Whatever the kernel says, there is a partition, on the device by its name. -/
lemma exists_partition (platform : Platform) (disk : String) (index : UInt16)
    (answer : (question : Files.Question) → Files.Answer question) :
    ∃ partition, (platform.partition disk index).result (.willing answer) = .ok partition ∧
      partition.device = platform.device (Disk.partitionName disk index) := by
  obtain ⟨told?, htold⟩ : ∃ told? : Option UInt64, (number? (Path.join (Path.join
      platform.classDirectory (Disk.partitionName disk index)) "start")).result
        (.willing answer) = .ok told? := by
    rw [number?, Inquiry.bind_eq, Inquiry.result_attempt_bind]
    cases (Files.read _).result (.willing answer) <;> exact ⟨_, rfl⟩
  have hstart : (platform.partitionStart (Disk.partitionName disk index)).result
      (.willing answer) = .ok (told?.getD defaultPartitionStart) :=
    Inquiry.result_bind_eq_ok.2 ⟨told?, htold, rfl⟩
  exact ⟨_, Inquiry.result_bind_eq_ok.2 ⟨_, hstart, rfl⟩, rfl⟩

/-- Without a copy, the image is located as the filesystem has it. -/
lemma Derives.result_locateImage (h : platform.Derives disk record answer) :
    ((locateImage (platform.locationSources disk) record).result (.willing answer)).map some =
      (platform.volumeSource disk).outcome answer record := by
  rw [locateImage, locationSources, result_locateImageFrom_cons, h.memory]
  dsimp only
  rw [result_locateImageFrom_cons, h.table]
  exact result_locateImageFrom_volumeSource _

/-- The regions of the image on an exFAT volume are found once its device can be opened. -/
lemma outcome_volumeSource (hexfat : record.filesystem = .exfat)
    (hpartition : (platform.partition disk record.partitionIndex).result (.willing answer) =
      .ok partition) :
    (platform.volumeSource disk).outcome answer record =
      (((Files.ordinarySize partition.device).result (.willing answer)).bind fun _ =>
        (fileRegions record.imagePath partition.offset).result
          (deviceSectors answer partition.device)).map some := by
  rw [LocationSource.outcome, volumeSource]
  dsimp only
  rw [if_pos hexfat]
  refine (Inquiry.result_bind ..).trans ?_
  rw [hpartition]
  refine (Inquiry.result_bind ..).trans ?_
  cases (Files.ordinarySize partition.device).result (.willing answer) with
  | error error => rfl
  | ok size? =>
    refine (Inquiry.result_bind ..).trans ?_
    rw [result_interpret_deviceSector]
    cases (fileRegions record.imagePath partition.offset).result
      (deviceSectors answer partition.device) <;> rfl

/-- To give a list as one that was found loses nothing of an outcome. -/
lemma map_some_injective {ε α : Type} :
    Function.Injective (Except.map some : Except ε α → Except ε (Option α)) := by
  rintro (error | value) (other | value') h
  · exact congrArg _ (Except.error.inj h)
  · cases h
  · cases h
  · exact congrArg _ (Option.some.inj (Except.ok.inj h))

/-- Without a copy, the printed table is the one of the partition. -/
lemma Derives.result_imageTable (h : platform.Derives disk record answer)
    (hexfat : record.filesystem = .exfat)
    (hpartition : (platform.partition disk record.partitionIndex).result (.willing answer) =
      .ok partition) :
    (platform.imageTable record disk).result (.willing answer) =
      ((Files.ordinarySize partition.device).result (.willing answer)).bind fun _ =>
        (partition.imageTable record.imagePath).result
          (deviceSectors answer partition.device) := by
  have hlocated := map_some_injective
    (h.result_locateImage.trans (outcome_volumeSource hexfat hpartition))
  refine (Inquiry.result_bind ..).trans ?_
  rw [hlocated]
  cases (Files.ordinarySize partition.device).result (.willing answer) with
  | error error => rfl
  | ok size? =>
    dsimp only [Except.bind]
    refine Eq.trans ?_ (Inquiry.result_bind ..).symm
    cases (fileRegions record.imagePath partition.offset).result
        (deviceSectors answer partition.device) with
    | error error => rfl
    | ok list =>
      refine (Inquiry.result_bind ..).trans ?_
      rw [hpartition]
      rfl

/-- Without a copy, no table is printed for a filesystem that is not supported. -/
lemma Derives.result_imageTable_of_ne (h : platform.Derives disk record answer)
    (hexfat : record.filesystem ≠ .exfat) :
    (platform.imageTable record disk).result (.willing answer) =
      .error (.unsupportedFilesystem record.filesystem) := by
  have hlocated := h.result_locateImage
  rw [LocationSource.outcome, volumeSource] at hlocated
  dsimp only at hlocated
  rw [if_neg hexfat] at hlocated
  refine (Inquiry.result_bind ..).trans ?_
  rw [eq_error_of_map_eq_error hlocated]

/-- **Two machines with the same device** print the same table, whatever their kernels say of the
start of the partition. -/
theorem endAlike_imageTable (h : platform.Derives disk record answer)
    (h' : platform.Derives disk record answer')
    (hdevice : SameDevice (platform.device (Disk.partitionName disk record.partitionIndex))
      answer answer') :
    EndAlike (fun table table' => table.text = table'.text)
      ((platform.imageTable record disk).result (.willing answer))
      ((platform.imageTable record disk).result (.willing answer')) := by
  by_cases hexfat : record.filesystem = .exfat
  · obtain ⟨partition, hpartition, hname⟩ :=
      platform.exists_partition disk record.partitionIndex answer
    obtain ⟨partition', hpartition', hname'⟩ :=
      platform.exists_partition disk record.partitionIndex answer'
    have hover := h.noOverflow partition hpartition
    have hover' := h'.noOverflow partition' hpartition'
    rw [h.result_imageTable hexfat hpartition, h'.result_imageTable hexfat hpartition']
    rw [hname] at hover ⊢
    rw [hname', ← hdevice.sectors] at hover' ⊢
    rw [← hdevice.opens]
    cases (Files.ordinarySize (platform.device
        (Disk.partitionName disk record.partitionIndex))).result (.willing answer) with
    | error error => exact .error error
    | ok size? => exact Partition.endAlike_text (hname.trans hname'.symm) hover hover'
  · rw [h.result_imageTable_of_ne hexfat, h'.result_imageTable_of_ne hexfat]
    exact .error _

end Platform

/-! ### The start does not matter -/

/-- **The start of a partition does not matter** for tables that are derived from its filesystem, as
long as no byte of the disk that is worked out is beyond 64 bits.

An extraction on two disks where the volume starts at whole disk units ends with the same regions,
as far apart as the starts of the volume, or fails in the same way. So the table of a file of a
partition is the same for every start, and no region lies in front of the start. The start that is
taken if the kernel does not tell is one of these; it leaves room for every volume. And the table
that is printed on two machines is the same, whatever their kernels tell of the start.

**Proof sketch.** Each of two runs is the one on a disk that starts with the volume, further on
(`endAlike_extract`, `endAlike_fileRegions`). In a table, the start of the partition takes away what
the regions have moved by (`RegionList.Moved.text_eq`). -/
theorem start_irrelevant :
    (∀ {I : Interface} (chain : ClusterChain I) (answer : Inquiry.Respondent I Error)
      (length base base' : Nat), 512 ∣ base → 512 ∣ base' →
      chain.NoOverflow answer length base → chain.NoOverflow answer length base' →
      EndAlike (RegionList.Apart (((base : ℤ) - base') / 512))
        ((extract chain length base).result answer)
        ((extract chain length base').result answer)) ∧
    (∀ (answer : Inquiry.Respondent Sectors Error) (path : String) (partition : Partition),
      (partition.start = defaultPartitionStart → partition.NoOverflow answer path) ∧
      (partition.NoOverflow answer path →
        (∀ table, (partition.imageTable path).result answer = .ok table →
          ∀ region ∈ table.list.regions, table.partitionStart ≤ region.diskStart.toNat) ∧
        ∀ other : Partition, other.device = partition.device → other.NoOverflow answer path →
          EndAlike (fun table table' => table.text = table'.text)
            ((partition.imageTable path).result answer)
            ((other.imageTable path).result answer))) ∧
    ∀ (platform : Platform) (disk : String) (record : Record)
      (answer answer' : (question : Files.Question) → Files.Answer question),
      platform.Derives disk record answer → platform.Derives disk record answer' →
      Platform.SameDevice (platform.device (Disk.partitionName disk record.partitionIndex))
        answer answer' →
      EndAlike (fun table table' => table.text = table'.text)
        ((platform.imageTable record disk).result (.willing answer))
        ((platform.imageTable record disk).result (.willing answer')) := by
  refine ⟨fun chain answer length base base' hbase hbase' h h' => ?_, fun answer path partition =>
    ⟨fun hstart => ?_, fun h => ⟨fun table htable => ?_, fun other hdevice hother => ?_⟩⟩,
    fun platform disk record answer answer' h h' hdevice => ?_⟩
  · exact endAlike_extract_of_dvd hbase hbase' h h'
  · refine Partition.noOverflow_of_le ?_
    rw [hstart]
    decide
  · have halike := Partition.endAlike_imageTable h
    rw [htable] at halike
    generalize (fileRegions path 0).result answer = outcome at halike
    cases halike with
    | ok h => exact h.2
  · exact Partition.endAlike_text hdevice.symm h hother
  · exact Platform.endAlike_imageTable h h' hdevice

/-- A chain of two clusters in two places; the file of a small volume on a partition that starts at
the sector 63 or 2048; and the same on two machines, one of which tells the sector 63 and the other
one nothing. -/
theorem start_irrelevant_small_volume :
    let refuse : Inquiry.Respondent Sectors Error := fun _ => .error .zeroClusterSize
    let chain := ClusterChain.ofList Sectors 2048 [5, 7]
    let sectors := chainSectors ⟨smallVolume.toArray⟩
    let partition (start : UInt64) : Partition := ⟨"sda1", "/dev/sda1", start⟩
    let record := Record.create (Vector.replicate 16 7) 1024 1 .exfat "a" 5
    let told (start : Except IoError ByteArray) :
        (question : Files.Question) → Files.Answer question
      | .isThere _ => false
      | .read _ => start
      | .list _ => .error .notFound
      | .ordinarySize _ => .ok none
      | .length _ => .error .notFound
      | .slice _ position length => readExact ⟨smallVolume.toArray⟩ position length
    EndAlike (RegionList.Apart 63) ((extract chain 4096 (63 * 512)).result refuse)
        ((extract chain 4096 0).result refuse) ∧
      (∃ table, ((partition 63).imageTable "a").result sectors = .ok table ∧
        ∀ region ∈ table.list.regions, 63 ≤ region.diskStart.toNat) ∧
      EndAlike (fun table table' => table.text = table'.text)
        (((partition 63).imageTable "a").result sectors)
        (((partition 2048).imageTable "a").result sectors) ∧
      EndAlike (fun table table' => table.text = table'.text)
        ((Platform.live.imageTable record "sda").result (.willing (told (.ok ⟨#[54, 51]⟩))))
        ((Platform.live.imageTable record "sda").result (.willing (told (.error .notFound)))) := by
  intro refuse chain sectors partition record told
  have hplaces (base : ℕ) (hbase : base + 7 * 2048 < 2 ^ 64) :
      chain.NoOverflow refuse 4096 base := by
    refine ClusterChain.noOverflow_of_valid fun cluster hvalid offset hoffset => ?_
    obtain rfl : cluster.toNat * 2048 = offset := Except.ok.inj hoffset
    rcases List.mem_pair.1 (of_decide_eq_true hvalid) with rfl | rfl
    · exact lt_of_le_of_lt (Nat.add_le_add_left (by decide) base) hbase
    · exact hbase
  have hroom : (partition 63).NoOverflow sectors "a" := Partition.noOverflow_of_le (by decide)
  obtain ⟨hfallback, -⟩ := start_irrelevant.2.1 sectors "a" (partition 2048)
  obtain ⟨hfront, hsame⟩ := (start_irrelevant.2.1 sectors "a" (partition 63)).2 hroom
  obtain ⟨table, htable⟩ : ∃ table, ((partition 63).imageTable "a").result sectors = .ok table := by
    obtain ⟨volume, node, hmount, hlookup, hdata, hcluster, hfile, hlength⟩ :=
      exists_read_smallVolume
    obtain ⟨list, hlist⟩ := Volume.exists_fileRegions (partition 63).offset hmount
      (by rw [hcluster]; decide) hlookup hfile (by rw [hlength]; decide) hdata
      (by rw [hlength]; rfl)
    exact ⟨_, Inquiry.result_bind_eq_ok.2 ⟨list, hlist, rfl⟩⟩
  -- The two machines have neither copy, and their partitions leave room for any volume.
  have hover (start : Except IoError ByteArray) (sector : UInt64)
      (hsector : (Platform.live.partition "sda" record.partitionIndex).result
        (.willing (told start)) = .ok (partition sector))
      (hroom : sector.toNat * 512 + 2 ^ 58 ≤ 2 ^ 64) :
      ∀ found, (Platform.live.partition "sda" record.partitionIndex).result
        (.willing (told start)) = .ok found →
          found.NoOverflow (deviceSectors (told start) found.device) record.imagePath := by
    intro found hfound
    obtain rfl := Except.ok.inj (hsector.symm.trans hfound)
    exact Partition.noOverflow_of_le hroom
  have htold : Platform.live.Derives "sda" record (told (.ok ⟨#[54, 51]⟩)) :=
    ⟨by decide +kernel, by decide +kernel, hover _ 63 (by decide +kernel) (by decide)⟩
  have hsilent : Platform.live.Derives "sda" record (told (.error .notFound)) :=
    ⟨by decide +kernel, by decide +kernel, hover _ 2048 (by decide +kernel) (by decide)⟩
  have hsectors (start : Except IoError ByteArray) (device : String) :
      deviceSectors (told start) device = sectors :=
    deviceSectors_eq_chainSectors fun _ _ => rfl
  refine ⟨?_, ⟨table, htable, ?_⟩, ?_, ?_⟩
  · exact start_irrelevant.1 chain refuse 4096 (63 * 512) 0 (by decide) (by decide)
      (hplaces _ (by decide)) (hplaces _ (by decide))
  · have hstart : table.partitionStart = 63 := by
      obtain ⟨list, -, hend⟩ := Inquiry.result_bind_eq_ok.1 htable
      obtain rfl := Except.ok.inj hend
      rfl
    have hregions := hfront table htable
    rwa [hstart] at hregions
  · exact hsame (partition 2048) rfl (hfallback rfl)
  · exact start_irrelevant.2.2 Platform.live "sda" record _ _ htold hsilent
      ⟨rfl, (hsectors _ _).trans (hsectors _ _).symm⟩

end BootExtents
