import BootExtents.Proofs.Location.Derived
import BootExtents.Proofs.Location.FirstMatch
import BootExtents.Proofs.Record.Codec
import BootExtents.Proofs.Region.Codec
import Mathlib

/-!
# Copies of the regions that the boot stage left

A copy in memory is as long as the record tells, a copy in the firmware table as long as the record
within the table tells, or as long as the table reaches. Either may be longer than the list in it. A
whole list is found, in memory before the table, and a list that the end of the table cuts off is
refused, which leaves the filesystem.

## Main definitions

* `BootExtents.readCopy` — what a copy is read as.
* `BootExtents.MemoryHolds` — memory has a list where a record says.
* `BootExtents.Platform.readTable` — the content of a table.
* `BootExtents.TableHolds`, `TableBreaksOff` — a table has a list, or only the front of it.

## Main results

* `BootExtents.outcome_memorySnapshotSource`, `Platform.outcome_tableSnapshotSource` — both copies
  are read in the same way.
* `BootExtents.MemoryHolds.outcome`, `TableHolds.outcome`, `TableBreaksOff.outcome` — what becomes
  of them.
* `BootExtents.copy_comes_back` — the order of the three.
-/

set_option relaxedAutoImplicit false
set_option autoImplicit false

namespace BootExtents

variable {I : Interface}

/-! ### Reading a copy -/

/-- What a copy is read as. -/
def readCopy (bytes : List UInt8) : Except Error (Option RegionList) :=
  ((RegionList.ofBytes bytes).mapError .corrupted).map some

section ReadCopy

variable {list : RegionList} {bytes front : List UInt8}

/-- A copy is read as the list that its bytes are read as. -/
lemma readCopy_eq_ok_iff :
    readCopy bytes = .ok (some list) ↔ RegionList.ofBytes bytes = .ok list := by
  rw [readCopy]
  cases RegionList.ofBytes bytes <;> simp [Except.mapError, Except.map]

/-- A copy that starts with a list is read as this list. -/
lemma readCopy_of_prefix (h : list.UnitsMatch) (hcount : list.regions.length < 2 ^ 32)
    (hstarts : list.toBytes <+: bytes) : readCopy bytes = .ok (some list) := by
  obtain ⟨rest, rfl⟩ := hstarts
  exact readCopy_eq_ok_iff.2 (RegionList.ofBytes_toBytes_append h hcount rest)

/-- A copy that breaks off within a list is refused. -/
lemma exists_corruption_of_front (h : list.UnitsMatch) (hcount : list.regions.length < 2 ^ 32)
    (hfront : front <+: list.toBytes) (hne : front ≠ list.toBytes) :
    ∃ what, readCopy front = .error (.corrupted what) := by
  rw [readCopy, RegionList.ofBytes_of_prefix h hcount hfront hne]
  exact ⟨_, rfl⟩

/-- Reading a list and offering it is reading a copy. -/
lemma result_read_bind (answer : (question : I.Question) → I.Answer question)
    (bytes : List UInt8) :
    ((RegionList.read bytes).bind fun list => Inquiry.done (some list)).result (.willing answer) =
      readCopy bytes := by
  rw [Inquiry.result_bind, RegionList.result_read, readCopy]
  cases RegionList.ofBytes bytes <;> rfl

end ReadCopy

/-- No list has no bytes. -/
lemma snapshotLength_ne_zero {record : Record} {list : RegionList}
    (hroom : list.toBytes.length ≤ record.snapshotLength.toNat) : record.snapshotLength ≠ 0 := by
  intro hzero
  rw [hzero, RegionList.length_toBytes, RegionList.headerSize] at hroom
  simp at hroom

/-- A failure in spite of a change to values is the failure that there was. -/
lemma eq_error_of_map_eq_error {α β : Type} {change : α → β} {outcome : Except Error α}
    {error : Error} (h : outcome.map change = .error error) : outcome = .error error := by
  cases outcome with
  | ok value => cases h
  | error found => exact congrArg _ (Except.error.inj h)

/-! ### The copy in memory -/

/-- What becomes of the copy in memory: if the record tells of one, it is read. -/
lemma outcome_memorySnapshotSource (memory : PhysicalMemory I)
    (answer : (question : I.Question) → I.Answer question) (record : Record) :
    (memorySnapshotSource memory).outcome answer record =
      if record.hasSnapshot then
        ((memory.read record.snapshotAddress record.snapshotLength.toNat).result
          (.willing answer)).bind readCopy
      else .ok none := by
  rw [LocationSource.outcome, memorySnapshotSource]
  dsimp only
  split_ifs with hsnapshot
  · rw [Inquiry.bind_eq, Inquiry.result_bind]
    cases (memory.read record.snapshotAddress record.snapshotLength.toNat).result
        (.willing answer) with
    | ok bytes => exact result_read_bind answer bytes
    | error error => rfl
  · rfl

/-- Memory has a list where a record says, and can be read as far as the record says. -/
structure MemoryHolds (memory : PhysicalMemory I)
    (answer : (question : I.Question) → I.Answer question) (record : Record)
    (list : RegionList) : Prop where
  address_ne : record.snapshotAddress ≠ 0
  room : list.toBytes.length ≤ record.snapshotLength.toNat
  starts : ∃ bytes, (memory.read record.snapshotAddress record.snapshotLength.toNat).result
    (.willing answer) = .ok bytes ∧ list.toBytes <+: bytes

/-- **A list in memory is found.** -/
theorem MemoryHolds.outcome {memory : PhysicalMemory I}
    {answer : (question : I.Question) → I.Answer question} {record : Record} {list : RegionList}
    (h : MemoryHolds memory answer record list) (hunits : list.UnitsMatch)
    (hcount : list.regions.length < 2 ^ 32) :
    (memorySnapshotSource memory).outcome answer record = .ok (some list) := by
  have hlength := snapshotLength_ne_zero h.room
  obtain ⟨bytes, hread, hstarts⟩ := h.starts
  rw [outcome_memorySnapshotSource, if_pos (by simp [Record.hasSnapshot, h.address_ne, hlength]),
    hread]
  exact readCopy_of_prefix hunits hcount hstarts

/-! ### The copy in the firmware table -/

/-- A table has a list behind its record, and the record says that it is at least as long. -/
structure TableHolds (table : List UInt8) (stored : Record) (list : RegionList) : Prop where
  record : Record.parse? (table.drop 36) = some stored
  room : list.toBytes.length ≤ stored.snapshotLength.toNat
  starts : list.toBytes <+: table.drop 548

/-- A table ends within a list behind its record. -/
structure TableBreaksOff (table : List UInt8) (stored : Record) (list : RegionList) : Prop where
  record : Record.parse? (table.drop 36) = some stored
  length_ne : stored.snapshotLength ≠ 0
  front : table.drop 548 <+: list.toBytes
  short : table.drop 548 ≠ list.toBytes

namespace Platform

variable {platform : Platform} {answer : (question : Files.Question) → Files.Answer question}
  {table : List UInt8} {stored record : Record} {list : RegionList}

/-- The content of a table, if it can be read. -/
def readTable (platform : Platform)
    (answer : (question : Files.Question) → Files.Answer question) (signature : String) :
    Except IoError (List UInt8) :=
  let content : Except IoError ByteArray :=
    answer (FileQuestion.read (platform.acpiTable signature))
  content.map (·.data.toList)

/-- A table that is not there is no failure. -/
lemma result_table? (platform : Platform)
    (answer : (question : Files.Question) → Files.Answer question) (signature : String) :
    (platform.table? signature).result (.willing answer) =
      match platform.readTable answer signature with
      | .ok table => .ok (some table)
      | .error error => if error.kind = .notFound then .ok none else .error (.io error) := by
  rw [table?]
  refine (Inquiry.result_query_bind answer _ _).trans ?_
  rw [readTable]
  generalize (answer (FileQuestion.read (platform.acpiTable signature)) :
    Except IoError ByteArray) = content
  cases content with
  | ok content => rfl
  | error error =>
    dsimp only [Except.map]
    split_ifs <;> rfl

/-- What becomes of the copy in the firmware table: if there is one, it is read. -/
lemma outcome_tableSnapshotSource (platform : Platform)
    (answer : (question : Files.Question) → Files.Answer question) (record : Record) :
    platform.tableSnapshotSource.outcome answer record =
      (platform.tableSnapshot.result (.willing answer)).bind fun
        | none => .ok none
        | some bytes => readCopy bytes := by
  rw [LocationSource.outcome, tableSnapshotSource, Inquiry.bind_eq, Inquiry.result_bind]
  rcases platform.tableSnapshot.result (.willing answer) with error | _ | bytes
  · rfl
  · rfl
  · exact result_read_bind answer bytes

/-- The copy in a table is what follows the record in it, up to the length that the record says. -/
lemma result_tableSnapshot (htable : platform.readTable answer bootTableSignature = .ok table)
    (hrecord : Record.parse? (table.drop 36) = some stored) (hlength : stored.snapshotLength ≠ 0) :
    platform.tableSnapshot.result (.willing answer) =
      .ok (some ((table.drop 548).take stored.snapshotLength.toNat)) := by
  have hlength' : stored.snapshotLength.toNat ≠ 0 := by
    rwa [← UInt32.toNat_zero, ne_eq, UInt32.toNat_inj]
  rw [tableSnapshot, Inquiry.bind_eq, Inquiry.result_bind, result_table?, htable]
  dsimp only
  rw [show tableRecord? table = some stored from hrecord]
  dsimp only
  rw [if_neg hlength']
  split_ifs with hfits
  · rfl
  · have hall : (table.drop 548).length ≤ stored.snapshotLength.toNat := by
      rw [List.length_drop]
      simp only [tableHeaderSize, Record.byteCount] at hfits
      omega
    rw [List.take_of_length_le hall]
    rfl

end Platform

section Table

variable {platform : Platform} {answer : (question : Files.Question) → Files.Answer question}
  {table : List UInt8} {stored : Record} {list : RegionList}

/-- **A list in the table is found**, whatever the record at hand. -/
theorem TableHolds.outcome (h : TableHolds table stored list)
    (htable : platform.readTable answer bootTableSignature = .ok table) (hunits : list.UnitsMatch)
    (hcount : list.regions.length < 2 ^ 32) (record : Record) :
    platform.tableSnapshotSource.outcome answer record = .ok (some list) := by
  have hlength := snapshotLength_ne_zero h.room
  rw [Platform.outcome_tableSnapshotSource, Platform.result_tableSnapshot htable h.record hlength]
  exact readCopy_of_prefix hunits hcount (List.prefix_take_iff.2 ⟨h.starts, h.room⟩)

/-- **A list that the end of the table cuts off is refused.**

**Proof sketch.** The copy is what the table has of the list, or less if the record says so. Either
is a part of the list that ends before the list does. -/
theorem TableBreaksOff.outcome (h : TableBreaksOff table stored list)
    (htable : platform.readTable answer bootTableSignature = .ok table) (hunits : list.UnitsMatch)
    (hcount : list.regions.length < 2 ^ 32) (record : Record) :
    ∃ what, platform.tableSnapshotSource.outcome answer record = .error (.corrupted what) := by
  have hcopy : (table.drop 548).take stored.snapshotLength.toNat <+: table.drop 548 :=
    List.take_prefix _ _
  have hne : (table.drop 548).take stored.snapshotLength.toNat ≠ list.toBytes := by
    intro heq
    rw [heq] at hcopy
    exact h.short (h.front.eq_of_length_le hcopy.length_le)
  rw [Platform.outcome_tableSnapshotSource,
    Platform.result_tableSnapshot htable h.record h.length_ne]
  exact exists_corruption_of_front hunits hcount (hcopy.trans h.front) hne

end Table

/-! ### The order of the copies -/

section Order

variable {platform : Platform} {disk : String} {record : Record}
  {answer : (question : Files.Question) → Files.Answer question} {list : RegionList}

/-- Where no other way is left, the search ends as the filesystem has it. -/
lemma Platform.result_locateImageFrom_volumeSource (last : Option Error) :
    ((locateImageFrom record last [platform.volumeSource disk]).result (.willing answer)).map some =
      (platform.volumeSource disk).outcome answer record := by
  rw [result_locateImageFrom_cons]
  cases houtcome : (platform.volumeSource disk).outcome answer record with
  | error error =>
    rw [LocationSource.offer?_of_error houtcome, LocationSource.failure?_of_error houtcome]
    rfl
  | ok found? =>
    cases found? with
    | none => exact absurd houtcome Platform.outcome_volumeSource_ne_none
    | some found =>
      obtain ⟨-, -, ⟨regions, rfl⟩, -⟩ := Platform.exists_image_of_volumeSource houtcome
      rw [LocationSource.offer?_eq_some_iff.2 ⟨houtcome, RegionList.isGenuine_ofRegions regions⟩]
      rfl

/-- **A copy comes back as it was left.** A list in memory, where the record says, is found whatever
the table and the filesystem hold. If memory gives no list of the boot stage, a list in the table is
found whatever the filesystem holds. A list that the end of the table cuts off is a failure of the
table, and unless memory gives a list, the search ends as the filesystem has it. -/
theorem copy_comes_back (platform : Platform) (disk : String) (record : Record)
    (answer : (question : Files.Question) → Files.Answer question) (regions : List Region)
    (hsize : (RegionList.ofRegions regions).toBytes.length < 2 ^ 32) :
    (MemoryHolds platform.memory answer record (.ofRegions regions) →
      (locateImage (platform.locationSources disk) record).result (.willing answer) =
        .ok (.ofRegions regions)) ∧
    ∀ table stored, platform.readTable answer bootTableSignature = .ok table →
      (TableHolds table stored (.ofRegions regions) →
        (memorySnapshotSource platform.memory).offer? answer record = none →
        (locateImage (platform.locationSources disk) record).result (.willing answer) =
          .ok (.ofRegions regions)) ∧
      (TableBreaksOff table stored (.ofRegions regions) →
        (∃ what, platform.tableSnapshotSource.outcome answer record = .error (.corrupted what)) ∧
        ((memorySnapshotSource platform.memory).offer? answer record = none →
          ((locateImage (platform.locationSources disk) record).result (.willing answer)).map some =
            (platform.volumeSource disk).outcome answer record)) := by
  have hunits : (RegionList.ofRegions regions).UnitsMatch :=
    RegionList.IsBuilt.unitsMatch (.inl ⟨regions, rfl⟩)
  have hgenuine := RegionList.isGenuine_ofRegions regions
  have hcount : regions.length < 2 ^ 32 := by
    rw [RegionList.length_toBytes, RegionList.regionSize] at hsize
    have hregions : (RegionList.ofRegions regions).regions = regions := rfl
    rw [hregions] at hsize
    omega
  refine ⟨fun hmemory => ?_, fun table stored htable => ⟨fun hholds hnone => ?_, fun hbreaks => ?_⟩⟩
  · have hoffer := LocationSource.offer?_eq_some_iff.2
      ⟨hmemory.outcome hunits hcount, hgenuine⟩
    exact result_locateImage_of_offer [] _ (by simp) hoffer
  · have hoffer := LocationSource.offer?_eq_some_iff.2
      ⟨hholds.outcome htable hunits hcount record, hgenuine⟩
    exact result_locateImage_of_offer [memorySnapshotSource platform.memory] _ (by simpa) hoffer
  · obtain ⟨what, hfailed⟩ := hbreaks.outcome htable hunits hcount record
    refine ⟨⟨what, hfailed⟩, fun hnone => ?_⟩
    rw [locateImage, Platform.locationSources, result_locateImageFrom_cons, hnone]
    dsimp only
    rw [result_locateImageFrom_cons, LocationSource.offer?_of_error hfailed]
    exact Platform.result_locateImageFrom_volumeSource _

/-- A list of 44 bytes where a record tells of 60, with a copy in memory, with one in the table, and
with one that the table cuts off. The last one leaves a filesystem that is not supported. -/
theorem copy_comes_back_three_machines :
    let list := RegionList.ofRegions [⟨0, 1, 8⟩]
    let record := (Record.create (Vector.replicate 16 7) 1024 1 .ntfs "/a" 0).withSnapshot 4096 60
    let told (memory : Except IoError ByteArray) (table : List UInt8) :
        (question : Files.Question) → Files.Answer question
      | .isThere _ => true
      | .read _ => .ok ⟨table.toArray⟩
      | .list _ => .error .notFound
      | .ordinarySize _ => .ok none
      | .length _ => .error .notFound
      | .slice _ _ _ => memory
    let table (copy : List UInt8) := List.replicate 36 0 ++ (record.toBytes ++ copy)
    let located (answer : (question : Files.Question) → Files.Answer question) :=
      (locateImage (Platform.live.locationSources "sda") record).result (.willing answer)
    located (told (.ok ⟨(list.toBytes ++ List.replicate 16 0).toArray⟩) []) = .ok list ∧
      located (told (.error .endOfFile) (table list.toBytes)) = .ok list ∧
      located (told (.error .endOfFile) (table (list.toBytes.take 43))) =
        .error (.unsupportedFilesystem .ntfs) := by
  intro list record told table located
  have hlength : list.toBytes.length = 44 := by decide
  have hcopy (copy : List UInt8) : (table copy).drop 548 = copy := by
    show (List.replicate 36 0 ++ (record.toBytes ++ copy)).drop 548 = copy
    rw [← List.append_assoc]
    exact List.drop_left' (by simp)
  have hrecord (copy : List UInt8) : Record.parse? ((table copy).drop 36) = some record := by
    rw [List.drop_left' (by simp)]
    exact Record.parse?_sealed_append rfl copy
  have hread (copy : List UInt8) : Platform.live.readTable
      (told (.error .endOfFile) (table copy)) bootTableSignature = .ok (table copy) := rfl
  have hnone (copy : List UInt8) : (memorySnapshotSource Platform.live.memory).offer?
      (told (.error .endOfFile) (table copy)) record = none :=
    LocationSource.offer?_of_error (show _ = Except.error (.io .endOfFile) from rfl)
  have hback (answer : (question : Files.Question) → Files.Answer question) :=
    copy_comes_back Platform.live "sda" record answer [⟨0, 1, 8⟩] (by rw [hlength]; decide)
  refine ⟨(hback _).1 ⟨by decide, by rw [hlength]; decide, _, rfl, List.prefix_append _ _⟩, ?_, ?_⟩
  · refine (((hback _).2 _ record (hread _)).1 ⟨hrecord _, by rw [hlength]; decide, ?_⟩ (hnone _))
    rw [hcopy]
  · have hfront : (table (list.toBytes.take 43)).drop 548 <+: list.toBytes := by
      rw [hcopy]
      exact List.take_prefix _ _
    have hshort : (table (list.toBytes.take 43)).drop 548 ≠ list.toBytes := by
      rw [hcopy]
      exact fun heq => absurd (congrArg List.length heq) (by decide)
    obtain ⟨-, hleft⟩ := ((hback _).2 _ record (hread (list.toBytes.take 43))).2
      ⟨hrecord _, by decide, hfront, hshort⟩
    exact eq_error_of_map_eq_error (hleft (hnone _))

end Order

end BootExtents
