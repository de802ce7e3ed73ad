import BootExtents.Platform.Firmware
import BootExtents.Proofs.Location.Snapshot
import BootExtents.Proofs.Record.Scan
import Mathlib

/-!
# The record of a machine

A machine may keep its record in four channels, each of which frames it in its own way: behind the
header of a firmware table, behind the attributes of an EFI variable, somewhere in a window of low
memory, or somewhere in the table of a network disk. A channel that is missing, that cannot be read
or that holds no genuine record counts for nothing. The first of the others has the record.

## Main definitions

* `BootExtents.RecordSource.record?` — the record that a place gives.
* `BootExtents.RecordChannel` — the channels of a machine.
* `BootExtents.Files.HasBytes`, `Platform.HasLowMemory` — what can be read.
* `BootExtents.Platform.Keeps` — the bytes of a channel are those of a genuine record.

## Main results

* `BootExtents.Record.result_locate` — the first record that any place gives is found.
* `BootExtents.Platform.record?_source_eq_some_iff` — each channel gives the record that it keeps.
* `BootExtents.first_channel_with_record` — the first channel that keeps a record decides.
-/

set_option relaxedAutoImplicit false
set_option autoImplicit false

namespace BootExtents

/-! ### Places in order -/

section Sources

variable {I : Interface}

/-- The record that a place gives. A place that fails gives none. -/
def RecordSource.record? (source : RecordSource I)
    (answer : (question : I.Question) → I.Answer question) : Option Record :=
  match source.find.result (.willing answer) with
  | .ok found => found
  | .error _ => none

/-- A source has a record exactly if its inquiry finds it. -/
lemma RecordSource.record?_eq_some_iff {source : RecordSource I}
    {answer : (question : I.Question) → I.Answer question} {record : Record} :
    source.record? answer = some record ↔
      source.find.result (.willing answer) = .ok (some record) := by
  rw [record?]
  cases source.find.result (.willing answer) <;> simp

/-- **The first record that any place gives is found**, and without one, there is no record.

**Proof sketch.** Induction on the places. One that fails is worth a warning, and then the search
is that of the others, as it is if the place gives nothing. -/
theorem Record.result_locate (answer : (question : I.Question) → I.Answer question)
    (sources : List (RecordSource I)) :
    (Record.locate sources).result (.willing answer) =
      match sources.findSome? (·.record? answer) with
      | some record => .ok record
      | none => .error .recordNotFound := by
  induction sources with
  | nil => rfl
  | cons source others ih =>
    rw [Record.locate, Inquiry.bind_eq, Inquiry.result_attempt_bind,
      List.findSome?_cons, RecordSource.record?]
    rcases source.find.result (.willing answer) with error | _ | record
    · exact ih
    · exact ih
    · rfl

variable {answer : (question : I.Question) → I.Answer question} {sources : List (RecordSource I)}

/-- The record that is located is that of the first source which has one. -/
lemma Record.result_locate_eq_ok_iff {record : Record} :
    (Record.locate sources).result (.willing answer) = .ok record ↔
      sources.findSome? (·.record? answer) = some record := by
  rw [result_locate]
  cases sources.findSome? (·.record? answer) <;> simp

/-- No record is located exactly if no source has one. -/
lemma Record.result_locate_eq_error_iff {error : Error} :
    (Record.locate sources).result (.willing answer) = .error error ↔
      error = .recordNotFound ∧ sources.findSome? (·.record? answer) = none := by
  rw [result_locate]
  cases sources.findSome? (·.record? answer) <;> simp [eq_comm]

end Sources

/-! ### Channels -/

/-- Where a machine may keep its record. -/
inductive RecordChannel where
  /-- Behind the header of the boot stage's own firmware table. -/
  | bootTable
  /-- In the EFI variable. -/
  | efiVariable
  /-- In low memory. -/
  | lowMemory
  /-- In the boot table of a network disk. -/
  | networkTable
deriving DecidableEq, Repr

namespace RecordChannel

/-- The channels, the one that counts most at first. -/
def inOrder : List RecordChannel :=
  [bootTable, efiVariable, lowMemory, networkTable]

/-- Every channel has its place in the order. -/
lemma mem_inOrder (channel : RecordChannel) : channel ∈ inOrder := by
  cases channel <;> decide

/-- How a channel is read. -/
def source (platform : Platform) : RecordChannel → RecordSource Files
  | bootTable => platform.tableSource
  | efiVariable => platform.efiSource
  | lowMemory => lowMemorySource platform.memory
  | networkTable => platform.networkTableSource

end RecordChannel

/-- Whether there is something at a path. -/
def Files.isPresent (answer : (question : Files.Question) → Files.Answer question)
    (path : String) : Bool :=
  answer (FileQuestion.isThere path)

/-- A file can be read, and these are its bytes. -/
def Files.HasBytes (answer : (question : Files.Question) → Files.Answer question) (path : String)
    (bytes : List UInt8) : Prop :=
  (Files.read path).result (.willing answer) = .ok ⟨bytes.toArray⟩

/-- Whether there is something at a path is told at once. -/
lemma Files.result_isThere_bind {α : Type}
    (answer : (question : Files.Question) → Files.Answer question) (path : String)
    (next : Bool → Inquiry Files Error α) :
    ((Files.isThere path).bind next).result (.willing answer) =
      (next (Files.isPresent answer path)).result (.willing answer) := rfl

namespace Platform

variable {platform : Platform} {answer : (question : Files.Question) → Files.Answer question}
  {record : Record} {bytes : List UInt8}

/-- The memory device can be read from `0x80000` up to `0xA0000`, and these are the bytes there. An
ordinary file in its place has to reach that far. -/
structure HasLowMemory (platform : Platform)
    (answer : (question : Files.Question) → Files.Answer question) (window : List UInt8) :
    Prop where
  reaches : ∃ size?, (Files.ordinarySize platform.memoryDevice).result (.willing answer) =
    .ok size? ∧ ∀ size ∈ size?, 0xA0000 ≤ size
  window : (Files.slice platform.memoryDevice 0x80000 0x20000).result (.willing answer) =
    .ok ⟨window.toArray⟩

/-- A channel keeps a record: its bytes, from where the channel has it, are those of a genuine
record. Where the place is open, it is the first one that holds such bytes. -/
def Keeps (platform : Platform) (answer : (question : Files.Question) → Files.Answer question) :
    RecordChannel → Record → Prop
  | .bootTable, record =>
    ∃ table, Files.HasBytes answer (platform.acpiTable "VTOY") table ∧ record.LiesAt table 36
  | .efiVariable, record =>
    (Files.isPresent answer platform.efivarsFile = true ∧
      ∃ content, Files.HasBytes answer platform.efivarsFile content ∧ record.LiesAt content 4) ∨
    (Files.isPresent answer platform.efivarsFile = false ∧
      Files.isPresent answer platform.varsFile = true ∧
      ∃ content, Files.HasBytes answer platform.varsFile content ∧ record.LiesAt content 0)
  | .lowMemory, record =>
    ∃ window offset, platform.HasLowMemory answer window ∧ record.IsFirstAt window 16 offset
  | .networkTable, record =>
    ∃ table offset, Files.HasBytes answer (platform.acpiTable "iBFT") table ∧
      1 ≤ table.length ∧ table.length ≤ 1023 ∧ record.IsFirstAt table 1 offset

/-- Whatever a channel keeps is genuine. -/
theorem Keeps.isValid {channel : RecordChannel} (h : platform.Keeps answer channel record) :
    record.isValid = true := by
  cases channel with
  | bootTable =>
    obtain ⟨table, -, hlies⟩ := h
    exact hlies.isValid
  | efiVariable =>
    obtain ⟨-, content, -, hlies⟩ | ⟨-, -, content, -, hlies⟩ := h
    · exact hlies.isValid
    · exact hlies.isValid
  | lowMemory =>
    obtain ⟨window, offset, -, hfirst⟩ := h
    exact hfirst.lies.isValid
  | networkTable =>
    obtain ⟨table, offset, -, -, -, hfirst⟩ := h
    exact hfirst.lies.isValid

/-! ### What each channel gives -/

/-- An end with a value is that value. -/
lemma result_done_eq_ok_iff {α : Type} {value value' : α} :
    (Inquiry.done value : Inquiry Files Error α).result (.willing answer) = .ok value' ↔
      value = value' :=
  ⟨fun h => Except.ok.inj h, fun h => congrArg _ h⟩

/-- A file that is read gives its bytes. -/
lemma result_read_bind_eq_ok {α : Type} {path : String}
    {next : ByteArray → Inquiry Files Error α} {value : α} :
    ((Files.read path).bind next).result (.willing answer) = .ok value ↔
      ∃ bytes, Files.HasBytes answer path bytes ∧
        (next ⟨bytes.toArray⟩).result (.willing answer) = .ok value := by
  rw [Inquiry.result_bind_eq_ok]
  constructor
  · rintro ⟨⟨bytes⟩, hread, hnext⟩
    exact ⟨bytes.toList, hread, hnext⟩
  · rintro ⟨bytes, hread, hnext⟩
    exact ⟨⟨bytes.toArray⟩, hread, hnext⟩

/-- A table is there if its file can be read. -/
lemma result_table?_eq_some_iff {signature : String} :
    (platform.table? signature).result (.willing answer) = .ok (some bytes) ↔
      Files.HasBytes answer (platform.acpiTable signature) bytes := by
  have hread : (Files.read (platform.acpiTable signature)).result (.willing answer) =
      (Files.ofAnswer (answer (FileQuestion.read (platform.acpiTable signature)))).result
        (.willing answer) := rfl
  rw [result_table?, readTable, Files.HasBytes, hread]
  generalize (answer (FileQuestion.read (platform.acpiTable signature)) :
    Except IoError ByteArray) = content
  rcases content with error | ⟨content⟩
  · dsimp only [Except.map, Files.ofAnswer, Inquiry.result]
    split_ifs <;> simp
  · constructor
    · intro h
      obtain rfl := Option.some.inj (Except.ok.inj h)
      rfl
    · intro h
      rw [show content = ⟨bytes.toArray⟩ from Except.ok.inj h]
      rfl

/-- A table that a channel goes on with. -/
lemma result_table?_bind_eq_some {signature : String}
    {next : Option (List UInt8) → Inquiry Files Error (Option Record)}
    (hnone : (next none).result (.willing answer) = .ok none) :
    ((platform.table? signature).bind next).result (.willing answer) = .ok (some record) ↔
      ∃ table, Files.HasBytes answer (platform.acpiTable signature) table ∧
        (next (some table)).result (.willing answer) = .ok (some record) := by
  simp only [Inquiry.result_bind_eq_ok, ← result_table?_eq_some_iff]
  constructor
  · rintro ⟨_ | table, htable, hnext⟩
    · rw [hnone] at hnext
      cases hnext
    · exact ⟨table, htable, hnext⟩
  · rintro ⟨table, htable, hnext⟩
    exact ⟨some table, htable, hnext⟩

/-- **The channel of the firmware table** gives what lies behind the header. -/
lemma record?_tableSource_eq_some_iff :
    platform.tableSource.record? answer = some record ↔
      platform.Keeps answer .bootTable record := by
  rw [RecordSource.record?_eq_some_iff, tableSource, Keeps]
  refine (result_table?_bind_eq_some rfl).trans (exists_congr fun table => and_congr_right' ?_)
  exact result_done_eq_ok_iff.trans Record.parse?_drop_eq_some_iff

/-- **The channel of the EFI variable** gives what lies behind the attributes, and the older
interface counts only where the present one has no variable. -/
lemma record?_efiSource_eq_some_iff :
    platform.efiSource.record? answer = some record ↔
      platform.Keeps answer .efiVariable record := by
  have hread (path : String) (skipped : Nat) :
      ((Files.read path).bind fun content => Inquiry.done
          (Record.parse? (content.data.toList.drop skipped))).result (.willing answer) =
        .ok (some record) ↔
      ∃ content, Files.HasBytes answer path content ∧ record.LiesAt content skipped :=
    result_read_bind_eq_ok.trans <| exists_congr fun content => and_congr_right' <|
      result_done_eq_ok_iff.trans Record.parse?_drop_eq_some_iff
  rw [RecordSource.record?_eq_some_iff, efiSource, Keeps]
  dsimp only
  rw [Inquiry.bind_eq, Files.result_isThere_bind]
  cases Files.isPresent answer platform.efivarsFile with
  | true => exact (hread platform.efivarsFile 4).trans (by simp)
  | false =>
    rw [if_neg Bool.false_ne_true, Inquiry.bind_eq, Files.result_isThere_bind]
    cases Files.isPresent answer platform.varsFile with
    | true => exact (hread platform.varsFile 0).trans (by simp)
    | false => simp [Inquiry.result]

/-- Low memory is read as far as it reaches. -/
lemma result_memory_eq_ok_iff {window : List UInt8} :
    (platform.memory.read lowMemoryStart lowMemorySize).result (.willing answer) = .ok window ↔
      platform.HasLowMemory answer window := by
  have hreaches (size? : Option Nat) :
      (size?.any (· < (lowMemoryStart + lowMemorySize.toUInt64).toNat)) = false ↔
        ∀ size ∈ size?, 0xA0000 ≤ size := by
    have hend : (lowMemoryStart + lowMemorySize.toUInt64).toNat = 0xA0000 := by decide
    rw [hend]
    cases size? with
    | none => simp
    | some size => simp
  rw [memory]
  dsimp only
  rw [Inquiry.bind_eq, Inquiry.result_bind_eq_ok]
  constructor
  · rintro ⟨size?, hsize, hwindow⟩
    split_ifs at hwindow with hshort
    · cases hwindow
    · rw [Inquiry.bind_eq, Inquiry.result_bind_eq_ok] at hwindow
      obtain ⟨⟨content⟩, hslice, hcontent⟩ := hwindow
      obtain rfl := Except.ok.inj hcontent
      exact ⟨⟨size?, hsize, (hreaches size?).1 (Bool.not_eq_true _ ▸ hshort)⟩, hslice⟩
  · rintro ⟨⟨size?, hsize, hlong⟩, hslice⟩
    refine ⟨size?, hsize, ?_⟩
    rw [(hreaches size?).2 hlong, if_neg Bool.false_ne_true, Inquiry.bind_eq,
      Inquiry.result_bind_eq_ok]
    exact ⟨_, hslice, rfl⟩

/-- **The channel of low memory** gives the first record at a multiple of 16 bytes. -/
lemma record?_lowMemorySource_eq_some_iff :
    (lowMemorySource platform.memory).record? answer = some record ↔
      platform.Keeps answer .lowMemory record := by
  rw [RecordSource.record?_eq_some_iff, lowMemorySource, Keeps]
  dsimp only
  rw [Inquiry.bind_eq, Inquiry.result_bind_eq_ok]
  refine exists_congr fun window => ?_
  rw [result_memory_eq_ok_iff, exists_and_left]
  refine and_congr_right' (result_done_eq_ok_iff.trans ?_)
  exact Record.map_scan_eq_some_iff window lowMemoryStride record

/-- **The channel of the network disk's table** gives the first record in a table of at most 1023
bytes. -/
lemma record?_networkTableSource_eq_some_iff :
    platform.networkTableSource.record? answer = some record ↔
      platform.Keeps answer .networkTable record := by
  rw [RecordSource.record?_eq_some_iff, networkTableSource, Keeps]
  refine (result_table?_bind_eq_some rfl).trans (exists_congr fun table => ?_)
  simp only [exists_and_left]
  refine and_congr_right' ?_
  split_ifs with hlimit
  · have hlong : ¬table.length ≤ 1023 := Nat.not_le.2 hlimit
    simp [Inquiry.result, hlong]
  · have hshort : table.length ≤ 1023 := Nat.lt_succ_iff.1 (Nat.not_le.1 hlimit)
    refine (result_done_eq_ok_iff.trans (Record.map_scan_eq_some_iff table 1 record)).trans ?_
    constructor
    · rintro ⟨offset, hfirst⟩
      have hlength := hfirst.lies.le_length
      exact ⟨by omega, hshort, offset, hfirst⟩
    · rintro ⟨-, -, hfirst⟩
      exact hfirst

/-- **Each channel gives the record that it keeps**, and no other. -/
theorem record?_source_eq_some_iff (channel : RecordChannel) :
    (channel.source platform).record? answer = some record ↔
      platform.Keeps answer channel record := by
  cases channel with
  | bootTable => exact record?_tableSource_eq_some_iff
  | efiVariable => exact record?_efiSource_eq_some_iff
  | lowMemory => exact record?_lowMemorySource_eq_some_iff
  | networkTable => exact record?_networkTableSource_eq_some_iff

/-- The source of a channel has no record exactly if the channel keeps none. -/
lemma record?_source_eq_none_iff (channel : RecordChannel) :
    (channel.source platform).record? answer = none ↔
      ∀ record, ¬platform.Keeps answer channel record := by
  simp only [← record?_source_eq_some_iff, Option.eq_none_iff_forall_ne_some]

end Platform

/-! ### All channels -/

/-- **The first channel that keeps a record decides.** The record of a machine is found if and only
if a channel keeps it and no channel before that one keeps any. The search fails if and only if no
channel keeps a record, and always for the same reason. So every record that is found is genuine.

**Proof sketch.** Each channel gives what it keeps, and the search takes what is given first. -/
theorem first_channel_with_record (platform : Platform)
    (answer : (question : Files.Question) → Files.Answer question) :
    (∀ record, (Record.locate platform.recordSources).result (.willing answer) = .ok record ↔
      ∃ front channel back, RecordChannel.inOrder = front ++ channel :: back ∧
        platform.Keeps answer channel record ∧
        ∀ earlier ∈ front, ∀ other, ¬platform.Keeps answer earlier other) ∧
    (∀ error, (Record.locate platform.recordSources).result (.willing answer) = .error error ↔
      error = .recordNotFound ∧ ∀ channel record, ¬platform.Keeps answer channel record) ∧
    ∀ record, (Record.locate platform.recordSources).result (.willing answer) = .ok record →
      record.isValid = true := by
  have hsources : platform.recordSources =
      RecordChannel.inOrder.map (·.source platform) := rfl
  have hfound (record : Record) :
      (Record.locate platform.recordSources).result (.willing answer) = .ok record ↔
        ∃ front channel back, RecordChannel.inOrder = front ++ channel :: back ∧
          platform.Keeps answer channel record ∧
          ∀ earlier ∈ front, ∀ other, ¬platform.Keeps answer earlier other := by
    rw [Record.result_locate_eq_ok_iff, hsources, List.findSome?_map, List.findSome?_eq_some_iff]
    simp only [Function.comp_apply, Platform.record?_source_eq_some_iff,
      Platform.record?_source_eq_none_iff]
  refine ⟨hfound, fun error => ?_, fun record hrecord => ?_⟩
  · rw [Record.result_locate_eq_error_iff, hsources, List.findSome?_map,
      List.findSome?_eq_none_iff]
    simp only [Function.comp_apply, Platform.record?_source_eq_none_iff,
      RecordChannel.mem_inOrder, forall_const]
  · obtain ⟨-, channel, -, -, hkeeps, -⟩ := (hfound record).1 hrecord
    exact hkeeps.isValid

/-- A machine without an EFI variable whose memory cannot be read, and each of whose tables has 513
bytes, the first one zero and then a record. In the firmware table there are too few bytes behind
the header. The table of a network disk keeps the record at offset 1. -/
theorem first_channel_with_record_network_disk :
    let record := Record.create (Vector.replicate 16 7) 1024 1 .ntfs "/a" 0
    let told : (question : Files.Question) → Files.Answer question
      | .isThere _ => false
      | .read _ => .ok ⟨(0 :: record.toBytes).toArray⟩
      | .list _ => .error .notFound
      | .ordinarySize _ => .ok none
      | .length _ => .error .notFound
      | .slice _ _ _ => .error .endOfFile
    (Record.locate Platform.live.recordSources).result (.willing told) = .ok record ∧
      record.isValid = true := by
  intro record told
  obtain ⟨hfound, -, hvalid⟩ := first_channel_with_record Platform.live told
  have hlies : record.LiesAt (0 :: record.toBytes) 1 := by
    rw [← Record.parse?_drop_eq_some_iff, List.drop_one, List.tail_cons,
      ← List.append_nil record.toBytes]
    exact Record.parse?_sealed_append rfl []
  have hfirst : record.IsFirstAt (0 :: record.toBytes) 1 1 := by
    refine ⟨one_dvd 1, hlies, fun earlier hlt _ hgenuine => ?_⟩
    obtain rfl : earlier = 0 := by omega
    exact absurd (congrArg List.head? hgenuine.identity) (by decide)
  have hbefore : ∀ earlier ∈ [RecordChannel.bootTable, .efiVariable, .lowMemory],
      ∀ other, ¬Platform.live.Keeps told earlier other := by
    simp only [List.forall_mem_cons, List.not_mem_nil, false_imp_iff, implies_true, and_true]
    refine ⟨?_, ?_, ?_⟩
    · rintro other ⟨table, hread, hlies⟩
      have htable : 0 :: record.toBytes = table :=
        congrArg (·.data.toList) (Except.ok.inj hread)
      have hlength := hlies.le_length
      rw [← htable, List.length_cons, Record.length_toBytes] at hlength
      omega
    · rintro other (⟨hpresent, -⟩ | ⟨-, hpresent, -⟩)
      · cases hpresent
      · cases hpresent
    · rintro other ⟨window, offset, hmemory, -⟩
      cases hmemory.window
  have hlocated : (Record.locate Platform.live.recordSources).result (.willing told) =
      .ok record := by
    refine (hfound record).2 ⟨_, .networkTable, [], rfl, ?_, hbefore⟩
    exact ⟨0 :: record.toBytes, 1, rfl, by simp, by simp, hfirst⟩
  exact ⟨hlocated, hvalid record hlocated⟩

end BootExtents
