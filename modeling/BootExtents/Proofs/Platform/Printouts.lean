import BootExtents.Dump
import BootExtents.Proofs.Record.Channels
import Mathlib

/-!
# What is printed in each mode

Whatever is to be printed, a machine's record and its disk come first, and nothing is printed if one
of the two is not found. From then on the modes share their parts: the parameters, which cannot fail,
and the table, which may, and whose heading is not printed without it.

## Main definitions

* `BootExtents.Platform.located`, `chosen`, `tabled` — the record of a machine, the disk that it
  means, and the table of the image there.

## Main results

* `BootExtents.Platform.result_dump_of_error`, `result_dump_of_ok` — what comes before the printing.
* `BootExtents.Platform.result_dump_table_of_error`, `result_dump_table_of_ok` — the table.
* `BootExtents.Platform.modes_agree` — the printouts of one machine in all modes.
-/

set_option relaxedAutoImplicit false
set_option autoImplicit false

namespace BootExtents.Platform

variable {ε : Type} {platform : Platform} {mode : DumpMode} {file : Option String}
  {record : Record} {disk : String} {error : Error} {table : LinearTable}
  {answer : (question : Files.Question) → Files.Answer question}

/-! ### The parts -/

section Parts

variable (platform : Platform) (answer : (question : Files.Question) → Files.Answer question)

/-- The record of a machine, or the one in a file. -/
def located (file : Option String) : Except Error Record :=
  (platform.locateRecord file).result (.willing answer)

/-- The name of the disk that a record means. -/
def chosen (record : Record) : Except Error String :=
  (Disk.resolve record platform.devices).result (.willing answer)

/-- The table of the image that a record means, on a disk. -/
def tabled (record : Record) (disk : String) : Except Error LinearTable :=
  (platform.imageTable record disk).result (.willing answer)

end Parts

/-! ### What comes before the printing -/

/-- Without a record, nothing is printed in any mode. -/
lemma result_dump_of_error (mode : DumpMode) (h : platform.located answer file = .error error) :
    (platform.dump mode file : Inquiry Files ε Printout).result (.willing answer) =
      .ok ⟨"", some error⟩ := by
  rw [dump, Inquiry.bind_eq, Inquiry.result_attempt_bind, ← located, h]
  rfl

/-- A check ends with the record. -/
lemma result_dump_check_of_ok (h : platform.located answer file = .ok record) :
    (platform.dump .check file : Inquiry Files ε Printout).result (.willing answer) =
      .ok ⟨"", none⟩ := by
  rw [dump, Inquiry.bind_eq, Inquiry.result_attempt_bind, ← located, h]
  rfl

/-- In any other mode, the disk decides whether there is something to print. -/
lemma result_dump_of_ok (hmode : mode ≠ .check) (h : platform.located answer file = .ok record) :
    (platform.dump mode file : Inquiry Files ε Printout).result (.willing answer) =
      match platform.chosen answer record with
      | .error error => .ok ⟨"", some error⟩
      | .ok disk => (platform.dumpRecord mode record disk).result (.willing answer) := by
  rw [dump, Inquiry.bind_eq, Inquiry.result_attempt_bind, ← located, h]
  dsimp only
  rw [if_neg hmode, Inquiry.bind_eq, Inquiry.result_attempt_bind, ← chosen]
  cases platform.chosen answer record <;> rfl

/-! ### The printing -/

/-- The parameters of a record on a disk can always be printed. -/
lemma result_dumpRecord_parameters :
    (platform.dumpRecord .parameters record disk : Inquiry Files ε Printout).result
      (.willing answer) = .ok ⟨record.report disk, none⟩ := rfl

/-- Without a table, no heading is printed. -/
lemma result_dumpRecord_of_error (hmode : mode ≠ .parameters)
    (h : platform.tabled answer record disk = .error error) :
    (platform.dumpRecord mode record disk : Inquiry Files ε Printout).result (.willing answer) =
      .ok ⟨if mode = .locationOnly then "" else record.report disk, some error⟩ := by
  rw [dumpRecord]
  dsimp only
  rw [if_neg hmode, Inquiry.bind_eq, Inquiry.result_attempt_bind, ← tabled, h]
  rfl

/-- A table is printed as it is, behind what the mode puts in front of it. -/
lemma result_dumpRecord_of_ok (hmode : mode ≠ .parameters)
    (h : platform.tabled answer record disk = .ok table) :
    (platform.dumpRecord mode record disk : Inquiry Files ε Printout).result (.willing answer) =
      .ok ⟨(if mode = .locationOnly then "" else record.report disk) ++
        (if mode = .location then tableHeading else "") ++ table.text, none⟩ := by
  rw [dumpRecord]
  dsimp only
  rw [if_neg hmode, Inquiry.bind_eq, Inquiry.result_attempt_bind, ← tabled, h]
  rfl

/-- A machine's record and disk are what is printed about. -/
lemma result_dump_of_chosen (hmode : mode ≠ .check)
    (hrecord : platform.located answer file = .ok record)
    (hdisk : platform.chosen answer record = .ok disk) :
    (platform.dump mode file : Inquiry Files ε Printout).result (.willing answer) =
      (platform.dumpRecord mode record disk : Inquiry Files ε Printout).result
        (.willing answer) := by
  rw [result_dump_of_ok hmode hrecord, hdisk]

/-- Both modes with a table fail if it does, one of them behind the parameters. -/
lemma result_dump_table_of_error (ε : Type) (hrecord : platform.located answer file = .ok record)
    (hdisk : platform.chosen answer record = .ok disk)
    (htable : platform.tabled answer record disk = .error error) :
    (platform.dump .location file : Inquiry Files ε Printout).result (.willing answer) =
        .ok ⟨record.report disk, some error⟩ ∧
      (platform.dump .locationOnly file : Inquiry Files ε Printout).result (.willing answer) =
        .ok ⟨"", some error⟩ := by
  rw [result_dump_of_chosen (by decide) hrecord hdisk,
    result_dump_of_chosen (by decide) hrecord hdisk]
  exact ⟨result_dumpRecord_of_error (by decide) htable,
    result_dumpRecord_of_error (by decide) htable⟩

/-- Both print the same table, one of them behind the parameters and a heading. -/
lemma result_dump_table_of_ok (ε : Type) (hrecord : platform.located answer file = .ok record)
    (hdisk : platform.chosen answer record = .ok disk)
    (htable : platform.tabled answer record disk = .ok table) :
    (platform.dump .location file : Inquiry Files ε Printout).result (.willing answer) =
        .ok ⟨record.report disk ++ tableHeading ++ table.text, none⟩ ∧
      (platform.dump .locationOnly file : Inquiry Files ε Printout).result (.willing answer) =
        .ok ⟨table.text, none⟩ := by
  rw [result_dump_of_chosen (by decide) hrecord hdisk,
    result_dump_of_chosen (by decide) hrecord hdisk]
  have honly : (platform.dumpRecord .locationOnly record disk : Inquiry Files ε Printout).result
      (.willing answer) = .ok ⟨"" ++ "" ++ table.text, none⟩ :=
    result_dumpRecord_of_ok (by decide) htable
  exact ⟨result_dumpRecord_of_ok (by decide) htable, by simpa using honly⟩

/-- Whatever fails, there is a printout. -/
lemma exists_printout (ε : Type) (platform : Platform)
    (answer : (question : Files.Question) → Files.Answer question) (file : Option String)
    (mode : DumpMode) :
    ∃ printout, (platform.dump mode file : Inquiry Files ε Printout).result (.willing answer) =
      .ok printout := by
  cases hrecord : platform.located answer file with
  | error error => exact ⟨_, result_dump_of_error mode hrecord⟩
  | ok record =>
    by_cases hcheck : mode = .check
    · exact ⟨_, hcheck ▸ result_dump_check_of_ok hrecord⟩
    rw [result_dump_of_ok hcheck hrecord]
    cases platform.chosen answer record with
    | error error => exact ⟨_, rfl⟩
    | ok disk =>
      by_cases hparameters : mode = .parameters
      · exact ⟨_, hparameters ▸ result_dumpRecord_parameters⟩
      cases htable : platform.tabled answer record disk with
      | error error => exact ⟨_, result_dumpRecord_of_error hparameters htable⟩
      | ok table => exact ⟨_, result_dumpRecord_of_ok hparameters htable⟩

/-! ### All modes -/

/-- **The modes agree on one machine**, whatever its files hold and wherever the record is taken
from. In each mode there is a printout. A check prints nothing, and it succeeds if and only if the
record is located. If the record is not located or its disk is not resolved, the other modes fail
with that error and print nothing. Otherwise the parameters are printed, and the other two modes
succeed together: then the parameters with the table are the parameters, a heading, and what the
table alone is. If they fail, it is with one error: the parameters have been printed then, without
the heading, and of the table alone, nothing has. -/
theorem modes_agree (ε : Type) (platform : Platform)
    (answer : (question : Files.Question) → Files.Answer question) (file : Option String) :
    ∃ printed : DumpMode → Printout,
      (∀ mode, (platform.dump mode file : Inquiry Files ε Printout).result (.willing answer) =
        .ok (printed mode)) ∧
      (printed .check).text = "" ∧
      ((printed .check).error = none ↔ ∃ record, platform.located answer file = .ok record) ∧
      (∀ error, (platform.located answer file = .error error ∨
          ∃ record, platform.located answer file = .ok record ∧
            platform.chosen answer record = .error error) →
        ∀ mode ≠ .check, printed mode = ⟨"", some error⟩) ∧
      ∀ record disk, platform.located answer file = .ok record →
        platform.chosen answer record = .ok disk →
        printed .parameters = ⟨record.report disk, none⟩ ∧
        ((printed .location).error = none ↔ (printed .locationOnly).error = none) ∧
        ((printed .location).error = none →
          (printed .location).text = (printed .parameters).text ++ "=== image location ===\n" ++
            (printed .locationOnly).text) ∧
        (∀ error, (printed .location).error = some error →
          printed .location = ⟨(printed .parameters).text, some error⟩ ∧
          printed .locationOnly = ⟨"", some error⟩) ∧
        (∀ table, platform.tabled answer record disk = .ok table →
          printed .locationOnly = ⟨table.text, none⟩) ∧
        ∀ error, platform.tabled answer record disk = .error error →
          (printed .locationOnly).error = some error := by
  choose printed hprinted using exists_printout ε platform answer file
  have hprinted_of {mode : DumpMode} {printout : Printout}
      (h : (platform.dump mode file : Inquiry Files ε Printout).result (.willing answer) =
        .ok printout) : printed mode = printout :=
    Except.ok.inj ((hprinted mode).symm.trans h)
  cases hrecord : platform.located answer file with
  | error error =>
    have hall (mode : DumpMode) : printed mode = ⟨"", some error⟩ :=
      hprinted_of (result_dump_of_error mode hrecord)
    refine ⟨printed, hprinted, ?_, ?_, ?_, fun record disk h => by cases h⟩
    · rw [hall]
    · simp [hall]
    · rintro other (h | ⟨record, h, -⟩) mode -
      · rw [hall, Except.error.inj h]
      · cases h
  | ok record =>
    have hcheck : printed .check = ⟨"", none⟩ := hprinted_of (result_dump_check_of_ok hrecord)
    refine ⟨printed, hprinted, ?_, ?_, ?_, ?_⟩
    · rw [hcheck]
    · simp [hcheck]
    · rintro error (h | ⟨found, h, hdisk⟩) mode hmode
      · cases h
      · obtain rfl := Except.ok.inj h
        exact hprinted_of ((result_dump_of_ok hmode hrecord).trans (by rw [hdisk]))
    · rintro found disk h hdisk
      obtain rfl := Except.ok.inj h
      have hparameters : printed .parameters = ⟨record.report disk, none⟩ :=
        hprinted_of ((result_dump_of_chosen (by decide) hrecord hdisk).trans
          result_dumpRecord_parameters)
      cases htable : platform.tabled answer record disk with
      | error error =>
        obtain ⟨hlocation, honly⟩ := result_dump_table_of_error ε hrecord hdisk htable
        simp [hparameters, hprinted_of hlocation, hprinted_of honly]
      | ok table =>
        obtain ⟨hlocation, honly⟩ := result_dump_table_of_ok ε hrecord hdisk htable
        simp [hparameters, hprinted_of hlocation, hprinted_of honly, tableHeading]

/-- A machine with a record in its firmware table and a list of one region behind it, and one disk,
whose partitions the kernel tells nothing about. -/
theorem modes_agree_one_region :
    let record := (Record.create (Vector.replicate 16 7) 1024 1 .ntfs "/a" 0).withSnapshot 0 44
    let list := RegionList.ofRegions [⟨0, 1, 4096⟩]
    let told : (question : Files.Question) → Files.Answer question
      | .isThere _ => false
      | .read _ => .ok ⟨(List.replicate 36 0xFF ++ (record.toBytes ++ list.toBytes)).toArray⟩
      | .list _ => .ok ["sda"]
      | .ordinarySize _ => .error .notFound
      | .length _ => .ok 1024
      | .slice _ _ length => .ok ⟨Array.replicate length 7⟩
    let printout (mode : DumpMode) :=
      (live.dump mode none : Inquiry Files Error Printout).result (.willing told)
    ∃ location, printout .check = .ok ⟨"", none⟩ ∧
      printout .parameters = .ok ⟨record.report "sda", none⟩ ∧
      printout .location = .ok location ∧ location.error = none ∧
      location.text =
        record.report "sda" ++ "=== image location ===\n" ++ "0 4 linear /dev/sda1 2048\n" ∧
      printout .locationOnly = .ok ⟨"0 4 linear /dev/sda1 2048\n", none⟩ := by
  intro record list told printout
  have hlocated : live.located told none = .ok record := by
    have hkeeps : live.Keeps told .bootTable record := by
      refine ⟨_, rfl, ?_⟩
      rw [← Record.parse?_drop_eq_some_iff, List.drop_left' List.length_replicate]
      exact Record.parse?_sealed_append rfl list.toBytes
    refine Record.result_locate_eq_ok_iff.2 ?_
    rw [recordSources, List.findSome?_cons, record?_tableSource_eq_some_iff.2 hkeeps]
  have hchosen : live.chosen told record = .ok "sda" := by decide +kernel
  have htext : ((live.tabled told record "sda").map LinearTable.text).toOption =
      some "0 4 linear /dev/sda1 2048\n" := by decide +kernel
  obtain ⟨table, htable, htext⟩ : ∃ table, live.tabled told record "sda" = .ok table ∧
      table.text = "0 4 linear /dev/sda1 2048\n" := by
    cases htable : live.tabled told record "sda" with
    | error error =>
      rw [htable] at htext
      cases htext
    | ok table =>
      rw [htable] at htext
      exact ⟨table, rfl, Option.some.inj htext⟩
  obtain ⟨printed, hprinted, hcheck, hcheck_iff, -, hafter⟩ := modes_agree Error live told none
  obtain ⟨hparameters, hiff, hjoined, -, htables, -⟩ := hafter record "sda" hlocated hchosen
  have honly := htables table htable
  have hdone : (printed .location).error = none := hiff.2 (by rw [honly])
  refine ⟨printed .location, ?_, ?_, hprinted .location, hdone, ?_, ?_⟩
  · refine (hprinted .check).trans (congrArg _ ?_)
    rw [← hcheck, ← hcheck_iff.2 ⟨record, hlocated⟩]
  · exact (hprinted .parameters).trans (congrArg _ hparameters)
  · rw [hjoined hdone, hparameters, honly, htext]
  · rw [← htext]
    exact (hprinted .locationOnly).trans (congrArg _ honly)

end BootExtents.Platform
