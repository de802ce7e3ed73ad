import BootExtents.Proofs.Record.Scan
import Mathlib

/-!
# Records that were changed

A record may be told of a copy of the image's location, and sealed, any number of times. Both leave
a sealed record. All changes together come to the last copy that was told of, and a new checksum; no
other byte is touched.

## Main definitions

* `BootExtents.Record.Edit` — one change.
* `BootExtents.Record.edited` — a record after some changes.
* `BootExtents.Record.lastSnapshot?` — the copy that changes tell of in the end.
* `BootExtents.Record.telling` — a record that tells of a copy, not yet sealed.

## Main results

* `BootExtents.Record.toBytes_checksum` — a checksum is one byte of a record.
* `BootExtents.Record.byteSum_checksum_iff` — one checksum makes a record sum to zero.
* `BootExtents.Record.edited_sealed`, `edited_eq` — what changes come to.
* `BootExtents.Record.sealed_after_edits` — what they leave as it was.
-/

set_option relaxedAutoImplicit false
set_option autoImplicit false

namespace BootExtents.Record

/-! ### Changes -/

/-- A copy of the image's location. -/
structure Snapshot where
  /-- Its physical address. -/
  address : UInt64
  /-- Its length in bytes. -/
  length : UInt32

/-- A change of a record. -/
inductive Edit where
  /-- The record is sealed. -/
  | reseal
  /-- The record is told of a copy of the image's location, and sealed. -/
  | tell (snapshot : Snapshot)

namespace Edit

/-- The record after a change. -/
def apply (record : Record) : Edit → Record
  | reseal => record.sealed
  | tell snapshot => record.withSnapshot snapshot.address snapshot.length

/-- The copy that a change tells of. -/
def snapshot? : Edit → Option Snapshot
  | reseal => none
  | tell snapshot => some snapshot

end Edit

/-- The record after some changes, in order. -/
def edited (record : Record) (edits : List Edit) : Record :=
  edits.foldl Edit.apply record

/-- The copy that the last one of the changes tells of which tells of any. -/
def lastSnapshot? (edits : List Edit) : Option Snapshot :=
  (edits.filterMap Edit.snapshot?).getLast?

/-- The record that tells of a copy, if one is given. It is not sealed. -/
def telling (record : Record) : Option Snapshot → Record
  | none => record
  | some snapshot =>
    { record with snapshotAddress := snapshot.address, snapshotLength := snapshot.length }

variable {record : Record} {edits : List Edit} {place : Nat}

/-- The last of several snapshots is the last of the later ones, if there is any. -/
lemma lastSnapshot?_cons (edit : Edit) (edits : List Edit) :
    lastSnapshot? (edit :: edits) = (lastSnapshot? edits).or edit.snapshot? := by
  unfold lastSnapshot?
  cases edit with
  | reseal => simp [Edit.snapshot?]
  | tell snapshot =>
    rw [List.filterMap_cons_some (b := snapshot) (by rfl), List.getLast?_cons]
    cases (edits.filterMap Edit.snapshot?).getLast? <;> rfl

/-! ### Checksums -/

/-- A checksum is the byte behind the identity. -/
lemma toBytes_checksum (record : Record) (checksum : UInt8) :
    { record with checksum := checksum }.toBytes = record.toBytes.set 16 checksum := by
  rw [toBytes, toBytes, List.set_append_right _ _ (by simp), Vector.length_toList]
  rfl

/-- The checksum counts as one byte of the sum. -/
lemma byteSum_checksum (record : Record) (checksum : UInt8) :
    Checksum.byteSum { record with checksum := checksum }.toBytes =
      checksum + Checksum.byteSum { record with checksum := 0 }.toBytes := by
  simp only [toBytes, Checksum.byteSum_append, Checksum.byteSum_cons, Checksum.byteSum_nil,
    UInt8.add_zero, UInt8.zero_add]
  exact add_left_comm _ _ _

/-- **One checksum makes a record sum to zero**, the one that sealing puts there. -/
theorem byteSum_checksum_iff (record : Record) (checksum : UInt8) :
    Checksum.byteSum { record with checksum := checksum }.toBytes = 0 ↔
      checksum = record.sealed.checksum := by
  rw [byteSum_checksum, sealed, zero_sub]
  exact add_eq_zero_iff_eq_neg

/-! ### What changes come to -/

/-- Sealing is for any checksum that was there. -/
lemma sealed_sealed (record : Record) : record.sealed.sealed = record.sealed := rfl

/-- **Changes of a sealed record** come to the last copy that they tell of. The record is sealed
again.

**Proof sketch.** Induction on the changes. Sealing does not depend on the checksum that was there,
so each change leaves what telling alone would have left, sealed. -/
lemma edited_sealed (record : Record) (edits : List Edit) :
    record.sealed.edited edits = (record.telling (lastSnapshot? edits)).sealed := by
  induction edits generalizing record with
  | nil => rfl
  | cons edit edits ih =>
    rw [lastSnapshot?_cons]
    cases edit with
    | reseal =>
      rw [Edit.snapshot?, Option.or_none]
      exact ih record
    | tell snapshot =>
      refine (ih (record.telling (some snapshot))).trans ?_
      cases lastSnapshot? edits <;> rfl

/-- Changes of any record do, if there are any. -/
theorem edited_eq (record : Record) (hedits : edits ≠ []) :
    record.edited edits = (record.telling (lastSnapshot? edits)).sealed := by
  obtain ⟨edit, edits, rfl⟩ := List.exists_cons_of_ne_nil hedits
  rw [lastSnapshot?_cons]
  cases edit with
  | reseal =>
    rw [Edit.snapshot?, Option.or_none]
    exact edited_sealed record edits
  | tell snapshot =>
    refine (edited_sealed (record.telling (some snapshot)) edits).trans ?_
    cases lastSnapshot? edits <;> rfl

/-- What changes come to, as one change. -/
lemma sealed_telling (record : Record) (snapshot? : Option Snapshot) :
    (record.telling snapshot?).sealed = snapshot?.elim record.sealed fun snapshot =>
      record.withSnapshot snapshot.address snapshot.length := by
  cases snapshot? <;> rfl

/-! ### What changes leave -/

/-- The bytes of the fields in front of those that tell of a copy. -/
def front (record : Record) : List UInt8 :=
  (record.fields.take 8).flatten

/-- The fields in front of the snapshot's place take 437 bytes. -/
lemma length_front (record : Record) : record.front.length = 437 := by
  simp [front, fields]

/-- Up to its snapshot's place, a record has the bytes of the fields in front. -/
lemma getElem?_toBytes_of_lt (record : Record) (hplace : place < 437) :
    record.toBytes[place]? = record.front[place]? := by
  rw [← flatten_fields, ← List.take_append_drop 8 record.fields, List.flatten_append]
  exact List.getElem?_append_left (by rwa [← front, length_front])

/-- Behind the snapshot's place and length, a record has its reserved bytes. -/
lemma getElem?_toBytes_of_le (record : Record) (hplace : 449 ≤ place) :
    record.toBytes[place]? = record.reserved.toList[place - 449]? := by
  have hbytes : record.toBytes = (record.front ++
      (LittleEndian.encode 8 record.snapshotAddress.toNat ++
        LittleEndian.encode 4 record.snapshotLength.toNat)) ++ record.reserved.toList := by
    simp [front, fields, toBytes]
  rw [hbytes, List.getElem?_append_right (by simpa [length_front] using hplace)]
  simp [length_front]

/-- Telling of a copy touches no byte but those of its address and its length. -/
lemma getElem?_toBytes_telling (record : Record) {snapshot? : Option Snapshot}
    (hplace : snapshot? = none ∨ place < 437 ∨ 449 ≤ place) :
    (record.telling snapshot?).toBytes[place]? = record.toBytes[place]? := by
  cases snapshot? with
  | none => rfl
  | some snapshot =>
    rcases hplace.resolve_left (Option.some_ne_none _) with hbefore | hbehind
    · rw [getElem?_toBytes_of_lt _ hbefore, getElem?_toBytes_of_lt _ hbefore]
      rfl
    · rw [getElem?_toBytes_of_le _ hbehind, getElem?_toBytes_of_le _ hbehind]
      rfl

/-- Sealing touches no byte but the checksum. -/
lemma getElem?_toBytes_sealed (record : Record) (hplace : place ≠ 16) :
    record.sealed.toBytes[place]? = record.toBytes[place]? := by
  have hbytes := toBytes_checksum record record.sealed.checksum
  replace hbytes : record.sealed.toBytes = record.toBytes.set 16 record.sealed.checksum := hbytes
  rw [hbytes, List.getElem?_set_ne (Ne.symm hplace)]

/-- Any 512 bytes are those of a record. -/
lemma exists_ofBytes?_eq_some {bytes : List UInt8} (hlength : bytes.length = 512) :
    ∃ record, ofBytes? bytes = some record ∧ record.toBytes = bytes := by
  obtain ⟨record, hrecord⟩ : ∃ record, ofBytes? bytes = some record := by
    rw [ofBytes?, Bytes.slice?_eq_some (by rw [hlength, byteCount])]
    exact ⟨_, rfl⟩
  refine ⟨record, hrecord, ?_⟩
  rw [toBytes_of_ofBytes?_eq_some hrecord]
  exact List.take_of_length_le hlength.le

/-- **Sealed after any changes, and otherwise untouched.** Any 512 bytes are those of one record.
After some changes of it, the bytes sum to zero, which no other checksum would make them do, and the
record is genuine if it starts with the identity of the boot stage. It tells of the last copy that
it was told of. Every byte but the checksum and, if it was told of a copy, those of the address and
the length is what it was, and so is every other field. One change would have done the same, and
sealing it once more does nothing. -/
theorem sealed_after_edits {bytes : List UInt8} {edits : List Edit}
    (hlength : bytes.length = 512) (hedits : edits ≠ []) :
    ∃ record, ofBytes? bytes = some record ∧ record.toBytes = bytes ∧
      (∀ other : Record, ofBytes? other.toBytes = some other) ∧
      ((record.edited edits).toBytes.map UInt8.toNat).sum % 256 = 0 ∧
      ((record.edited edits).isValid = true ↔
        (record.edited edits).toBytes.take 16 = bootIdentity.toList) ∧
      (∀ snapshot, lastSnapshot? edits = some snapshot →
        (record.edited edits).snapshotAddress = snapshot.address ∧
          (record.edited edits).snapshotLength = snapshot.length) ∧
      (∀ place, place ≠ 16 → (lastSnapshot? edits = none ∨ place < 437 ∨ 449 ≤ place) →
        (record.edited edits).toBytes[place]? = bytes[place]?) ∧
      record.edited edits =
        { record with
          checksum := (record.edited edits).checksum
          snapshotAddress := (record.edited edits).snapshotAddress
          snapshotLength := (record.edited edits).snapshotLength } ∧
      (∀ checksum, Checksum.byteSum { record.edited edits with checksum := checksum }.toBytes = 0 ↔
        checksum = (record.edited edits).checksum) ∧
      (record.edited edits).sealed = record.edited edits ∧
      record.edited edits = (lastSnapshot? edits).elim record.sealed fun snapshot =>
        record.withSnapshot snapshot.address snapshot.length := by
  obtain ⟨record, hread, hbytes⟩ := exists_ofBytes?_eq_some hlength
  refine ⟨record, hread, hbytes, fun other => ?_, ?_⟩
  · simpa using ofBytes?_toBytes_append other []
  rw [edited_eq record hedits]
  have hsum : ((record.telling (lastSnapshot? edits)).sealed.toBytes.map UInt8.toNat).sum % 256 =
      0 := by
    rw [← Checksum.toNat_byteSum, byteSum_sealed]
    rfl
  refine ⟨hsum, ?_, ?_, fun place hplace hother => ?_, ?_, fun checksum => ?_, sealed_sealed _,
    sealed_telling record _⟩
  · rw [isValid_iff]
    exact ⟨fun hgenuine => hgenuine.identity, fun hidentity => ⟨length_toBytes _, hidentity, hsum⟩⟩
  · rintro snapshot hlast
    rw [hlast]
    exact ⟨rfl, rfl⟩
  · rw [getElem?_toBytes_sealed _ hplace, getElem?_toBytes_telling record hother, hbytes]
  · cases lastSnapshot? edits <;> rfl
  · exact byteSum_checksum_iff (record.telling (lastSnapshot? edits)) checksum

/-- Bytes that are all alike, as a record that is told of a copy, sealed, told of another one and
sealed twice. -/
theorem sealed_after_edits_two_snapshots :
    ∃ record, ofBytes? (List.replicate 512 7) = some record ∧
      record.edited [.tell ⟨0x1000, 60⟩, .reseal, .tell ⟨0x2000, 44⟩, .reseal, .reseal] =
        record.withSnapshot 0x2000 44 ∧
      (record.edited [.tell ⟨0x1000, 60⟩, .reseal, .tell ⟨0x2000, 44⟩, .reseal,
        .reseal]).snapshotAddress = 0x2000 ∧
      (record.edited [.tell ⟨0x1000, 60⟩, .reseal, .tell ⟨0x2000, 44⟩, .reseal,
        .reseal]).toBytes[449]? = some 7 := by
  obtain ⟨record, hread, -, -, -, -, htold, hbytes, -, -, -, hone⟩ :=
    sealed_after_edits (List.length_replicate (n := 512) (a := (7 : UInt8)))
      (List.cons_ne_nil (.tell ⟨0x1000, 60⟩)
        [.reseal, .tell ⟨0x2000, 44⟩, .reseal, .reseal])
  exact ⟨record, hread, hone, (htold _ rfl).1, hbytes 449 (by decide) (.inr (.inr (by decide)))⟩

end BootExtents.Record
