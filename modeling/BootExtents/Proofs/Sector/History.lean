import BootExtents.Sector.Reader
import Mathlib

/-!
# A reader of sectors does not remember

A reader keeps its place in the file and one buffer for all reads, and any call may fail. Still, what
a call is answered depends on the file and on the sector size in force alone. That size is the last
one that was accepted, and the buffer always has room for a sector of it.

## Main definitions

* `BootExtents.SectorReader.Call`, `Reply` — what a reader is called for, and what it answers.
* `BootExtents.SectorReader.replies`, `after` — the answers to some calls, and the reader after them.
* `BootExtents.SectorReader.shiftAfter` — the sector size in force after some calls.
* `BootExtents.SectorReader.exactReply` — the answer by the file and the sector size.
* `BootExtents.SectorReader.Serves` — a reader of a file, with room for a sector.

## Main results

* `BootExtents.SectorReader.read_eq_readSector` — a read gives the sector of the file.
* `BootExtents.SectorReader.Serves.reply`, `Serves.call` — one call.
* `BootExtents.SectorReader.Serves.getElem?_replies`, `Serves.after` — any number of calls.
* `BootExtents.SectorReader.Serves.replies_congr` — readers that cannot be told apart.
* `BootExtents.SectorReader.replies_exact` — the answers of a reader that was just opened.
-/

set_option relaxedAutoImplicit false
set_option autoImplicit false

namespace BootExtents

/-- What was copied to the front of a buffer is found there, whatever the buffer held. -/
lemma extract_copySlice (file buffer : ByteArray) {position length : Nat}
    (h : position + length ≤ file.size) :
    (file.copySlice position buffer 0 length).extract 0 length =
      file.extract position (position + length) := by
  have hsize : (file.data.extract position (position + length)).size = length := by
    have hdata : position + length ≤ file.data.size := h
    rw [Array.size_extract]
    omega
  apply ByteArray.ext
  rw [ByteArray.data_extract, ByteArray.data_extract, ByteArray.copySlice]
  simp [hsize]

/-- A buffer is as large as before, if what is copied to its front has room there. -/
lemma size_copySlice (file buffer : ByteArray) {position count : Nat}
    (hroom : count ≤ buffer.size) (hcount : count ≤ file.size - position) :
    (file.copySlice position buffer 0 count).size = buffer.size := by
  simp only [ByteArray.copySlice, ByteArray.size, Array.size_append, Array.size_extract] at *
  omega

namespace SectorReader

/-! ### Calls -/

/-- What a reader is called for. -/
inductive Call where
  /-- Another sector size, two to the given power. -/
  | setShift (shift : Nat)
  /-- A sector, by its number. -/
  | read (number : Nat)

/-- What a reader answers. -/
inductive Reply where
  /-- Whether the sector size was accepted. -/
  | setShift (outcome : Except IoError Unit)
  /-- The bytes of the sector. -/
  | read (outcome : Except IoError ByteArray)

/-- The answer to a call, and the reader after it. A call that fails may leave the reader at another
place and with other bytes in its buffer. -/
def call (reader : SectorReader) : Call → Reply × SectorReader
  | .setShift shift =>
    match reader.setShift shift with
    | .ok changed => (.setShift (.ok ()), changed)
    | .error error => (.setShift (.error error), reader)
  | .read number => (.read (reader.read number).1, (reader.read number).2)

/-- The answers to some calls, in order. -/
def replies (reader : SectorReader) : List Call → List Reply
  | [] => []
  | next :: calls => (reader.call next).1 :: replies (reader.call next).2 calls

/-- The reader after some calls. -/
def after (reader : SectorReader) (calls : List Call) : SectorReader :=
  calls.foldl (fun reader next => (reader.call next).2) reader

/-! ### What calls should do -/

/-- The sector size that a call puts in force. -/
def Call.accepted? : Call → Option Nat
  | setShift shift => if 2 ^ shift ≤ maxSectorSize then some shift else none
  | read _ => none

/-- The sector size in force after some calls: the last one that was accepted, if any was. -/
def shiftAfter (shift : Nat) (calls : List Call) : Nat :=
  (calls.filterMap Call.accepted?).getLast?.getD shift

/-- What a call is answered, by the file and the sector size in force. -/
def exactReply (file : ByteArray) (shift : Nat) : Call → Reply
  | .setShift next =>
    .setShift (if 2 ^ next ≤ maxSectorSize then .ok () else .error (.sectorSize next))
  | .read number => .read (readSector file ⟨shift, number⟩)

/-- A reader of a file in sectors of a size, all of which find room in its buffer. -/
structure Serves (reader : SectorReader) (file : ByteArray) (shift : Nat) : Prop where
  file_eq : reader.file = file
  shift_eq : reader.shift = shift
  buffer_size : reader.buffer.size = maxSectorSize
  fits : 2 ^ shift ≤ maxSectorSize

variable {reader other : SectorReader} {file : ByteArray} {shift length number : Nat}

/-- A call leaves the shift that it is accepted with, or the old one. -/
lemma shiftAfter_cons (shift : Nat) (next : Call) (calls : List Call) :
    shiftAfter shift (next :: calls) = shiftAfter (next.accepted?.getD shift) calls := by
  unfold shiftAfter
  cases haccepted : next.accepted? with
  | none => rw [List.filterMap_cons_none haccepted, Option.getD_none]
  | some accepted =>
    rw [List.filterMap_cons_some haccepted, List.getLast?_cons, Option.getD_some, Option.getD_some]

/-! ### One call -/

/-- A sector size is accepted if the buffer can hold a sector. -/
lemma setShift_eq (reader : SectorReader) (shift : Nat) :
    reader.setShift shift =
      if 2 ^ shift ≤ maxSectorSize then .ok { reader with shift }
      else .error (.sectorSize shift) := by
  rw [setShift, Nat.one_shiftLeft]
  split_ifs with hlarge hfits hfits
  · omega
  · rfl
  · rfl
  · omega

/-- Where the file has the bytes, they fill the buffer. -/
lemma fill_of_le (h : reader.position + length ≤ reader.file.size) :
    reader.fill length = (true,
      { reader with
        position := reader.position + length
        buffer := reader.file.copySlice reader.position reader.buffer 0 length }) := by
  have hcount : min length (reader.file.size - reader.position) = length := by omega
  rw [fill, hcount, beq_self_eq_true]

/-- Where the file is over too early, the buffer is not filled. -/
lemma fill_of_lt (h : reader.file.size < reader.position + length) (hpos : 0 < length) :
    (reader.fill length).1 = false := by
  rw [fill]
  exact beq_eq_false_iff_ne.2 (by omega)

/-- The reader at the place where a sector starts. -/
def atSector (reader : SectorReader) (number : Nat) : SectorReader :=
  { reader with position := number * (1 <<< reader.shift) }

/-- A read fails at once if its place cannot be asked for. -/
lemma read_of_le (h : positionLimit ≤ number * (1 <<< reader.shift)) :
    reader.read number = (.error .invalidPosition, reader) := by
  rw [read, seek, if_pos h]

/-- Otherwise the buffer is filled, and what it holds is given if that is all of the sector. -/
lemma read_of_lt (h : number * (1 <<< reader.shift) < positionLimit) :
    reader.read number =
      (if ((reader.atSector number).fill (1 <<< reader.shift)).1 then
        .ok (((reader.atSector number).fill (1 <<< reader.shift)).2.buffer.extract 0
          (1 <<< reader.shift))
      else .error .endOfFile,
      ((reader.atSector number).fill (1 <<< reader.shift)).2) := by
  have hplaced : (reader.atSector number).shift = reader.shift := rfl
  have hfilled : ((reader.atSector number).fill (1 <<< reader.shift)).2.shift = reader.shift := rfl
  rw [read, seek, if_neg (Nat.not_le.2 h), ← atSector]
  dsimp only
  rw [hplaced]
  generalize (reader.atSector number).fill (1 <<< reader.shift) = filled at hfilled ⊢
  obtain ⟨_ | _, rest⟩ := filled
  · rfl
  · -- The sector that is given has the size of the reader after the filling, which is the same.
    rw [← hfilled]
    rfl

/-- **A read gives the sector of the file**, whatever the place and the buffer of the reader. -/
theorem read_eq_readSector (reader : SectorReader) (number : Nat) :
    (reader.read number).1 = readSector reader.file ⟨reader.shift, number⟩ := by
  have hpos : 0 < 1 <<< reader.shift := SectorAddress.size_pos ⟨reader.shift, number⟩
  rw [readSector, readExact, SectorAddress.position, SectorAddress.size]
  by_cases hlimit : positionLimit ≤ number * (1 <<< reader.shift)
  · rw [read_of_le hlimit, if_pos hlimit]
  · rw [read_of_lt (Nat.not_le.1 hlimit), if_neg hlimit]
    by_cases hstop : number * (1 <<< reader.shift) + 1 <<< reader.shift ≤ reader.file.size
    · have hstop' : (reader.atSector number).position + 1 <<< reader.shift ≤
          (reader.atSector number).file.size := hstop
      rw [fill_of_le hstop', if_pos hstop, if_pos rfl]
      exact congrArg _ (extract_copySlice _ _ hstop)
    · have hshort : (reader.atSector number).file.size <
          (reader.atSector number).position + 1 <<< reader.shift := Nat.not_le.1 hstop
      rw [fill_of_lt hshort hpos, if_neg hstop, if_neg Bool.false_ne_true]

/-- Filling the buffer changes no more than its bytes and the place in the file. -/
lemma Serves.fill (h : reader.Serves file shift) (hroom : length ≤ maxSectorSize) :
    (reader.fill length).2.Serves file shift := by
  refine ⟨h.file_eq, h.shift_eq, ?_, h.fits⟩
  have hbuffer := h.buffer_size
  rw [SectorReader.fill, size_copySlice _ _ (by omega) (min_le_right _ _), hbuffer]

/-- So does a read, whether it fails or not. -/
lemma Serves.read (h : reader.Serves file shift) (number : Nat) :
    (reader.read number).2.Serves file shift := by
  by_cases hlimit : positionLimit ≤ number * (1 <<< reader.shift)
  · rw [read_of_le hlimit]
    exact h
  · rw [read_of_lt (Nat.not_le.1 hlimit)]
    have hplaced : (reader.atSector number).Serves file shift :=
      ⟨h.file_eq, h.shift_eq, h.buffer_size, h.fits⟩
    refine hplaced.fill ?_
    rw [Nat.one_shiftLeft, h.shift_eq]
    exact h.fits

/-- **One call is answered by the file and the sector size.** -/
theorem Serves.reply (h : reader.Serves file shift) (next : Call) :
    (reader.call next).1 = exactReply file shift next := by
  cases next with
  | setShift next =>
    rw [call, exactReply, setShift_eq]
    split_ifs <;> rfl
  | read number =>
    rw [call, exactReply, read_eq_readSector, h.file_eq, h.shift_eq]

/-- **A call leaves a reader of the same file**, in sectors of the size that it put in force, if
any. -/
theorem Serves.call (h : reader.Serves file shift) (next : Call) :
    (reader.call next).2.Serves file (next.accepted?.getD shift) := by
  cases next with
  | setShift next =>
    rw [SectorReader.call, setShift_eq, Call.accepted?]
    split_ifs with hfits
    · exact ⟨h.file_eq, rfl, h.buffer_size, hfits⟩
    · exact h
  | read number => exact h.read number

/-! ### Any number of calls -/

/-- **After any calls** the last size that was accepted is in force.

**Proof sketch.** Induction on the calls, each of which leaves a reader of the file. -/
theorem Serves.after (h : reader.Serves file shift) (calls : List Call) :
    (reader.after calls).Serves file (shiftAfter shift calls) := by
  induction calls generalizing reader shift with
  | nil => exact h
  | cons next calls ih =>
    rw [shiftAfter_cons]
    exact ih (h.call next)

/-- **Each of any calls is answered by the file and the sector size in force.**

**Proof sketch.** Induction on the calls, the reader and the sector size being general. -/
theorem Serves.getElem?_replies (h : reader.Serves file shift) (calls : List Call) (index : Nat) :
    (reader.replies calls)[index]? =
      calls[index]?.map (exactReply file (shiftAfter shift (calls.take index))) := by
  induction calls generalizing reader shift index with
  | nil => rfl
  | cons next calls ih =>
    cases index with
    | zero => exact congrArg some (h.reply next)
    | succ index =>
      rw [List.take_succ_cons, shiftAfter_cons]
      exact ih (h.call next) index

/-- Each call has a reply. -/
lemma length_replies (reader : SectorReader) (calls : List Call) :
    (reader.replies calls).length = calls.length := by
  induction calls generalizing reader with
  | nil => rfl
  | cons next calls ih => exact congrArg (· + 1) (ih _)

/-- Two readers of a file in sectors of one size cannot be told apart, whatever their places in the
file and the bytes in their buffers. -/
theorem Serves.replies_congr (h : reader.Serves file shift) (h' : other.Serves file shift)
    (calls : List Call) : reader.replies calls = other.replies calls := by
  apply List.ext_getElem?
  intro index
  rw [h.getElem?_replies, h'.getElem?_replies]

/-- A reader that was just opened reads sectors of 512 bytes, and so does one of another size that
fits. -/
lemma serves_ofFile (file : ByteArray) (hfits : 2 ^ shift ≤ maxSectorSize) :
    { ofFile file with shift }.Serves file shift :=
  ⟨rfl, rfl, Array.size_replicate, hfits⟩

/-- **What a reader answers does not depend on its history.** Of a reader that was just opened and
any calls, each call is answered: a sector size is accepted if and only if it is at most 4096, and a
sector is given exactly as it stands in the file, in sectors of the last size that was accepted, or
of 512 bytes at first; if the file ends before the sector does, that is the answer. A size that is
refused changes nothing. After the calls the reader answers as one that was just opened and given
the size in force, and its buffer has room for a sector of it. -/
theorem replies_exact (file : ByteArray) (calls : List Call) :
    ((ofFile file).replies calls).length = calls.length ∧
    (∀ (index shift : Nat), calls[index]? = some (.setShift shift) →
      ((ofFile file).replies calls)[index]? =
        some (.setShift (if 2 ^ shift ≤ 4096 then .ok () else .error (.sectorSize shift)))) ∧
    (∀ (index number size : Nat), calls[index]? = some (.read number) →
      size = 2 ^ shiftAfter 9 (calls.take index) → number * size < 2 ^ 63 →
      ((ofFile file).replies calls)[index]? =
        some (.read (if (number + 1) * size ≤ file.size then
          .ok (file.extract (number * size) ((number + 1) * size)) else .error .endOfFile))) ∧
    (∀ shift, 4096 < 2 ^ shift →
      (ofFile file).after (calls ++ [.setShift shift]) = (ofFile file).after calls) ∧
    (∀ later, ((ofFile file).after calls).replies later =
      { ofFile file with shift := shiftAfter 9 calls }.replies later) ∧
    2 ^ shiftAfter 9 calls ≤ ((ofFile file).after calls).buffer.size := by
  have hopen : (ofFile file).Serves file 9 := serves_ofFile file (by decide)
  have hafter := hopen.after calls
  refine ⟨length_replies _ _, fun index shift hcall => ?_,
    fun index number size hcall hsize hlimit => ?_, fun shift hlarge => ?_, fun later => ?_, ?_⟩
  · rw [hopen.getElem?_replies, hcall]
    rfl
  · rw [hopen.getElem?_replies, hcall, Option.map_some, exactReply, readSector, readExact,
      SectorAddress.position, SectorAddress.size, Nat.one_shiftLeft, ← hsize, Nat.succ_mul]
    have hposition : ¬positionLimit ≤ number * size := Nat.not_le.2 hlimit
    rw [if_neg hposition]
  · have hrefused (reader : SectorReader) : reader.after [.setShift shift] = reader := by
      have hover : ¬2 ^ shift ≤ maxSectorSize := Nat.not_le.2 hlarge
      show (reader.call (.setShift shift)).2 = reader
      rw [call, setShift_eq, if_neg hover]
    exact List.foldl_append.trans (hrefused _)
  · exact hafter.replies_congr (serves_ofFile file hafter.fits) later
  · rw [hafter.buffer_size]
    exact hafter.fits

/-- A file of 600 bytes, and a reader whose buffer holds the first 512 of them. A size is refused,
the second sector is not all there, and another size is accepted, by which a sector has four
bytes. -/
theorem replies_exact_short_file :
    let file : ByteArray := ⟨((List.range 600).map Nat.toUInt8).toArray⟩
    let calls : List Call := [.read 0, .setShift 13, .read 1, .setShift 2, .read 2]
    ((ofFile file).replies calls)[1]? = some (.setShift (.error (.sectorSize 13))) ∧
      ((ofFile file).replies calls)[2]? = some (.read (.error .endOfFile)) ∧
      ((ofFile file).replies calls)[4]? = some (.read (.ok ⟨#[8, 9, 10, 11]⟩)) := by
  intro file calls
  obtain ⟨-, hshift, hread, -⟩ := replies_exact file calls
  have hsize : file.size = 600 := by simp [file, ByteArray.size]
  have hbytes : file.extract (2 * 4) ((2 + 1) * 4) = ⟨#[8, 9, 10, 11]⟩ := by decide +kernel
  refine ⟨hshift 1 13 rfl, ?_, ?_⟩
  · rw [hread 2 1 512 rfl rfl (by decide), if_neg (by rw [hsize]; decide)]
  · rw [hread 4 2 4 rfl rfl (by decide), if_pos (by rw [hsize]; decide), hbytes]

end SectorReader

end BootExtents
