import BootExtents.Bytes.LittleEndian

/-!
# Packed bytes

What is read from a volume comes in large pieces, which are kept packed. Their fields are found by
position, like those of a byte list.

## Main definitions

* `BootExtents.Packed.byteAt`, `number` — a byte, and a number of a given width, at an offset.
* `BootExtents.Packed.u16At`, `u32At`, `u64At` — a field, by its offset.
* `BootExtents.Packed.u16s` — a row of 16-bit numbers.
* `BootExtents.Packed.joined` — pieces put together.

## Main results

* `BootExtents.Packed.number_eq`, `toList_joined` — both in terms of byte lists.
-/

set_option relaxedAutoImplicit false
set_option autoImplicit false

namespace BootExtents.Packed

/-! ### Fields by offset -/

/-- The byte at an offset, zero past the end. -/
def byteAt (bytes : ByteArray) (offset : Nat) : UInt8 :=
  if h : offset < bytes.size then bytes[offset] else 0

/-- The number whose `width` bytes start at an offset, least significant byte first. Bytes past the
end count as zeros. -/
def number (bytes : ByteArray) (offset : Nat) : (width : Nat) → Nat
  | 0 => 0
  | width + 1 => (byteAt bytes offset).toNat + 256 * number bytes (offset + 1) width

/-- The 16-bit field at an offset. -/
def u16At (bytes : ByteArray) (offset : Nat) : UInt16 :=
  (number bytes offset 2).toUInt16

/-- The 32-bit field at an offset. -/
def u32At (bytes : ByteArray) (offset : Nat) : UInt32 :=
  (number bytes offset 4).toUInt32

/-- The 64-bit field at an offset. -/
def u64At (bytes : ByteArray) (offset : Nat) : UInt64 :=
  (number bytes offset 8).toUInt64

/-- The 16-bit numbers that bytes are a row of; a single byte at the end is left out. -/
def u16s (bytes : ByteArray) : List UInt16 :=
  List.ofFn fun place : Fin (bytes.size / 2) => u16At bytes (2 * place)

/-- A part of an array is the slice of its bytes. -/
theorem toList_extract (bytes : ByteArray) (offset length : Nat) :
    (bytes.extract offset (offset + length)).data.toList =
      Bytes.slice bytes.data.toList offset length := by
  simp [Bytes.slice]

/-- Past the end there are only zeros. -/
theorem number_eq_zero {bytes : ByteArray} {offset : Nat} (h : bytes.size ≤ offset) (width : Nat) :
    number bytes offset width = 0 := by
  induction width generalizing offset with
  | zero => rfl
  | succ width ih => simp [number, byteAt, Nat.not_lt.mpr h, ih (Nat.le_succ_of_le h)]

/-- A field of packed bytes is that of the byte list. -/
theorem number_eq (bytes : ByteArray) (offset width : Nat) :
    number bytes offset width =
      LittleEndian.decode (Bytes.slice bytes.data.toList offset width) := by
  by_cases h : offset < bytes.size
  · induction width generalizing offset with
    | zero => simp [number, Bytes.slice, LittleEndian.decode]
    | succ width ih =>
      have inside : offset < bytes.data.toList.length := by simpa using h
      rw [number, Bytes.slice, List.drop_eq_getElem_cons inside, List.take_succ_cons,
        LittleEndian.decode, byteAt, dif_pos h]
      congr 2
      by_cases next : offset + 1 < bytes.size
      · exact ih (offset + 1) next
      · rw [number_eq_zero (by omega), List.drop_eq_nil_of_le (by simp; omega)]
        simp [LittleEndian.decode]
  · rw [number_eq_zero (by omega), Bytes.slice, List.drop_eq_nil_of_le (by simp; omega)]
    simp [LittleEndian.decode]

/-- A packed 16-bit field is that of the list of bytes. -/
theorem u16At_eq (bytes : ByteArray) (offset : Nat) :
    u16At bytes offset = Bytes.u16At bytes.data.toList offset := by
  rw [u16At, Bytes.u16At, number_eq]

/-- A packed 32-bit field is that of the list of bytes. -/
theorem u32At_eq (bytes : ByteArray) (offset : Nat) :
    u32At bytes offset = Bytes.u32At bytes.data.toList offset := by
  rw [u32At, Bytes.u32At, number_eq]

/-- A packed 64-bit field is that of the list of bytes. -/
theorem u64At_eq (bytes : ByteArray) (offset : Nat) :
    u64At bytes offset = Bytes.u64At bytes.data.toList offset := by
  rw [u64At, Bytes.u64At, number_eq]

/-- Two bytes make a unit, and a last byte without a partner makes none. -/
@[simp] theorem length_u16s (bytes : ByteArray) : (u16s bytes).length = bytes.size / 2 := by
  simp [u16s]

/-! ### Pieces -/

/-- Pieces, one behind the other. -/
def joined (pieces : List ByteArray) : ByteArray :=
  pieces.foldl (· ++ ·) .empty

/-- Pieces that are appended one after the other are appended as a whole. -/
theorem foldl_append (front : ByteArray) (pieces : List ByteArray) :
    pieces.foldl (· ++ ·) front = front ++ joined pieces := by
  induction pieces generalizing front with
  | nil => simp [joined]
  | cons piece rest ih =>
    simp only [joined, List.foldl_cons, ByteArray.empty_append]
    rw [ih (front ++ piece), ih piece, ByteArray.append_assoc]

/-- No pieces are joined to an empty array. -/
@[simp] theorem joined_nil : joined [] = .empty := rfl

/-- The first piece stands in front of the others. -/
@[simp] theorem joined_cons (piece : ByteArray) (rest : List ByteArray) :
    joined (piece :: rest) = piece ++ joined rest := by
  rw [joined, List.foldl_cons, ByteArray.empty_append, foldl_append]

/-- The bytes of pieces put together are those of the pieces, in order. -/
theorem toList_joined (pieces : List ByteArray) :
    (joined pieces).data.toList = pieces.flatMap (·.data.toList) := by
  induction pieces with
  | nil => simp
  | cons piece rest ih => simp [ih]

end BootExtents.Packed
