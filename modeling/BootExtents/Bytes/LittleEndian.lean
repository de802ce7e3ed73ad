import BootExtents.Bytes.Slice

/-!
# Little-endian numbers

Numbers of a fixed width, least significant byte first, as every field of the record, of the
region list and of an exFAT volume stores them.

## Main definitions

* `BootExtents.LittleEndian.encode` — a number as a given count of bytes.
* `BootExtents.LittleEndian.decode` — the number that bytes stand for.
* `BootExtents.Bytes.u16At`, `u32At`, `u64At` — a field of a byte list, by its offset.

## Main results

* `BootExtents.LittleEndian.decode_encode`, `encode_decode` — the two are inverse, up to the width.
-/

set_option relaxedAutoImplicit false
set_option autoImplicit false

namespace BootExtents.LittleEndian

/-- The `width` low-order bytes of a number, least significant first. -/
def encode : Nat → Nat → List UInt8
  | 0, _ => []
  | width + 1, n => n.toUInt8 :: encode width (n / 256)

/-- The number whose bytes, least significant first, are given. -/
def decode : List UInt8 → Nat
  | [] => 0
  | byte :: rest => byte.toNat + 256 * decode rest

/-- A number is written in as many bytes as it is given. -/
@[simp] theorem length_encode (width n : Nat) : (encode width n).length = width := by
  induction width generalizing n with
  | zero => rfl
  | succ width ih => simp [encode, ih]

/-- A number that was read is bounded by its count of bytes. -/
theorem decode_lt (bytes : List UInt8) : decode bytes < Nat.pow 256 bytes.length := by
  induction bytes with
  | nil => simp [decode]
  | cons byte rest ih =>
    have := byte.toNat_lt
    rw [Nat.pow_eq] at ih ⊢
    simp only [decode, List.length_cons, Nat.pow_succ]
    omega

/-- Reading gives back the number, cut to the width it was written with. -/
theorem decode_encode (width n : Nat) : decode (encode width n) = n % Nat.pow 256 width := by
  induction width generalizing n with
  | zero => simp [encode, decode, Nat.mod_one]
  | succ width ih =>
    simp only [encode, decode, ih, Nat.pow_eq]
    rw [Nat.pow_succ', Nat.mod_mul]
    simp

/-- Writing gives back the bytes that were read. -/
theorem encode_decode (bytes : List UInt8) : encode bytes.length (decode bytes) = bytes := by
  induction bytes with
  | nil => rfl
  | cons byte rest ih =>
    have hbyte := byte.toNat_lt
    have hdiv : (byte.toNat + 256 * decode rest) / 256 = decode rest := by omega
    simp only [List.length_cons, encode, decode, hdiv, ih, List.cons.injEq, and_true]
    apply UInt8.toNat_inj.mp
    simp

end BootExtents.LittleEndian

namespace BootExtents.Bytes

/-! ### Fields by offset -/

/-- The 16-bit field at an offset. -/
def u16At (bytes : List UInt8) (offset : Nat) : UInt16 :=
  (LittleEndian.decode (slice bytes offset 2)).toUInt16

/-- The 32-bit field at an offset. -/
def u32At (bytes : List UInt8) (offset : Nat) : UInt32 :=
  (LittleEndian.decode (slice bytes offset 4)).toUInt32

/-- The 64-bit field at an offset. -/
def u64At (bytes : List UInt8) (offset : Nat) : UInt64 :=
  (LittleEndian.decode (slice bytes offset 8)).toUInt64

end BootExtents.Bytes
