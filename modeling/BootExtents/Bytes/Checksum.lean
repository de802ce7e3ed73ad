/-!
# Checksums

Two ways to sum bytes: the plain sum, which guards the record, and the rotating sum, which guards
directory entry sets (16 bits wide) and the case map (32 bits wide) of an exFAT volume.

## Main definitions

* `BootExtents.Checksum.byteSum` — the sum of all bytes, modulo 256.
* `BootExtents.Checksum.rotating` — the sum that turns right by one bit before each byte.
-/

set_option relaxedAutoImplicit false
set_option autoImplicit false

namespace BootExtents.Checksum

/-- The sum of all bytes, modulo 256. -/
def byteSum (bytes : List UInt8) : UInt8 :=
  bytes.foldl (· + ·) 0

/-- One step of the rotating sum, where `half` is what the highest bit is worth: turn right by one
bit, so that the lowest bit becomes the highest, then add the byte. -/
def rotateAdd (half sum : Nat) (byte : UInt8) : Nat :=
  (sum / 2 + sum % 2 * half + byte.toNat) % (2 * half)

/-- The rotating sum of all bytes, `width` bits wide. -/
def rotating (width : Nat) (bytes : List UInt8) : Nat :=
  bytes.foldl (rotateAdd (1 <<< (width - 1))) 0

/-- What was summed before is added to the sum of all bytes. -/
theorem foldl_add (bytes : List UInt8) (start : UInt8) :
    bytes.foldl (· + ·) start = start + byteSum bytes := by
  induction bytes generalizing start with
  | nil => simp [byteSum]
  | cons byte rest ih =>
    rw [byteSum, List.foldl_cons, List.foldl_cons, ih, ih (0 + byte)]
    simp [UInt8.add_assoc]

/-- No bytes sum to zero. -/
@[simp] theorem byteSum_nil : byteSum [] = 0 := rfl

/-- The first byte is added to the sum of the others. -/
@[simp] theorem byteSum_cons (byte : UInt8) (rest : List UInt8) :
    byteSum (byte :: rest) = byte + byteSum rest := by
  simpa [byteSum] using foldl_add rest (0 + byte)

/-- The sums of two lists are added. -/
@[simp] theorem byteSum_append (front back : List UInt8) :
    byteSum (front ++ back) = byteSum front + byteSum back := by
  induction front with
  | nil => simp
  | cons byte rest ih => simp [ih, UInt8.add_assoc]

/-- The rotating sum goes on from the list in front. -/
@[simp] theorem rotating_append (width : Nat) (front back : List UInt8) :
    rotating width (front ++ back) =
      back.foldl (rotateAdd (1 <<< (width - 1))) (rotating width front) := by
  simp [rotating]

/-- A step keeps the sum within its width. -/
theorem rotateAdd_lt {half : Nat} (h : 0 < half) (sum : Nat) (byte : UInt8) :
    rotateAdd half sum byte < 2 * half :=
  Nat.mod_lt _ (by omega)

end BootExtents.Checksum
