/-!
# Slices and blocks of a byte list

Formats of fixed layout are read by position: a field is the slice of a byte list at a known
offset, and a table is the list of its whole blocks.

## Main definitions

* `BootExtents.Bytes.slice` — the bytes from an offset on, at most a given number of them.
* `BootExtents.Bytes.slice?` — the same, only if all of them are there.
* `BootExtents.Bytes.blockAt` — a block of known size, padded with zeros.
* `BootExtents.Bytes.blocks` — the whole blocks of a byte list, in order.
-/

set_option relaxedAutoImplicit false
set_option autoImplicit false

namespace BootExtents.Bytes

/-! ### Slices -/

/-- At most `length` bytes of `bytes`, from `offset` on. -/
def slice (bytes : List UInt8) (offset length : Nat) : List UInt8 :=
  (bytes.drop offset).take length

/-- The `length` bytes of `bytes` from `offset` on, if it holds all of them. -/
def slice? (bytes : List UInt8) (offset length : Nat) : Option (List UInt8) :=
  if (slice bytes offset length).length = length ∧ offset ≤ bytes.length then
    some (slice bytes offset length)
  else
    none

/-- A slice is as long as asked for, as far as the list reaches. -/
theorem length_slice (bytes : List UInt8) (offset length : Nat) :
    (slice bytes offset length).length = min length (bytes.length - offset) := by
  simp [slice]

/-- A slice within the list is found. -/
theorem slice?_eq_some {bytes : List UInt8} {offset length : Nat}
    (h : offset + length ≤ bytes.length) :
    slice? bytes offset length = some (slice bytes offset length) := by
  have : (slice bytes offset length).length = length := by rw [length_slice]; omega
  simp [slice?, this]
  omega

/-- A slice within the first of two lists is a slice of that one. -/
theorem slice_append_left {front back : List UInt8} {offset length : Nat}
    (h : offset + length ≤ front.length) :
    slice (front ++ back) offset length = slice front offset length := by
  rw [slice, slice, List.drop_append_of_le_length (by omega),
    List.take_append_of_le_length (by simp; omega)]

/-- A slice behind the first of two lists is a slice of the second one. -/
theorem slice_append_right {front back : List UInt8} {offset length : Nat}
    (h : front.length ≤ offset) :
    slice (front ++ back) offset length = slice back (offset - front.length) length := by
  rw [slice, slice, List.drop_append, List.drop_eq_nil_of_le h, List.nil_append]

/-- The front of a slice is a shorter slice. -/
theorem take_slice (bytes : List UInt8) (offset length count : Nat) :
    (slice bytes offset length).take count = slice bytes offset (min count length) := by
  rw [slice, slice, List.take_take]

/-- A slice of two lengths is two slices, one behind the other. -/
theorem slice_add (bytes : List UInt8) (offset length more : Nat) :
    slice bytes offset (length + more) =
      slice bytes offset length ++ slice bytes (offset + length) more := by
  rw [slice, slice, slice, List.take_add, List.drop_drop]

/-- Slices of one size that follow one another are one slice. -/
theorem flatMap_slice_range (bytes : List UInt8) (offset size count : Nat) :
    ((List.range count).flatMap fun index => slice bytes (offset + index * size) size) =
      slice bytes offset (count * size) := by
  induction count with
  | zero => simp [slice]
  | succ count ih =>
    rw [List.range_succ, List.flatMap_append, ih, List.flatMap_singleton, Nat.succ_mul, slice_add]

/-! ### Blocks -/

/-- The `size` bytes of `bytes` from `offset` on, with zeros in place of those past its end. -/
def blockAt (bytes : List UInt8) (offset size : Nat) : Vector UInt8 size :=
  let found := slice bytes offset size
  ⟨(found ++ List.replicate (size - found.length) 0).toArray, by
    simp only [List.size_toArray, List.length_append, List.length_replicate, found, length_slice]
    omega⟩

/-- A block that lies within the list is a slice of it. -/
theorem toList_blockAt {bytes : List UInt8} {offset size : Nat}
    (h : offset + size ≤ bytes.length) :
    (blockAt bytes offset size).toList = slice bytes offset size := by
  have : size - (slice bytes offset size).length = 0 := by rw [length_slice]; omega
  simp [blockAt, Vector.toList, this]

/-- Collects whole blocks until fewer than `size + 1` bytes are left; `found` holds the blocks met
so far, newest first. -/
def blocksFrom (size : Nat) (found : List (Vector UInt8 (size + 1))) (bytes : List UInt8) :
    List (Vector UInt8 (size + 1)) :=
  if h : (bytes.take (size + 1)).length = size + 1 then
    blocksFrom size (⟨(bytes.take (size + 1)).toArray, by simpa using h⟩ :: found)
      (bytes.drop (size + 1))
  else
    found.reverse
termination_by bytes.length
decreasing_by
  simp only [List.length_take, List.length_drop] at h ⊢
  omega

/-- The whole blocks of `size + 1` bytes that `bytes` starts with; an incomplete rest is left
out. -/
def blocks (size : Nat) (bytes : List UInt8) : List (Vector UInt8 (size + 1)) :=
  blocksFrom size [] bytes

/-- The blocks found before stand in front of those of the bytes that are left. -/
theorem blocksFrom_eq_append (size : Nat) (found : List (Vector UInt8 (size + 1)))
    (bytes : List UInt8) :
    blocksFrom size found bytes = found.reverse ++ blocks size bytes := by
  induction hn : bytes.length using Nat.strongRecOn generalizing bytes found with
  | ind n ih =>
    subst hn
    rw [blocks, blocksFrom, blocksFrom]
    split
    · rename_i h
      have shorter : (bytes.drop (size + 1)).length < bytes.length := by simp at h ⊢; omega
      rw [ih _ shorter _ _ rfl, ih _ shorter [_] _ rfl]
      simp
    · simp

/-- Too few bytes for a block have no blocks. -/
theorem blocks_of_length_lt {size : Nat} {bytes : List UInt8} (h : bytes.length ≤ size) :
    blocks size bytes = [] := by
  rw [blocks, blocksFrom, dif_neg (by simp; omega)]
  rfl

/-- A block in front of other bytes is the first of their blocks. -/
theorem blocks_append {size : Nat} (block : Vector UInt8 (size + 1)) (rest : List UInt8) :
    blocks size (block.toList ++ rest) = block :: blocks size rest := by
  have hlen : block.toList.length = size + 1 := by simp
  rw [blocks, blocksFrom]
  have htake : (block.toList ++ rest).take (size + 1) = block.toList := by
    rw [List.take_append_of_le_length (by omega), List.take_of_length_le (by omega)]
  have hdrop : (block.toList ++ rest).drop (size + 1) = rest := by
    rw [List.drop_append, List.drop_eq_nil_of_le (by omega), hlen]
    simp
  rw [dif_pos (by rw [htake, hlen]), blocksFrom_eq_append, hdrop]
  simp only [htake, List.reverse_singleton, List.singleton_append, List.cons.injEq, and_true]
  exact Vector.toList_inj.mp (by simp [Vector.toList])

end BootExtents.Bytes
