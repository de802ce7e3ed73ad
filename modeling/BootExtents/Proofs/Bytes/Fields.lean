import BootExtents.Bytes.LittleEndian
import Mathlib

/-!
# Fields and tables of a byte list

A field that lies within a byte list and the number read from it stand for one another, and so do a
table of blocks and the bytes that it takes.

## Main results

* `BootExtents.Bytes.encode_u16At`, `encode_u32At`, `encode_u64At` — a number that was read is
  written as it stood.
* `BootExtents.Bytes.blockAt_of_slice`, `u16At_of_slice`, `u32At_of_slice`, `u64At_of_slice` — what
  was written is read.
* `BootExtents.Bytes.length_blocks` — how many whole blocks there are.
* `BootExtents.Bytes.flatMap_take_blocks` — the bytes of the first blocks.
* `BootExtents.Bytes.take_blocks_flatMap` — the blocks of pieces put together.
-/

set_option relaxedAutoImplicit false
set_option autoImplicit false

namespace BootExtents.Bytes

variable {bytes : List UInt8} {offset size count : Nat}

/-! ### Fields -/

/-- A field at the start. -/
lemma slice_zero_append {field : List UInt8} (rest : List UInt8) (hfield : field.length = size) :
    slice (field ++ rest) 0 size = field := by
  rw [slice, List.drop_zero, List.take_left' hfield]

/-- A field behind others. -/
lemma slice_append_of_length {front field : List UInt8} (rest : List UInt8)
    (hfront : front.length = offset) (hfield : field.length = size) :
    slice (front ++ (field ++ rest)) offset size = field := by
  rw [slice_append_right hfront.le, hfront, Nat.sub_self, slice_zero_append rest hfield]

/-- A field among others, whose lengths add up to its offset. -/
lemma slice_flatten {fields : List (List UInt8)} {index : Nat} {field : List UInt8}
    (hfield : fields[index]? = some field)
    (hoffset : ((fields.take index).map List.length).sum = offset) (hsize : field.length = size) :
    slice fields.flatten offset size = field := by
  obtain ⟨hindex, rfl⟩ := List.getElem?_eq_some_iff.1 hfield
  have hfields : fields = fields.take index ++ fields[index] :: fields.drop (index + 1) := by
    rw [List.cons_getElem_drop_succ, List.take_append_drop]
  conv_lhs => rw [hfields, List.flatten_append, List.flatten_cons]
  exact slice_append_of_length _ (List.length_flatten.trans hoffset) hsize

/-- A slice of a slice is a slice of the whole. -/
lemma slice_slice (bytes : List UInt8) (start : Nat) {length offset size : Nat}
    (h : offset + size ≤ length) :
    slice (slice bytes start length) offset size = slice bytes (start + offset) size := by
  simp only [slice, List.drop_take, List.take_take, List.drop_drop]
  rw [min_eq_left (by omega)]

/-- A slice that lies within the bytes has its full length. -/
lemma length_slice_of_le (h : offset + size ≤ bytes.length) :
    (slice bytes offset size).length = size := by
  rw [length_slice]
  omega

/-- Writing the number of a field gives the field. -/
lemma encode_decode_slice (h : offset + size ≤ bytes.length) :
    LittleEndian.encode size (LittleEndian.decode (slice bytes offset size)) =
      slice bytes offset size := by
  have hencode := LittleEndian.encode_decode (slice bytes offset size)
  rwa [length_slice_of_le h] at hencode

/-- The number of a field of `size` bytes. -/
lemma decode_slice_lt (h : offset + size ≤ bytes.length) :
    LittleEndian.decode (slice bytes offset size) < 256 ^ size := by
  have := LittleEndian.decode_lt (slice bytes offset size)
  rwa [length_slice_of_le h] at this

/-- A byte that was read is the field of one byte. -/
theorem singleton_getD (h : offset < bytes.length) :
    [bytes.getD offset 0] = slice bytes offset 1 := by
  rw [slice, List.take_one_drop_eq_of_lt_length h]
  simp [List.getD, h]

/-- A 16-bit number that was read is written as it stood. -/
theorem encode_u16At (h : offset + 2 ≤ bytes.length) :
    LittleEndian.encode 2 (u16At bytes offset).toNat = slice bytes offset 2 := by
  have hvalue : (u16At bytes offset).toNat = LittleEndian.decode (slice bytes offset 2) :=
    UInt16.toNat_ofNat_of_lt (decode_slice_lt h)
  rw [hvalue, encode_decode_slice h]

/-- A 32-bit number that was read is that of its four bytes. -/
lemma toNat_u32At (h : offset + 4 ≤ bytes.length) :
    (u32At bytes offset).toNat = LittleEndian.decode (slice bytes offset 4) :=
  UInt32.toNat_ofNat_of_lt (decode_slice_lt h)

/-- A 32-bit number that was read is written as it stood. -/
theorem encode_u32At (h : offset + 4 ≤ bytes.length) :
    LittleEndian.encode 4 (u32At bytes offset).toNat = slice bytes offset 4 := by
  rw [toNat_u32At h, encode_decode_slice h]

/-- The four bytes that a 32-bit number was read of, the low one first. -/
theorem exists_bytes_of_u32At (h : offset + 4 ≤ bytes.length) :
    ∃ byte₀ byte₁ byte₂ byte₃ : UInt8, slice bytes offset 4 = [byte₀, byte₁, byte₂, byte₃] ∧
      (u32At bytes offset).toNat = byte₀.toNat + 2 ^ 8 * byte₁.toNat + 2 ^ 16 * byte₂.toNat +
        2 ^ 24 * byte₃.toNat := by
  obtain ⟨byte₀, byte₁, byte₂, byte₃, hbytes⟩ := List.length_eq_four.1 (length_slice_of_le h)
  refine ⟨byte₀, byte₁, byte₂, byte₃, hbytes, ?_⟩
  rw [toNat_u32At h, hbytes]
  simp only [LittleEndian.decode]
  omega

/-- A 64-bit number that was read is written as it stood. -/
theorem encode_u64At (h : offset + 8 ≤ bytes.length) :
    LittleEndian.encode 8 (u64At bytes offset).toNat = slice bytes offset 8 := by
  have hvalue : (u64At bytes offset).toNat = LittleEndian.decode (slice bytes offset 8) :=
    UInt64.toNat_ofNat_of_lt (decode_slice_lt h)
  rw [hvalue, encode_decode_slice h]

/-- A block that was written is read. -/
theorem blockAt_of_slice {block : Vector UInt8 size}
    (h : slice bytes offset size = block.toList) : blockAt bytes offset size = block := by
  have hlength : size - (slice bytes offset size).length = 0 := by
    rw [h, Vector.length_toList, Nat.sub_self]
  refine Vector.toList_inj.1 ?_
  rw [← h]
  simp [blockAt, Vector.toList, hlength]

/-- A 16-bit number that was written is read. -/
theorem u16At_of_slice {value : UInt16}
    (h : slice bytes offset 2 = LittleEndian.encode 2 value.toNat) :
    u16At bytes offset = value := by
  rw [u16At, h, LittleEndian.decode_encode, Nat.mod_eq_of_lt value.toNat_lt]
  exact UInt16.ofNat_toNat

/-- A 32-bit number that was written is read. -/
theorem u32At_of_slice {value : UInt32}
    (h : slice bytes offset 4 = LittleEndian.encode 4 value.toNat) :
    u32At bytes offset = value := by
  rw [u32At, h, LittleEndian.decode_encode, Nat.mod_eq_of_lt value.toNat_lt]
  exact UInt32.ofNat_toNat

/-- A 64-bit number that was written is read. -/
theorem u64At_of_slice {value : UInt64}
    (h : slice bytes offset 8 = LittleEndian.encode 8 value.toNat) :
    u64At bytes offset = value := by
  rw [u64At, h, LittleEndian.decode_encode, Nat.mod_eq_of_lt value.toNat_lt]
  exact UInt64.ofNat_toNat

/-! ### Tables -/

/-- The first block is made of the first bytes. -/
lemma exists_blocks_cons {size : Nat} {bytes : List UInt8} (h : size + 1 ≤ bytes.length) :
    ∃ block : Vector UInt8 (size + 1), block.toList = bytes.take (size + 1) ∧
      blocks size bytes = block :: blocks size (bytes.drop (size + 1)) := by
  have hlength : (bytes.take (size + 1)).length = size + 1 := by
    rw [List.length_take]
    omega
  refine ⟨⟨(bytes.take (size + 1)).toArray, by simpa using hlength⟩, by simp [Vector.toList], ?_⟩
  rw [← blocks_append]
  congr 1
  simp [Vector.toList]

/-- There are as many whole blocks as fit into the bytes.

**Proof sketch.** Induction on the number of bytes: the first block takes `size + 1` of them. -/
theorem length_blocks (size : Nat) (bytes : List UInt8) :
    (blocks size bytes).length = bytes.length / (size + 1) := by
  induction hn : bytes.length using Nat.strongRecOn generalizing bytes with
  | ind n ih =>
    subst hn
    rcases Nat.lt_or_ge size bytes.length with hmore | hless
    · obtain ⟨block, -, hblocks⟩ := exists_blocks_cons hmore
      have hrest := ih _ (by rw [List.length_drop]; omega) (bytes.drop (size + 1)) rfl
      rw [hblocks, List.length_cons, hrest, List.length_drop,
        Nat.div_eq_sub_div (Nat.succ_pos size) hmore]
    · rw [blocks_of_length_lt hless, List.length_nil, Nat.div_eq_of_lt (by omega)]

/-- The bytes of the first `count` blocks are the first bytes. -/
theorem flatMap_take_blocks (h : count * (size + 1) ≤ bytes.length) :
    ((blocks size bytes).take count).flatMap (·.toList) = bytes.take (count * (size + 1)) := by
  induction count generalizing bytes with
  | zero => simp
  | succ count ih =>
    rw [Nat.succ_mul] at h
    have hfirst : size + 1 ≤ bytes.length := by omega
    have hothers : count * (size + 1) ≤ (bytes.drop (size + 1)).length := by
      rw [List.length_drop]
      omega
    obtain ⟨block, hblock, hblocks⟩ := exists_blocks_cons hfirst
    have hrest := ih hothers
    rw [hblocks, List.take_succ_cons, List.flatMap_cons, hrest, hblock, Nat.succ_mul,
      Nat.add_comm (count * (size + 1))]
    exact List.take_add.symm

/-- Pieces of one size, put together in front of other bytes, are the first blocks. -/
theorem take_blocks_flatMap {α : Type} {items : List α} {piece : α → Vector UInt8 (size + 1)}
    (rest : List UInt8) :
    (blocks size (items.flatMap (fun item => (piece item).toList) ++ rest)).take items.length =
      items.map piece := by
  induction items with
  | nil => simp
  | cons item items ih =>
    rw [List.flatMap_cons, List.append_assoc, blocks_append, List.length_cons,
      List.take_succ_cons, ih, List.map_cons]

end BootExtents.Bytes
