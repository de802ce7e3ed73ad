import BootExtents.Text.Utf8
import Mathlib

/-!
# Reading back UTF-8

The bytes of characters that are cut off at any place are read as the characters that lie before the
cut. What is left of one that the cut goes through counts as one unreadable part.

## Main definitions

* `BootExtents.Text.Utf8.IsSpelling` — a first byte and the ones that it asks for.
* `BootExtents.Text.Utf8.size` — the number of bytes of characters.
* `BootExtents.Text.Utf8.IsLongestFit` — as many characters as have room.

## Main results

* `BootExtents.Text.Utf8.exists_isSpelling` — each character is spelled by its bytes.
* `BootExtents.Text.Utf8.isLongestFit_fit` — the characters that have room can be computed.
* `BootExtents.Text.Utf8.decode_take` — what is read of bytes that are cut off.
* `BootExtents.Text.Utf8.takeWhile_flatMap` — a zero byte is a character of its own.
-/

set_option relaxedAutoImplicit false
set_option autoImplicit false

namespace BootExtents.Text.Utf8

/-! ### Spellings -/

/-- A byte lies within bounds. -/
def Within (bounds : Bounds) (byte : UInt8) : Prop :=
  bounds.1 ≤ byte ∧ byte ≤ bounds.2

/-- Such a byte is followed. -/
lemma Within.accepted {bound : Bounds} {byte : UInt8} (h : Within bound byte) :
    (decide (bound.1 ≤ byte) && decide (byte ≤ bound.2)) = true := by
  simpa [Within] using h

/-- The code point of some high bits and the bytes that follow. -/
def codeOf (high : Nat) (following : List UInt8) : Nat :=
  following.foldl (fun code byte => code * 64 + (byte.toNat - 0x80)) high

/-- Without bytes that follow, the code is that of the first byte. -/
@[simp] lemma codeOf_nil (high : Nat) : codeOf high [] = high := rfl

/-- A byte that follows has six bits of the code. -/
lemma codeOf_cons (high : Nat) (byte : UInt8) (following : List UInt8) :
    codeOf high (byte :: following) = codeOf (high * 64 + (byte.toNat - 0x80)) following := by
  rw [codeOf, codeOf, List.foldl_cons]

/-- Bytes spell a character: the first one asks for as many others as there are, all of them lie
within its bounds, and they make the character's code point. -/
def IsSpelling (lead : UInt8) (following : List UInt8) (c : Char) : Prop :=
  ∃ high bounds, lead? lead = some (high, bounds) ∧ List.Forall₂ Within bounds following ∧
    codeOf high following = c.toNat

variable {lead byte : UInt8} {following : List UInt8} {c : Char} {bounds : List Bounds}
  {count : Nat}

/-- Bytes within bounds are used up. -/
lemma follow_append (h : List.Forall₂ Within bounds following) (code : Nat) (rest : List UInt8) :
    follow code bounds (following ++ rest) = (some (codeOf code following), rest) := by
  induction h generalizing code with
  | nil => rfl
  | cons hbyte _ ih => rw [List.cons_append, follow, if_pos hbyte.accepted, ih, codeOf_cons]

/-- Bytes within bounds that are too few make no character, and none of them is left. -/
lemma follow_take (h : List.Forall₂ Within bounds following) (code : Nat)
    (hcut : count < following.length) :
    follow code bounds (following.take count) = (none, []) := by
  induction h generalizing code count with
  | nil => simp at hcut
  | cons hbyte _ ih =>
    cases count with
    | zero => rfl
    | succ count =>
      rw [List.take_succ_cons, follow, if_pos hbyte.accepted]
      exact ih _ (by simpa using hcut)

/-- A spelling is read as its character, whatever follows it. -/
lemma IsSpelling.decode_append (h : IsSpelling lead following c) (rest : List UInt8) :
    decode (lead :: following ++ rest) = some c :: decode rest := by
  obtain ⟨high, bounds, hlead, hbounds, hcode⟩ := h
  rw [List.cons_append, decode_cons_of_some hlead, follow_append hbounds, hcode, Option.map_some,
    Char.ofNat_toNat]

/-- A spelling that is cut off is one unreadable part. -/
lemma IsSpelling.decode_take (h : IsSpelling lead following c) (hcut : count < following.length) :
    decode (lead :: following.take count) = [none] := by
  obtain ⟨high, bounds, hlead, hbounds, -⟩ := h
  rw [decode_cons_of_some hlead, follow_take hbounds high hcut, decode_nil, Option.map_none]

/-! ### First bytes -/

/-- A byte below 0x80 is a character by itself. -/
lemma lead?_of_one (h : byte.toNat < 0x80) : lead? byte = some (byte.toNat, []) := by
  rw [lead?, if_pos (UInt8.lt_iff_toNat_lt.2 h)]

/-- The first byte of two. -/
lemma lead?_of_two (h : 0xC2 ≤ byte.toNat) (h' : byte.toNat < 0xE0) :
    lead? byte = some (byte.toNat - 0xC0, [trail]) := by
  unfold lead?
  simp only [UInt8.lt_iff_toNat_lt, UInt8.reduceToNat]
  rw [if_neg (by omega), if_neg (by omega), if_pos (by omega)]

/-- The first byte of three. Behind two of them the second byte has bounds of its own. -/
lemma lead?_of_three (h : 0xE0 ≤ byte.toNat) (h' : byte.toNat < 0xF0) :
    lead? byte = some (byte.toNat - 0xE0,
      [if byte.toNat = 0xE0 then (0xA0, 0xBF) else if byte.toNat = 0xED then (0x80, 0x9F)
        else trail, trail]) := by
  unfold lead?
  simp only [UInt8.lt_iff_toNat_lt, ← UInt8.toNat_inj, UInt8.reduceToNat]
  rw [if_neg (by omega), if_neg (by omega), if_neg (by omega)]
  split_ifs with hfirst hsurrogate
  · rw [hfirst]
  · rw [hsurrogate]
  · rfl

/-- The first byte of four. Behind two of them the second byte has bounds of its own. -/
lemma lead?_of_four (h : 0xF0 ≤ byte.toNat) (h' : byte.toNat ≤ 0xF4) :
    lead? byte = some (byte.toNat - 0xF0,
      [if byte.toNat = 0xF0 then (0x90, 0xBF) else if byte.toNat = 0xF4 then (0x80, 0x8F)
        else trail, trail, trail]) := by
  unfold lead?
  simp only [UInt8.lt_iff_toNat_lt, ← UInt8.toNat_inj, UInt8.reduceToNat]
  rw [if_neg (by omega), if_neg (by omega), if_neg (by omega), if_neg (by omega),
    if_neg (by omega), if_neg (by omega)]
  rcases eq_or_ne byte.toNat 0xF0 with hfirst | hother
  · rw [if_pos hfirst, if_pos hfirst, hfirst]
  rw [if_neg hother, if_neg hother]
  rcases eq_or_ne byte.toNat 0xF4 with hlast | hbelow
  · rw [if_neg (by omega), if_pos hlast, if_pos hlast, hlast]
  · rw [if_pos (by omega), if_neg hbelow]

/-! ### Encodings -/

/-- A small number is that of its byte. -/
lemma toNat_ofNat_of_le {value : Nat} (h : value ≤ 0xFF) : (UInt8.ofNat value).toNat = value := by
  rw [UInt8.toNat_ofNat']
  omega

/-- The byte of a number between two bounds is between them. -/
lemma within_ofNat {low high : UInt8} {value : Nat} (hlow : low.toNat ≤ value)
    (hhigh : value ≤ high.toNat) : Within (low, high) (UInt8.ofNat value) := by
  have hvalue : (UInt8.ofNat value).toNat = value :=
    toNat_ofNat_of_le (hhigh.trans (Nat.le_of_lt_succ high.toNat_lt))
  rw [Within, UInt8.le_iff_toNat_le, UInt8.le_iff_toNat_le, hvalue]
  exact ⟨hlow, hhigh⟩

/-- Six bits make an ordinary continuation byte. -/
lemma within_trail (code : Nat) : Within trail (UInt8.ofNat (code % 64 + 0x80)) := by
  apply within_ofNat <;> simp only [UInt8.reduceToNat] <;> omega

/-- A continuation byte adds its six bits. -/
lemma codeOf_cons_ofNat (high code : Nat) (following : List UInt8) :
    codeOf high (UInt8.ofNat (code % 64 + 0x80) :: following) =
      codeOf (high * 64 + code % 64) following := by
  rw [codeOf_cons, toNat_ofNat_of_le (by omega), Nat.add_sub_cancel]

/-- Characters up to 0x7F are spelled by themselves. -/
lemma isSpelling_one (h : c.toNat ≤ 0x7F) : IsSpelling (UInt8.ofNat c.toNat) [] c := by
  have hlead : (UInt8.ofNat c.toNat).toNat = c.toNat := toNat_ofNat_of_le (by omega)
  exact ⟨_, _, lead?_of_one (by omega), .nil, hlead⟩

/-- Characters up to 0x7FF are spelled in two bytes, six bits in the second one. -/
lemma isSpelling_two (h : 0x7F < c.toNat) (h' : c.toNat ≤ 0x7FF) :
    IsSpelling (UInt8.ofNat (c.toNat / 64 % 32 + 0xC0)) [UInt8.ofNat (c.toNat % 64 + 0x80)] c := by
  have hlead : (UInt8.ofNat (c.toNat / 64 % 32 + 0xC0)).toNat = c.toNat / 64 + 0xC0 := by
    rw [toNat_ofNat_of_le (by omega)]
    omega
  refine ⟨_, _, lead?_of_two (by omega) (by omega), .cons (within_trail _) .nil, ?_⟩
  rw [codeOf_cons_ofNat, codeOf_nil, hlead]
  omega

/-- Three bytes. The bounds of the second one exclude a code point that two bytes spell, and the
surrogates, which are no characters. -/
lemma isSpelling_three (h : 0x7FF < c.toNat) (h' : c.toNat ≤ 0xFFFF) :
    IsSpelling (UInt8.ofNat (c.toNat / 4096 % 16 + 0xE0))
      [UInt8.ofNat (c.toNat / 64 % 64 + 0x80), UInt8.ofNat (c.toNat % 64 + 0x80)] c := by
  have hvalid : c.toNat < 0xD800 ∨ 0xDFFF < c.toNat ∧ c.toNat < 0x110000 := c.valid
  have hlead : (UInt8.ofNat (c.toNat / 4096 % 16 + 0xE0)).toNat = c.toNat / 4096 + 0xE0 := by
    rw [toNat_ofNat_of_le (by omega)]
    omega
  refine ⟨_, _, lead?_of_three (by omega) (by omega), .cons ?_ (.cons (within_trail _) .nil), ?_⟩
  · rw [hlead]
    split_ifs with hfirst hsurrogate
    · apply within_ofNat <;> simp only [UInt8.reduceToNat] <;> omega
    · apply within_ofNat <;> simp only [UInt8.reduceToNat] <;> omega
    · exact within_trail _
  · rw [codeOf_cons_ofNat, codeOf_cons_ofNat, codeOf_nil, hlead]
    omega

/-- Four bytes. The bounds of the second one exclude a code point that three bytes spell, and what
lies above the last code point. -/
lemma isSpelling_four (h : 0xFFFF < c.toNat) :
    IsSpelling (UInt8.ofNat (c.toNat / 262144 % 8 + 0xF0))
      [UInt8.ofNat (c.toNat / 4096 % 64 + 0x80), UInt8.ofNat (c.toNat / 64 % 64 + 0x80),
        UInt8.ofNat (c.toNat % 64 + 0x80)] c := by
  have hvalid : c.toNat < 0xD800 ∨ 0xDFFF < c.toNat ∧ c.toNat < 0x110000 := c.valid
  have hlead : (UInt8.ofNat (c.toNat / 262144 % 8 + 0xF0)).toNat = c.toNat / 262144 + 0xF0 := by
    rw [toNat_ofNat_of_le (by omega)]
    omega
  refine ⟨_, _, lead?_of_four (by omega) (by omega),
    .cons ?_ (.cons (within_trail _) (.cons (within_trail _) .nil)), ?_⟩
  · rw [hlead]
    split_ifs with hfirst hlast
    · apply within_ofNat <;> simp only [UInt8.reduceToNat] <;> omega
    · apply within_ofNat <;> simp only [UInt8.reduceToNat] <;> omega
    · exact within_trail _
  · rw [codeOf_cons_ofNat, codeOf_cons_ofNat, codeOf_cons_ofNat, codeOf_nil, hlead]
    omega

/-- **Each character is spelled** by the bytes of its encoding. -/
theorem exists_isSpelling (c : Char) :
    ∃ lead following, String.utf8EncodeChar c = lead :: following ∧ IsSpelling lead following c := by
  simp only [String.utf8EncodeChar]
  split_ifs with hone htwo hthree
  · exact ⟨_, _, rfl, isSpelling_one hone⟩
  · exact ⟨_, _, rfl, isSpelling_two (not_le.1 hone) htwo⟩
  · exact ⟨_, _, rfl, isSpelling_three (not_le.1 htwo) hthree⟩
  · exact ⟨_, _, rfl, isSpelling_four (not_le.1 hthree)⟩

/-! ### Texts that are cut off -/

variable {room : Nat} {chars : List Char}

/-- The number of bytes of characters. -/
def size (chars : List Char) : Nat :=
  (chars.flatMap String.utf8EncodeChar).length

/-- No characters have no bytes. -/
@[simp] lemma size_nil : size [] = 0 := rfl

/-- The bytes of a first character are added to those of the others. -/
@[simp] lemma size_cons (c : Char) (chars : List Char) :
    size (c :: chars) = c.utf8Size + size chars := by
  rw [size, List.flatMap_cons, List.length_append, String.length_utf8EncodeChar, size]

/-- As many of the first characters as have room, none of them in part. -/
def fit (room : Nat) : List Char → List Char
  | [] => []
  | c :: chars => if c.utf8Size ≤ room then c :: fit (room - c.utf8Size) chars else []

/-- The longest start of characters that has room in some bytes. -/
structure IsLongestFit (room : Nat) (chars front : List Char) : Prop where
  isPrefix : front <+: chars
  size_le : size front ≤ room
  longest : ∀ other, other <+: chars → size other ≤ room → other <+: front

/-- Characters that have room fit as a whole. -/
lemma fit_of_size_le (h : size chars ≤ room) : fit room chars = chars := by
  induction chars generalizing room with
  | nil => rfl
  | cons c chars ih =>
    rw [size_cons] at h
    rw [fit, if_pos (by omega), ih (by omega)]

/-- The characters that fit are the longest front that fits. -/
lemma isLongestFit_fit (room : Nat) (chars : List Char) :
    IsLongestFit room chars (fit room chars) := by
  induction chars generalizing room with
  | nil => exact ⟨List.prefix_rfl, Nat.zero_le _, fun other hother _ => hother⟩
  | cons c chars ih =>
    rw [fit]
    split_ifs with hroom
    · have hrest := ih (room - c.utf8Size)
      refine ⟨List.cons_prefix_cons.2 ⟨rfl, hrest.isPrefix⟩, ?_, fun other hother hsize => ?_⟩
      · have := hrest.size_le
        rw [size_cons]
        omega
      · obtain rfl | ⟨others, rfl, hothers⟩ := List.prefix_cons_iff.1 hother
        · exact List.nil_prefix
        · rw [size_cons] at hsize
          exact List.cons_prefix_cons.2 ⟨rfl, hrest.longest others hothers (by omega)⟩
    · refine ⟨List.nil_prefix, Nat.zero_le _, fun other hother hsize => ?_⟩
      obtain rfl | ⟨others, rfl, -⟩ := List.prefix_cons_iff.1 hother
      · exact List.prefix_rfl
      · rw [size_cons] at hsize
        omega

/-- **What is read of characters that are cut off:** those that have room, and one unreadable part
if that leaves some bytes.

**Proof sketch.** Induction on the characters. One that has room is read, and the rest is cut off
where less room is left. Of one that has none, a start of its spelling is left, or nothing. -/
theorem decode_take (room : Nat) (chars : List Char) :
    decode ((chars.flatMap String.utf8EncodeChar).take room) = (fit room chars).map some ++
      if size (fit room chars) < min room (size chars) then [none] else [] := by
  induction chars generalizing room with
  | nil => simp [fit]
  | cons c chars ih =>
    obtain ⟨lead, following, hencode, hspelling⟩ := exists_isSpelling c
    have hlength : (lead :: following).length = c.utf8Size := by
      rw [← hencode, String.length_utf8EncodeChar]
    rw [List.flatMap_cons, hencode, fit, size_cons]
    rcases le_or_gt c.utf8Size room with hroom | hroom
    · have hcut : c.utf8Size + size (fit (room - c.utf8Size) chars) <
          min room (c.utf8Size + size chars) ↔
            size (fit (room - c.utf8Size) chars) < min (room - c.utf8Size) (size chars) := by
        omega
      rw [if_pos hroom, size_cons, List.take_append, List.take_of_length_le (by omega),
        hspelling.decode_append, hlength, ih]
      simp only [hcut, List.map_cons, List.cons_append]
    rw [if_neg (not_le.2 hroom), List.take_append_of_le_length (by omega)]
    cases room with
    | zero => simp
    | succ room =>
      rw [List.take_succ_cons, hspelling.decode_take (by simpa [← hlength] using hroom),
        if_pos (by simp; omega)]
      rfl

/-- So the text of characters that are cut off is all of them, or those that have room and one
replacement if that leaves some bytes. -/
theorem lossy_take (room : Nat) (chars : List Char) :
    lossy ((chars.flatMap String.utf8EncodeChar).take room) =
      String.ofList (if size chars ≤ room then chars
        else fit room chars ++ if size (fit room chars) < room then [Utf16.replacement] else []) := by
  have hreplaced : (fit room chars).map ((·.getD Utf16.replacement) ∘ some) = fit room chars :=
    List.map_id _
  rw [lossy, decode_take, List.map_append, List.map_map, hreplaced]
  rcases le_or_gt (size chars) room with hall | hcut
  · rw [if_pos hall, fit_of_size_le hall, if_neg (by omega), List.map_nil, List.append_nil]
  · rw [if_neg (not_le.2 hcut), min_eq_left hcut.le]
    split_ifs with hroom
    · rfl
    · rfl

/-! ### Zero bytes -/

/-- A byte is not zero if its number is not. -/
lemma ofNat_ne_zero {value : Nat} (hvalue : 0 < value) (h : value ≤ 0xFF) :
    UInt8.ofNat value ≠ 0 := fun hzero => by
  rw [← toNat_ofNat_of_le h, hzero] at hvalue
  exact hvalue.ne rfl

/-- The zero byte spells the character of code zero and is in no other spelling. -/
lemma ne_zero_of_mem_utf8EncodeChar (hc : c ≠ '\x00') (hbyte : byte ∈ String.utf8EncodeChar c) :
    byte ≠ 0 := by
  have hcode : c.val.toNat ≠ 0 := fun hzero => hc (Char.ext (UInt32.toNat_inj.1 hzero))
  simp only [String.utf8EncodeChar] at hbyte
  split_ifs at hbyte with hone htwo hthree
  · rw [List.mem_singleton.1 hbyte]
    exact ofNat_ne_zero (by omega) (by omega)
  -- every byte of the longer spellings has its highest bit set
  all_goals
    simp only [List.mem_cons, List.not_mem_nil, or_false] at hbyte
    rcases hbyte with rfl | rfl | rfl | rfl <;> exact ofNat_ne_zero (by omega) (by omega)

/-- The characters up to the one of code zero are spelled by the bytes up to the zero byte. -/
lemma takeWhile_flatMap (chars : List Char) :
    (chars.flatMap String.utf8EncodeChar).takeWhile (· ≠ 0) =
      (chars.takeWhile (· ≠ '\x00')).flatMap String.utf8EncodeChar := by
  induction chars with
  | nil => rfl
  | cons c chars ih =>
    rcases eq_or_ne c '\x00' with rfl | hc
    · rfl
    · rw [List.flatMap_cons, List.takeWhile_append_of_pos, ih, List.takeWhile_cons_of_pos,
        List.flatMap_cons]
      · simpa using hc
      · exact fun byte hbyte => by simpa using ne_zero_of_mem_utf8EncodeChar hc hbyte

end BootExtents.Text.Utf8
