import BootExtents.Text.Utf16

/-!
# UTF-8 with replacement

Bytes are read as characters from left to right. Where they spell none, the longest start of a
character's spelling (or else one byte) is skipped and counts as one unreadable character.

## Main definitions

* `BootExtents.Text.Utf8.lead?` — what the first byte of a character says about the others.
* `BootExtents.Text.Utf8.decode` — the characters of any bytes, `none` for each unreadable part.
* `BootExtents.Text.Utf8.lossy` — the text of any bytes, unreadable parts replaced.
* `BootExtents.Text.Utf8.strict?` — the characters of bytes that are readable as a whole.
-/

set_option relaxedAutoImplicit false
set_option autoImplicit false

namespace BootExtents.Text.Utf8

/-- The inclusive bounds of a byte that may follow. -/
abbrev Bounds := UInt8 × UInt8

/-- The bounds of an ordinary continuation byte. -/
def trail : Bounds := (0x80, 0xBF)

/-- The high bits of the character that a first byte starts, and the bounds of the bytes that must
follow it. Spellings that are too long, surrogates and code points above `U+10FFFF` are excluded by
the bounds of the second byte. -/
def lead? (byte : UInt8) : Option (Nat × List Bounds) :=
  if byte < 0x80 then some (byte.toNat, [])
  else if byte < 0xC2 then none
  else if byte < 0xE0 then some (byte.toNat - 0xC0, [trail])
  else if byte = 0xE0 then some (0, [(0xA0, 0xBF), trail])
  else if byte = 0xED then some (0xD, [(0x80, 0x9F), trail])
  else if byte < 0xF0 then some (byte.toNat - 0xE0, [trail, trail])
  else if byte = 0xF0 then some (0, [(0x90, 0xBF), trail, trail])
  else if byte < 0xF4 then some (byte.toNat - 0xF0, [trail, trail, trail])
  else if byte = 0xF4 then some (4, [(0x80, 0x8F), trail, trail])
  else none

/-- Adds the bits of the bytes that must follow. Returns the code point, or `none` at the first byte
out of bounds, and the bytes that were not used. -/
def follow (code : Nat) : List Bounds → List UInt8 → Option Nat × List UInt8
  | [], bytes => (some code, bytes)
  | _ :: _, [] => (none, [])
  | (low, high) :: bounds, byte :: bytes =>
    if low ≤ byte && byte ≤ high then
      follow (code * 64 + (byte.toNat - 0x80)) bounds bytes
    else
      (none, byte :: bytes)

/-- Bytes that follow are taken off the front. -/
theorem length_follow_le (code : Nat) (bounds : List Bounds) (bytes : List UInt8) :
    (follow code bounds bytes).2.length ≤ bytes.length := by
  induction bounds generalizing code bytes with
  | nil => simp [follow]
  | cons bound bounds ih =>
    cases bytes with
    | nil => simp [follow]
    | cons byte bytes =>
      simp only [follow]
      split
      · exact Nat.le_succ_of_le (ih _ _)
      · simp

/-- The characters of any bytes, behind those found before, which are given newest first. -/
def decodeFrom (found : List (Option Char)) : List UInt8 → List (Option Char)
  | [] => found.reverse
  | byte :: rest =>
    match lead? byte with
    | none => decodeFrom (none :: found) rest
    | some (high, bounds) =>
      decodeFrom ((follow high bounds rest).1.map Char.ofNat :: found) (follow high bounds rest).2
termination_by bytes => bytes.length
decreasing_by
  · simp only [List.length_cons]; omega
  · have := length_follow_le high bounds rest
    simp only [List.length_cons]; omega

/-- The characters of any bytes, `none` for each part that spells none. -/
def decode (bytes : List UInt8) : List (Option Char) :=
  decodeFrom [] bytes

/-- What was found before stands in front of what the other bytes spell. -/
theorem decodeFrom_eq_append (found : List (Option Char)) (bytes : List UInt8) :
    decodeFrom found bytes = found.reverse ++ decode bytes := by
  induction hn : bytes.length using Nat.strongRecOn generalizing bytes found with
  | ind n ih =>
    subst hn
    cases bytes with
    | nil => simp [decode, decodeFrom]
    | cons byte rest =>
      rw [decode, decodeFrom, decodeFrom]
      split
      · rw [ih _ (by simp) _ _ rfl, ih _ (by simp) [_] _ rfl]
        simp
      · rename_i high bounds _
        have shorter := length_follow_le high bounds rest
        rw [ih _ (by simp; omega) _ _ rfl, ih _ (by simp; omega) [_] _ rfl]
        simp

/-- No bytes spell nothing. -/
@[simp] theorem decode_nil : decode [] = [] := by
  rw [decode, decodeFrom]
  rfl

/-- A byte that starts a character is read with those that follow it, and reading goes on behind
them. -/
theorem decode_cons_of_some {byte : UInt8} {high : Nat} {bounds : List Bounds}
    (h : lead? byte = some (high, bounds)) (rest : List UInt8) :
    decode (byte :: rest) =
      (follow high bounds rest).1.map Char.ofNat :: decode (follow high bounds rest).2 := by
  rw [decode, decodeFrom, h]
  exact decodeFrom_eq_append [_] _

/-- The text of any bytes, with `U+FFFD` for each unreadable part. -/
def lossy (bytes : List UInt8) : String :=
  String.ofList ((decode bytes).map (·.getD Utf16.replacement))

/-- The characters of bytes that are readable as a whole. -/
def strict? (bytes : List UInt8) : Option (List Char) :=
  (decode bytes).mapM id

/-- The bytes of a text. -/
def encode (text : String) : List UInt8 :=
  text.toList.flatMap String.utf8EncodeChar

end BootExtents.Text.Utf8
