/-!
# UTF-16 code units

Names on an exFAT volume are rows of 16-bit units. A character above `U+FFFF` takes two of them, a
high surrogate and a low one; a surrogate that is not half of such a pair stands for no character
and is read as `U+FFFD`.

## Main definitions

* `BootExtents.Text.Utf16.encode` — the units of a text.
* `BootExtents.Text.Utf16.decode` — the text of any units.
-/

set_option relaxedAutoImplicit false
set_option autoImplicit false

namespace BootExtents.Text.Utf16

/-- The character that stands for what cannot be read. -/
def replacement : Char := '\uFFFD'

/-- The units of one character. -/
def encodeChar (c : Char) : List UInt16 :=
  if c.toNat < 0x10000 then
    [c.toNat.toUInt16]
  else
    [(0xD800 + (c.toNat - 0x10000) / 0x400).toUInt16, (0xDC00 + (c.toNat - 0x10000) % 0x400).toUInt16]

/-- The units of a text. -/
def encode (text : String) : List UInt16 :=
  text.toList.flatMap encodeChar

/-- Whether a unit is the first half of a pair. -/
def isHigh (unit : UInt16) : Bool :=
  0xD800 ≤ unit && unit < 0xDC00

/-- Whether a unit is the second half of a pair. -/
def isLow (unit : UInt16) : Bool :=
  0xDC00 ≤ unit && unit < 0xE000

/-- The character of a pair of surrogates. -/
def joined (high low : UInt16) : Char :=
  Char.ofNat (0x10000 + (high.toNat - 0xD800) * 0x400 + (low.toNat - 0xDC00))

/-- The characters of any units, each lone surrogate replaced. -/
def decodeChars : List UInt16 → List Char
  | [] => []
  | [unit] => [if isHigh unit || isLow unit then replacement else Char.ofNat unit.toNat]
  | unit :: next :: rest =>
    if isHigh unit then
      if isLow next then joined unit next :: decodeChars rest
      else replacement :: decodeChars (next :: rest)
    else if isLow unit then replacement :: decodeChars (next :: rest)
    else Char.ofNat unit.toNat :: decodeChars (next :: rest)

/-- The text of any units, each lone surrogate replaced. -/
def decode (units : List UInt16) : String :=
  String.ofList (decodeChars units)

end BootExtents.Text.Utf16
