/-!
# Blank characters

The characters with the Unicode property `White_Space`, and text without them at its ends.

## Main definitions

* `BootExtents.Text.isBlank` — the property.
* `BootExtents.Text.trimmed` — the characters between the outermost non-blank ones.
-/

set_option relaxedAutoImplicit false
set_option autoImplicit false

namespace BootExtents.Text

/-- The ranges of blank code points, both ends included. -/
def blankRanges : List (Nat × Nat) :=
  [(0x9, 0xD), (0x20, 0x20), (0x85, 0x85), (0xA0, 0xA0), (0x1680, 0x1680), (0x2000, 0x200A),
    (0x2028, 0x2029), (0x202F, 0x202F), (0x205F, 0x205F), (0x3000, 0x3000)]

/-- Whether a character is blank. -/
def isBlank (c : Char) : Bool :=
  blankRanges.any fun (first, last) => first ≤ c.toNat && c.toNat ≤ last

/-- The characters of a text without the blank ones at both ends. -/
def trimmed (text : List Char) : List Char :=
  ((text.dropWhile isBlank).reverse.dropWhile isBlank).reverse

end BootExtents.Text
