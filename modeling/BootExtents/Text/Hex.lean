/-!
# Hexadecimal numbers of a least width

## Main definitions

* `BootExtents.Text.Hex.lower` — a number in lower-case digits, with leading zeros to a width.
* `BootExtents.Text.Hex.upper` — the same in upper-case digits.
-/

set_option relaxedAutoImplicit false
set_option autoImplicit false

namespace BootExtents.Text.Hex

/-- The digits of a number in base sixteen, with leading zeros up to `width` digits. -/
def digits (width n : Nat) : List Char :=
  let shown := Nat.toDigits 16 n
  List.replicate (width - shown.length) '0' ++ shown

/-- A number in lower-case digits, at least `width` of them. -/
def lower (width n : Nat) : String :=
  String.ofList (digits width n)

/-- A number in upper-case digits, at least `width` of them. -/
def upper (width n : Nat) : String :=
  String.ofList ((digits width n).map Char.toUpper)

end BootExtents.Text.Hex
