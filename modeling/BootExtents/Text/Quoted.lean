import BootExtents.Text.Hidden

/-!
# Quoted text

Text between double quotes, on one line: quotes, backslashes and the common controls are written
with a backslash, all other characters that show nothing by their number.

## Main definitions

* `BootExtents.Text.escape` — one character as it stands between the quotes.
* `BootExtents.Text.quoted` — the whole text.
-/

set_option relaxedAutoImplicit false
set_option autoImplicit false

namespace BootExtents.Text

/-- A character as it stands between quotes. -/
def escape (c : Char) : List Char :=
  if c = '"' then ['\\', '"']
  else if c = '\\' then ['\\', '\\']
  else if c = '\n' then ['\\', 'n']
  else if c = '\r' then ['\\', 'r']
  else if c = '\t' then ['\\', 't']
  else if c.toNat = 0 then ['\\', '0']
  else if isHidden c then
    ['\\', 'u', '\x7b'] ++ Nat.toDigits 16 c.toNat ++ ['\x7d']
  else [c]

/-- The text between double quotes. -/
def quoted (text : String) : String :=
  String.ofList (['"'] ++ text.toList.flatMap escape ++ ['"'])

end BootExtents.Text
