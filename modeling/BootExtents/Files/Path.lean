/-!
# Paths

## Main definitions

* `BootExtents.Path.join` — a path below another one.
* `BootExtents.Path.components` — the names on a path.
* `BootExtents.Path.maxSize`, `maxNameSize` — the limits of a system.
-/

set_option relaxedAutoImplicit false
set_option autoImplicit false

namespace BootExtents.Path

/-- The path of `part` as seen from `base`. An absolute part stands for itself; otherwise the two
are joined by a slash, unless the base is empty or ends in one. -/
def join (base part : String) : String :=
  if part.toList.head? = some '/' then part
  else if base.toList = [] ∨ base.toList.getLast? = some '/' then base ++ part
  else base ++ "/" ++ part

/-- The names on a path. Repeated slashes and single dots say nothing. -/
def components (path : String) : List String :=
  (path.splitOn "/").filter fun name => name ≠ "" && name ≠ "."

/-- Whether a path names something only if it is a directory: it ends in a slash or a single
dot. -/
def endsInDirectory (path : String) : Bool :=
  match (path.splitOn "/").getLast? with
  | some name => name = "" || name = "."
  | none => false

/-- The most bytes that a path may have. -/
def maxSize : Nat := 4095

/-- The most bytes that a name on a path may have. -/
def maxNameSize : Nat := 255

end BootExtents.Path
