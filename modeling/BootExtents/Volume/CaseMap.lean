import BootExtents.Text.Utf16

/-!
# The case map of a volume

Names on a volume are compared after each unit is mapped to upper case. The map is stored on the
volume as a row of units, the image of each unit at its place; a long run of units that map to
themselves may be written as `0xFFFF` and its length. Units beyond the map map to themselves.

## Main definitions

* `BootExtents.CaseMap` — the units that the first units are mapped to.
* `BootExtents.CaseMap.decode` — the map that stored units describe.
* `BootExtents.CaseMap.upper` — the image of a unit.
* `BootExtents.CaseMap.upperName` — the units of a name, mapped.
-/

set_option relaxedAutoImplicit false
set_option autoImplicit false

namespace BootExtents

/-- The images of the units from 0 on. -/
structure CaseMap where
  /-- The image of each unit at its place. -/
  images : Array UInt16
deriving DecidableEq, Inhabited

namespace CaseMap

/-- The number of all units, and of the images of a full map. -/
def capacity : Nat := 0x10000

/-- The unit that starts a run of units which map to themselves. -/
def runMark : UInt16 := 0xFFFF

/-- Appends the images of `count` units that map to themselves, as far as there is room. -/
def pushRun (images : Array UInt16) (count : Nat) : Array UInt16 :=
  (List.range' images.size (min count (capacity - images.size))).foldl
    (fun images unit => images.push unit.toUInt16) images

/-- Appends the images that stored units describe, as far as there is room. -/
def decodeFrom (images : Array UInt16) : List UInt16 → Array UInt16
  | [] => images
  | [unit] =>
    if capacity ≤ images.size ∨ unit = runMark then images else images.push unit
  | unit :: next :: rest =>
    if capacity ≤ images.size then images
    else if unit = runMark then decodeFrom (pushRun images next.toNat) rest
    else decodeFrom (images.push unit) (next :: rest)

/-- The map that stored units describe. -/
def decode (units : List UInt16) : CaseMap :=
  ⟨decodeFrom #[] units⟩

/-- The image of a unit. -/
def upper (map : CaseMap) (unit : UInt16) : UInt16 :=
  map.images[unit.toNat]?.getD unit

/-- The units of a name, each mapped. -/
def upperName (map : CaseMap) (name : String) : List UInt16 :=
  (Text.Utf16.encode name).map map.upper

end CaseMap

end BootExtents
