import BootExtents.Bytes.LittleEndian
import BootExtents.Inquiry.Basic
import BootExtents.Region.Basic

/-!
# The stored form of a region list

A header of 28 bytes — identity, size of an image unit, size of a disk unit, number of regions —
and 16 bytes for each region: its count, its start in the image, its start on the disk. All numbers
are little-endian. Bytes behind the last region are ignored.

## Main definitions

* `BootExtents.RegionList.toBytes`, `ofBytes` — writing and reading.
* `BootExtents.RegionList.read` — reading, with a warning about a wrong number of regions.
-/

set_option relaxedAutoImplicit false
set_option autoImplicit false

namespace BootExtents

namespace Region

/-- The 16 bytes of a region. The count comes before the start. -/
def toBytes (region : Region) : List UInt8 :=
  LittleEndian.encode 4 region.imageCount.toNat ++
    (LittleEndian.encode 4 region.imageStart.toNat ++
      LittleEndian.encode 8 region.diskStart.toNat)

/-- The region that 16 bytes stand for. -/
def ofBlock (block : Vector UInt8 16) : Region :=
  { imageCount := Bytes.u32At block.toList 0
    imageStart := Bytes.u32At block.toList 4
    diskStart := Bytes.u64At block.toList 8 }

/-- Every region takes 16 bytes. -/
@[simp] theorem length_toBytes (region : Region) : region.toBytes.length = 16 := by
  simp [toBytes]

end Region

namespace RegionList

/-- The number of bytes of the header. -/
def headerSize : Nat := 28

/-- The number of bytes of a region. -/
def regionSize : Nat := 16

/-- The bytes of a list. -/
def toBytes (list : RegionList) : List UInt8 :=
  list.identity.toList ++ (LittleEndian.encode 4 list.imageUnit.toNat ++
    (LittleEndian.encode 4 list.diskUnit.toNat ++
    (LittleEndian.encode 4 list.regions.length ++ list.regions.flatMap Region.toBytes)))

/-- The list that bytes start with. Unit sizes must not be zero, an image unit must be a whole
number of disk units, and all regions announced must be there. -/
def ofBytes (bytes : List UInt8) : Except Corruption RegionList :=
  if bytes.length < headerSize then
    .error .locationHeader
  else
    let imageUnit := Bytes.u32At bytes 16
    let diskUnit := Bytes.u32At bytes 20
    let count := (Bytes.u32At bytes 24).toNat
    if imageUnit = 0 ∨ diskUnit = 0 ∨ imageUnit % diskUnit ≠ 0 then
      .error .unitSize
    else if (bytes.length - headerSize) / regionSize < count then
      .error (.regionCount count bytes.length)
    else
      .ok
        { identity := Bytes.blockAt bytes 0 16
          imageUnit, diskUnit
          regions := ((Bytes.blocks 15 (bytes.drop headerSize)).take count).map Region.ofBlock }

/-- Reads a list, and warns if it announces more regions than are there. -/
def read {I : Interface} (bytes : List UInt8) : Inquiry I Error RegionList :=
  match ofBytes bytes with
  | .ok list => .done list
  | .error (.regionCount count size) =>
    .warn (.regionCount count size) (.fail (.corrupted (.regionCount count size)))
  | .error what => .fail (.corrupted what)

end RegionList

end BootExtents
