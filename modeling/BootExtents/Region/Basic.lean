import BootExtents.Identity

/-!
# Disk regions of an image

Where an image file lies on its disk: a list of regions, each a row of image units backed by as
many disk units as they need.

## Main definitions

* `BootExtents.Region` — one row of image units and where it lies.
* `BootExtents.RegionList` — the regions of an image, with the unit sizes.
* `BootExtents.RegionList.ofRegions` — the list in the usual units.
* `BootExtents.RegionList.unitRatio` — disk units in an image unit.
-/

set_option relaxedAutoImplicit false
set_option autoImplicit false

namespace BootExtents

/-- The bytes of an image unit. -/
def imageUnitSize : Nat := 2048

/-- The bytes of a disk unit. -/
def diskUnitSize : Nat := 512

/-- An image unit has some bytes. -/
theorem imageUnitSize_pos : 0 < imageUnitSize := by decide

/-- A disk unit has some bytes. -/
theorem diskUnitSize_pos : 0 < diskUnitSize := by decide

/-- The disk units that back one image unit. -/
def unitsPerImageUnit : Nat := imageUnitSize / diskUnitSize

/-- A row of image units, and the disk unit where it starts. -/
structure Region where
  /-- The first image unit. -/
  imageStart : UInt32
  /-- The number of image units. -/
  imageCount : UInt32
  /-- The disk unit where they start. -/
  diskStart : UInt64
deriving DecidableEq, Repr, Inhabited

/-- The regions of an image, in the order of the image. -/
structure RegionList where
  /-- The identity of the boot stage, if the list is its own. -/
  identity : Identity
  /-- The bytes of an image unit. -/
  imageUnit : UInt32
  /-- The bytes of a disk unit. -/
  diskUnit : UInt32
  /-- The regions. -/
  regions : List Region
deriving DecidableEq

namespace RegionList

/-- The regions as a list of the boot stage, in the usual units. -/
def ofRegions (regions : List Region) : RegionList :=
  { identity := bootIdentity
    imageUnit := imageUnitSize.toUInt32
    diskUnit := diskUnitSize.toUInt32
    regions }

/-- Whether the list carries the identity of the boot stage. -/
def isGenuine (list : RegionList) : Bool :=
  list.identity = bootIdentity

/-- The number of disk units in an image unit. -/
def unitRatio (list : RegionList) : Nat :=
  list.imageUnit.toNat / list.diskUnit.toNat

/-- A list of the boot stage has the usual ratio of units. -/
@[simp] theorem unitRatio_ofRegions (regions : List Region) :
    (ofRegions regions).unitRatio = unitsPerImageUnit := by
  show imageUnitSize.toUInt32.toNat / diskUnitSize.toUInt32.toNat = unitsPerImageUnit
  decide

/-- A list of the boot stage carries its identity. -/
@[simp] theorem isGenuine_ofRegions (regions : List Region) :
    (ofRegions regions).isGenuine = true := by
  simp [isGenuine, ofRegions]

end RegionList

end BootExtents
