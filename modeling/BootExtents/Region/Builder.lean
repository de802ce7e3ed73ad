import BootExtents.Cluster
import BootExtents.Region.Basic

/-!
# Building a region list

A region list grows at its end: an extent that continues the last region on the disk makes that
region longer, any other becomes a region of its own.

## Main definitions

* `BootExtents.RegionBuilder` — the regions so far.
* `BootExtents.RegionBuilder.push` — one more extent.
* `BootExtents.RegionBuilder.build` — the list.
-/

set_option relaxedAutoImplicit false
set_option autoImplicit false

namespace BootExtents

/-- A region list under construction. -/
structure RegionBuilder where
  /-- The regions, the last one first. -/
  newestFirst : List Region
  /-- The number of image units that the extents so far need. -/
  imageUnits : Nat
deriving DecidableEq, Repr, Inhabited

namespace RegionBuilder

/-- No regions. -/
def empty : RegionBuilder := ⟨[], 0⟩

/-- Adds an extent of `size` bytes at the byte `offset` of the disk. An extent takes whole image
units, and the 32-bit fields of a region keep the low bits of their numbers. Where the last region
ends is a plain sum: for an address of 64 bits, a disk unit is below `2 ^ 55`, and a region maps less
than `2 ^ 34` of them. -/
def push (builder : RegionBuilder) (offset size : Nat) : RegionBuilder :=
  if size = 0 then
    builder
  else
    let count := (ceilDiv size imageUnitSize).toUInt32
    let diskStart := offset / diskUnitSize
    let imageUnits := builder.imageUnits + count.toNat
    let added : Region :=
      { imageStart := builder.imageUnits.toUInt32
        imageCount := count
        diskStart := diskStart.toUInt64 }
    match builder.newestFirst with
    | [] => ⟨[added], imageUnits⟩
    | last :: older =>
      if last.diskStart.toNat + last.imageCount.toNat * unitsPerImageUnit = diskStart then
        ⟨{ last with imageCount := last.imageCount + count } :: older, imageUnits⟩
      else
        ⟨added :: last :: older, imageUnits⟩

/-- The list of the regions so far. -/
def build (builder : RegionBuilder) : RegionList :=
  .ofRegions builder.newestFirst.reverse

end RegionBuilder

end BootExtents
