import BootExtents.Inquiry.Basic

/-!
# Sectors

A volume is read in sectors, whose size is a power of two.

## Main definitions

* `BootExtents.SectorAddress` — the number of a sector, and the power of two that is its size.
* `BootExtents.Sectors` — the interface that gives a sector's bytes.
* `BootExtents.readExact` — a range of bytes of a file, all or nothing.
* `BootExtents.readSector` — a sector of a file.
-/

set_option relaxedAutoImplicit false
set_option autoImplicit false

namespace BootExtents

/-- Where a sector lies. -/
structure SectorAddress where
  /-- The size of a sector is two to this power. -/
  shift : Nat
  /-- The number of the sector, from 0. -/
  number : Nat
deriving DecidableEq, Repr, Inhabited

namespace SectorAddress

/-- The number of bytes of the sector. -/
def size (address : SectorAddress) : Nat :=
  1 <<< address.shift

/-- A sector has some bytes. -/
theorem size_pos (address : SectorAddress) : 0 < address.size := by
  rw [size, Nat.one_shiftLeft]
  exact Nat.two_pow_pos _

/-- The byte where the sector starts: a plain product, as all sectors of a volume start below
`2 ^ 63`. -/
def position (address : SectorAddress) : Nat :=
  address.number * address.size

end SectorAddress

/-- Reading sectors: the answer to an address is the bytes of the sector there. -/
def Sectors : Interface where
  Question := SectorAddress
  Answer _ := ByteArray

/-- The positions that can be asked for in a file are below this one. -/
def positionLimit : Nat := 1 <<< 63

/-- The `length` bytes of a file from `position` on. A file that ends before them is an error. -/
def readExact (file : ByteArray) (position length : Nat) : Except IoError ByteArray :=
  if positionLimit ≤ position then .error .invalidPosition
  else if position + length ≤ file.size then
    .ok (file.extract position (position + length))
  else .error .endOfFile

/-- A sector of a file. -/
def readSector (file : ByteArray) (address : SectorAddress) : Except IoError ByteArray :=
  readExact file address.position address.size

end BootExtents
