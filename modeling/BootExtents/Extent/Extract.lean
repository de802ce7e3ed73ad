import BootExtents.Extent.Chain
import BootExtents.Region.Builder

/-!
# From a cluster chain to disk regions

The clusters of a file are visited in order. Neighbours on the disk grow into one extent, and each
extent becomes part of the region list. As a region maps whole image units, an extent must be a
whole number of them unless it is the last one, which is rounded up.

Addresses on the disk have 64 bits, and their sums wrap around: a piece that starts at the byte 0 of
the disk continues an extent that ends with the last address. Nothing wraps as long as every cluster
starts below `2 ^ 64`, and ends there if another one follows it.

## Main definitions

* `BootExtents.Extent` — a row of bytes on the disk.
* `BootExtents.Extent.onDisk` — bytes of a volume, on the disk.
* `BootExtents.ExtentFold` — the extent that still grows, and the regions before it.
* `BootExtents.ChainWalk` — how far a chain has been visited.
* `BootExtents.extract` — the regions of the first `length` bytes of a chain.
-/

set_option relaxedAutoImplicit false
set_option autoImplicit false

namespace BootExtents

/-- A row of bytes on the disk. -/
structure Extent where
  /-- The first byte. -/
  start : Nat
  /-- The number of bytes. -/
  size : Nat
deriving DecidableEq, Repr, Inhabited

/-- Some bytes from a byte of a volume on, where the volume starts at the byte `base` of the disk.
The sum is kept to the 64 bits of an address, so it is the plain sum if this is below `2 ^ 64`. -/
def Extent.onDisk (base offset size : Nat) : Extent where
  start := (base + offset) % UInt64.size
  size := size

/-- There are as many bytes on the disk. -/
@[simp] theorem Extent.size_onDisk (base offset size : Nat) :
    (Extent.onDisk base offset size).size = size := rfl

/-- The byte behind an extent. The sum is kept to the 64 bits of an address, so it is the plain sum
if the extent ends below `2 ^ 64`. -/
def Extent.stop (extent : Extent) : Nat :=
  (extent.start + extent.size) % UInt64.size

/-- The clusters visited so far. -/
structure ExtentFold where
  /-- The regions that are complete. -/
  builder : RegionBuilder
  /-- The extent that the next cluster may continue. -/
  pending : Extent
deriving DecidableEq, Repr, Inhabited

namespace ExtentFold

/-- Takes in the next piece of the file. A piece elsewhere on the disk ends the pending extent,
which must then be a whole number of image units. The sizes of pieces are parts of the length of the
file, so their sum is one, too. -/
def add (fold : ExtentFold) (piece : Extent) : Except Extent ExtentFold :=
  if fold.pending.stop = piece.start then
    .ok { fold with pending := ⟨fold.pending.start, fold.pending.size + piece.size⟩ }
  else if fold.pending.size % imageUnitSize ≠ 0 then
    .error fold.pending
  else
    .ok ⟨fold.builder.push fold.pending.start fold.pending.size, piece⟩

/-- The regions, the pending extent included. -/
def finish (fold : ExtentFold) : RegionList :=
  (fold.builder.push fold.pending.start fold.pending.size).build

end ExtentFold

/-- How far a chain has been visited. -/
structure ChainWalk where
  /-- The cluster visited last. -/
  cluster : ClusterId
  /-- The place of that cluster in the chain, from 0. -/
  index : Nat
  /-- The number of bytes of the file behind that cluster. -/
  left : Nat
  /-- What was found up to that cluster. -/
  fold : ExtentFold
deriving DecidableEq, Repr, Inhabited

variable {I : Interface}

/-- Visits the next cluster of a chain. -/
def ChainWalk.advance (chain : ClusterChain I) (base : Nat) (walk : ChainWalk) :
    Inquiry I Error ChainWalk := do
  let cluster ← chain.next walk.cluster
  if chain.isValid cluster then
    let offset ← chain.offset cluster
    match walk.fold.add (.onDisk base offset (min chain.clusterSize walk.left)) with
    | .ok fold =>
      return { cluster, index := walk.index + 1, left := walk.left - chain.clusterSize, fold }
    | .error extent =>
      .warn (.unalignedExtent extent.start extent.size)
        (.fail (.io (.invalidData (.unaligned extent.size))))
  else
    .warn (.invalidCluster cluster (walk.index + 1))
      (.fail (.io (.invalidData (.invalidMember cluster))))

/-- The regions that hold the first `length` bytes of a chain, on a disk where the volume starts at
the byte `base`. The first cluster must be valid even for an empty file. -/
def extract (chain : ClusterChain I) (length base : Nat) : Inquiry I Error RegionList :=
  if chain.clusterSize = 0 then
    .fail .zeroClusterSize
  else do
    let cluster ← chain.first
    if chain.isValid cluster then
      if length = 0 then
        return RegionBuilder.empty.build
      let offset ← chain.offset cluster
      let start : ChainWalk :=
        { cluster
          index := 0
          left := length - chain.clusterSize
          fold := ⟨.empty, .onDisk base offset (min chain.clusterSize length)⟩ }
      let walk ← Inquiry.iterate (ChainWalk.advance chain base)
        (ceilDiv length chain.clusterSize - 1) start
      return walk.fold.finish
    else
      .warn (.invalidFirstCluster cluster)
        (.fail (.io (.invalidData (.invalidStart cluster))))

end BootExtents
