import BootExtents.Bytes.Packed
import BootExtents.Sector.Basic
import BootExtents.Volume.Geometry

/-!
# Allocation of clusters

Which clusters hold a file or a directory: one row of neighbours, or a chain through the file
allocation table (FAT), whose entry for a cluster names the next one.

## Main definitions

* `BootExtents.FatEntry` — what an entry of the table says.
* `BootExtents.Geometry.fatEntry` — the entry of a cluster, as stored.
* `BootExtents.Geometry.readChain` — the clusters from a first one on.
* `BootExtents.Geometry.readCluster`, `readData` — the bytes of a cluster, and of a chain.
-/

set_option relaxedAutoImplicit false
set_option autoImplicit false

namespace BootExtents

/-- What an entry of the allocation table says. -/
inductive FatEntry where
  /-- The cluster that follows. -/
  | next (cluster : ClusterId)
  /-- The cluster is bad. -/
  | bad
  /-- The cluster is the last one. -/
  | last
  /-- A value without meaning in a chain. -/
  | meaningless (value : UInt32)
deriving DecidableEq, Repr, Inhabited

/-- The meaning of a stored entry. -/
def FatEntry.ofValue (value : UInt32) : FatEntry :=
  if 2 ≤ value ∧ value ≤ 0xFFFFFFF6 then next value
  else if value = 0xFFFFFFF7 then bad
  else if value = 0xFFFFFFFF then last
  else meaningless value

/-- An entry names a cluster by its number, which is neither too small nor too large. -/
theorem FatEntry.ofValue_eq_next_iff {value : UInt32} {cluster : ClusterId} :
    ofValue value = next cluster ↔ value = cluster ∧ 2 ≤ cluster ∧ cluster ≤ 0xFFFFFFF6 := by
  grind [ofValue]

/-- An entry ends a chain by the largest of all values. -/
theorem FatEntry.ofValue_eq_last_iff {value : UInt32} :
    ofValue value = last ↔ value = 0xFFFFFFFF := by
  grind [ofValue]

namespace Geometry

/-- A sector of the volume. -/
def sector (geometry : Geometry) (number : Nat) : Inquiry Sectors VolumeError ByteArray :=
  .ask (I := Sectors) ⟨geometry.sectorShift, number⟩ .done

/-- The stored entry of a cluster. -/
def fatEntry (geometry : Geometry) (cluster : ClusterId) : Inquiry Sectors VolumeError UInt32 :=
  match geometry.fatSector? cluster with
  | none => .fail .fatChain
  | some number => do
    let sector ← geometry.sector number
    return Packed.u32At sector (geometry.fatSlot cluster)

/-- At most how many clusters hold `length` bytes; where the length is not known, a row of
neighbours is one cluster, and a chain may have all. -/
def chainLimit (geometry : Geometry) (contiguous : Bool) : Option Nat → Nat
  | some length => ceilDiv length geometry.clusterSize
  | none => if contiguous then 1 else geometry.clusterCount.toNat

/-- At most `limit` more clusters from `cluster` on, behind those found before, which are given
newest first. -/
def followChain (geometry : Geometry) (contiguous : Bool) :
    (limit : Nat) → ClusterId → List ClusterId → Inquiry Sectors VolumeError (List ClusterId)
  | 0, _, found => .done found.reverse
  | limit + 1, cluster, found =>
    if geometry.isValid cluster then
      if contiguous then
        geometry.followChain contiguous limit (cluster + 1) (cluster :: found)
      else do
        match FatEntry.ofValue (← geometry.fatEntry cluster) with
        | .next following => geometry.followChain contiguous limit following (cluster :: found)
        | .last => return (cluster :: found).reverse
        | .bad | .meaningless _ => .fail .fatChain
    else
      .warn (.clusterOutOfHeap cluster) (.fail .fatChain)

/-- The clusters from a first one on, as many as hold `length` bytes. A chain may end before. -/
def readChain (geometry : Geometry) (first : ClusterId) (contiguous : Bool)
    (length : Option Nat) : Inquiry Sectors VolumeError (List ClusterId) :=
  geometry.followChain contiguous (geometry.chainLimit contiguous length) first []

/-- The bytes of a cluster. -/
def readCluster (geometry : Geometry) (cluster : ClusterId) :
    Inquiry Sectors VolumeError ByteArray := do
  return Packed.joined (← (geometry.clusterSectors cluster).mapM geometry.sector)

/-- The bytes of the clusters from a first one on, at most `length` of them. -/
def readData (geometry : Geometry) (first : ClusterId) (contiguous : Bool)
    (length : Option Nat) : Inquiry Sectors VolumeError ByteArray := do
  let clusters ← geometry.readChain first contiguous length
  let bytes := Packed.joined (← clusters.mapM geometry.readCluster)
  match length with
  | some length => return bytes.extract 0 (min length bytes.size)
  | none => return bytes

end Geometry

end BootExtents
