import BootExtents.Bytes.LittleEndian
import BootExtents.Cluster
import BootExtents.Error

/-!
# The geometry of a volume

An exFAT volume starts with a boot sector, which tells how large sectors and clusters are, where
the file allocation table (FAT) lies, where the heap of clusters lies, and which cluster the root
directory starts in.

## Main definitions

* `BootExtents.Geometry` — these numbers; sector and cluster sizes within the format's limits.
* `BootExtents.Geometry.ofBootSector` — the geometry that a boot sector tells.
* `BootExtents.Geometry.isValid` — whether a number is that of a cluster of the heap.
* `BootExtents.Geometry.heapStart`, `clusterOffset`, `clusterSectors` — where the clusters lie.
* `BootExtents.Geometry.fatSector?`, `fatSlot` — where the table holds a cluster's entry.
-/

set_option relaxedAutoImplicit false
set_option autoImplicit false

namespace BootExtents

/-- Where things lie on a volume. -/
structure Geometry where
  /-- The size of a sector is two to this power. -/
  sectorShift : Nat
  /-- The number of sectors of a cluster is two to this power. -/
  clusterShift : Nat
  /-- The first sector of the FAT. -/
  fatOffset : UInt32
  /-- The number of sectors of the FAT. -/
  fatLength : UInt32
  /-- The first sector of the heap. -/
  heapOffset : UInt32
  /-- The number of clusters of the heap. -/
  clusterCount : UInt32
  /-- The first cluster of the root directory. -/
  root : ClusterId
  /-- A sector has 512 to 4096 bytes. -/
  sectorShift_bounds : 9 ≤ sectorShift ∧ sectorShift ≤ 12
  /-- A cluster has at most 32 MiB. -/
  clusterShift_bound : sectorShift + clusterShift ≤ 25

namespace Geometry

/-! ### The boot sector -/

/-- The number of bytes of a boot sector. -/
def bootSize : Nat := 512

/-- How the boot sector of an exFAT volume starts: a jump, and the name `EXFAT` with three
spaces. -/
def signature : List UInt8 :=
  [0xEB, 0x76, 0x90, 0x45, 0x58, 0x46, 0x41, 0x54, 0x20, 0x20, 0x20]

/-- The geometry that a boot sector tells, if the volume is one that can be read. -/
def ofBootSector (sector : List UInt8) : Except VolumeError Geometry :=
  if sector.length < bootSize ∨ ¬signature.isPrefixOf sector then
    .error .notExfat
  else
    let sectorShift := (sector.getD 108 0).toNat
    let clusterShift := (sector.getD 109 0).toNat
    if h : (9 ≤ sectorShift ∧ sectorShift ≤ 12) ∧ sectorShift + clusterShift ≤ 25 then
      if 1 < sector.getD 110 0 then
        .error .texfat
      else
        .ok
          { sectorShift, clusterShift
            fatOffset := Bytes.u32At sector 80
            fatLength := Bytes.u32At sector 84
            heapOffset := Bytes.u32At sector 88
            clusterCount := Bytes.u32At sector 92
            root := Bytes.u32At sector 96
            sectorShift_bounds := h.1
            clusterShift_bound := h.2 }
    else
      .error .geometry

/-! ### Clusters -/

/-- The bytes of a sector. -/
def sectorSize (geometry : Geometry) : Nat :=
  1 <<< geometry.sectorShift

/-- The sectors of a cluster. -/
def sectorsPerCluster (geometry : Geometry) : Nat :=
  1 <<< geometry.clusterShift

/-- The bytes of a cluster. -/
def clusterSize (geometry : Geometry) : Nat :=
  1 <<< (geometry.sectorShift + geometry.clusterShift)

/-- Whether a number is that of a cluster of the heap. -/
def isValid (geometry : Geometry) (cluster : ClusterId) : Bool :=
  firstCluster ≤ cluster && cluster.toNat < geometry.clusterCount.toNat + 2

/-- The place of a cluster in the heap, from 0. -/
def heapIndex (cluster : ClusterId) : Nat :=
  cluster.toNat - firstCluster.toNat

/-- The byte of the volume where the heap starts. -/
def heapStart (geometry : Geometry) : Nat :=
  geometry.heapOffset.toNat * geometry.sectorSize

/-- The byte of the volume where a cluster starts. -/
def clusterOffset (geometry : Geometry) (cluster : ClusterId) : Nat :=
  geometry.heapStart + heapIndex cluster * geometry.clusterSize

/-- The sectors of a cluster, in order. -/
def clusterSectors (geometry : Geometry) (cluster : ClusterId) : List Nat :=
  let first := geometry.heapOffset.toNat + heapIndex cluster * geometry.sectorsPerCluster
  (List.range geometry.sectorsPerCluster).map (first + ·)

/-! ### The table -/

/-- The sector of the FAT that holds the entry of a cluster. -/
def fatSector? (geometry : Geometry) (cluster : ClusterId) : Option Nat :=
  let index := cluster.toNat * 4 / geometry.sectorSize
  if index < geometry.fatLength.toNat then some (geometry.fatOffset.toNat + index) else none

/-- The byte of that sector where the entry starts. -/
def fatSlot (geometry : Geometry) (cluster : ClusterId) : Nat :=
  cluster.toNat * 4 % geometry.sectorSize

/-- A cluster has the bytes of its sectors. -/
theorem clusterSize_eq (geometry : Geometry) :
    geometry.clusterSize = geometry.sectorsPerCluster * geometry.sectorSize := by
  rw [clusterSize, sectorsPerCluster, sectorSize, Nat.one_shiftLeft, Nat.one_shiftLeft,
    Nat.one_shiftLeft, Nat.pow_add, Nat.mul_comm]

/-- Clusters start at whole sectors. -/
theorem sectorSize_dvd_clusterOffset (geometry : Geometry) (cluster : ClusterId) :
    geometry.sectorSize ∣ geometry.clusterOffset cluster := by
  rw [clusterOffset, heapStart, clusterSize_eq, ← Nat.mul_assoc, ← Nat.add_mul]
  exact Nat.dvd_mul_left _ _

/-- A cluster has some sectors. -/
theorem sectorsPerCluster_pos (geometry : Geometry) : 0 < geometry.sectorsPerCluster := by
  rw [sectorsPerCluster, Nat.one_shiftLeft]
  exact Nat.two_pow_pos _

/-- A cluster has some bytes. -/
theorem clusterSize_pos (geometry : Geometry) : 0 < geometry.clusterSize := by
  rw [clusterSize, Nat.one_shiftLeft]
  exact Nat.two_pow_pos _

end Geometry

end BootExtents
