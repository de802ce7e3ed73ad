import BootExtents.Disk.Resolve
import BootExtents.Files.Basic
import BootExtents.Platform.Basic
import BootExtents.Text.Decimal

/-!
# Disks and partitions of a machine

The kernel lists the disks of a machine, and the sizes of disks and starts of partitions, in files
of their own. What these do not tell is read from the devices.

## Main definitions

* `BootExtents.Platform.devices` — the block devices of a machine.
* `BootExtents.Partition`, `BootExtents.Platform.partition` — a partition of a disk.
-/

set_option relaxedAutoImplicit false
set_option autoImplicit false

namespace BootExtents

/-- The bytes of the sectors that the kernel counts in. -/
def kernelSectorSize : Nat := 512

/-- Where a disk carries its identity: in the area of its boot code. -/
def identityOffset : Nat := 0x180

/-- The sector where a partition is taken to start if the kernel does not tell. -/
def defaultPartitionStart : UInt64 := 2048

namespace Platform

/-- The number that a file of the kernel holds, if there is such a file and it holds one. -/
def number? (path : String) : Inquiry Files Error (Option UInt64) := do
  match ← (Files.read path).attempt with
  | .ok content => return (Text.Utf8.strict? content.data.toList).bind Text.Decimal.read?
  | .error _ => return none

/-- The names of all disks, in order. -/
def diskNames (platform : Platform) : Inquiry Files Error (List String) := do
  let names ← Files.list platform.blockDirectory
  return names.mergeSort fun name other => !(other < name)

/-- The size of a disk in bytes. -/
def diskSize (platform : Platform) (name : String) : Inquiry Files Error UInt64 := do
  match ← number? (Path.join (Path.join platform.blockDirectory name) "size") with
  | some sectors => return sectors * kernelSectorSize.toUInt64
  | none => return (← Files.length (platform.device name)).toUInt64

/-- The identity that a disk carries. -/
def diskIdentity (platform : Platform) (name : String) : Inquiry Files Error Identity := do
  let bytes ← Files.slice (platform.device name) identityOffset 16
  return Bytes.blockAt bytes.data.toList 0 16

/-- The block devices of a machine. -/
def devices (platform : Platform) : BlockDevices Files where
  names := platform.diskNames
  size := platform.diskSize
  identity := platform.diskIdentity

/-- The sector where a partition starts. -/
def partitionStart (platform : Platform) (name : String) : Inquiry Files Error UInt64 := do
  let start? ← number? (Path.join (Path.join platform.classDirectory name) "start")
  return start?.getD defaultPartitionStart

end Platform

/-- A partition of a disk. -/
structure Partition where
  /-- The kernel's name. -/
  name : String
  /-- The path of its device. -/
  device : String
  /-- The sector of the disk where it starts. -/
  start : UInt64
deriving DecidableEq, Repr, Inhabited

/-- The byte of the disk where a partition starts. The product is kept to the 64 bits of an address,
so it is the plain product for a start below `2 ^ 55`. -/
def Partition.offset (partition : Partition) : Nat :=
  partition.start.toNat * kernelSectorSize % UInt64.size

/-- A partition of a disk, by its number. -/
def Platform.partition (platform : Platform) (disk : String) (index : UInt16) :
    Inquiry Files Error Partition := do
  let name := Disk.partitionName disk index
  let start ← platform.partitionStart name
  return { name, device := platform.device name, start }

end BootExtents
