import BootExtents.Extent.Extract
import BootExtents.Location.Basic
import BootExtents.Platform.Devices
import BootExtents.Platform.Firmware
import BootExtents.Volume.Basic

/-!
# Ways to find the regions of an image

The boot stage may have left a copy of the regions, in memory or behind its record in the firmware
table. Otherwise they are derived from the filesystem that holds the image, if it is exFAT.

## Main definitions

* `BootExtents.memorySnapshotSource` — the copy in memory.
* `BootExtents.Platform.tableSnapshotSource` — the copy in the firmware table.
* `BootExtents.fileRegions` — the regions of a file of an exFAT volume.
* `BootExtents.Platform.volumeSource` — the regions derived from the filesystem.
* `BootExtents.Platform.locationSources` — the ways of a machine, in order.
-/

set_option relaxedAutoImplicit false
set_option autoImplicit false

namespace BootExtents

/-- The copy of the regions in memory, where the record tells of one. -/
def memorySnapshotSource {I : Interface} (memory : PhysicalMemory I) : LocationSource I where
  name := "physical memory snapshot"
  find record := do
    if record.hasSnapshot then
      let bytes ← memory.read record.snapshotAddress record.snapshotLength.toNat
      return some (← RegionList.read bytes)
    else
      return none

/-- The regions of the file at a path of an exFAT volume that starts at the byte `base` of its
disk. -/
def fileRegions (path : String) (base : Nat) : Inquiry Sectors Error RegionList := do
  let volume ← Volume.mount.mapError .volume
  let node ← (volume.lookup path).mapError .volume
  if node.isDirectory then
    .fail (.volume .notFound)
  else
    extract (volume.chain node) node.dataLength.toNat base

namespace Platform

/-- A sector of a volume on a device. -/
def deviceSector (device : String) (address : SectorAddress) :
    Inquiry Files Error ByteArray := do
  match ← Inquiry.query (I := Files) (.slice device address.position address.size) with
  | .ok bytes => return bytes
  | .error error => .fail (.volume (.io error))

/-- The copy of the regions in the firmware table. -/
def tableSnapshotSource (platform : Platform) : LocationSource Files where
  name := "firmware table snapshot"
  find _ := do
    match ← platform.tableSnapshot with
    | none => return none
    | some bytes => return some (← RegionList.read bytes)

/-- The regions that the filesystem of the image's partition tells. -/
def volumeSource (platform : Platform) (disk : String) : LocationSource Files where
  name := "exFAT filesystem"
  find record := do
    if record.filesystem = .exfat then
      let partition ← platform.partition disk record.partitionIndex
      let _ ← Files.ordinarySize partition.device
      let list ← (fileRegions record.imagePath partition.offset).interpret
        (deviceSector partition.device)
      return some list
    else
      .fail (.unsupportedFilesystem record.filesystem)

/-- The ways to find the regions of an image on a disk of a machine, in order. -/
def locationSources (platform : Platform) (disk : String) : List (LocationSource Files) :=
  [memorySnapshotSource platform.memory, platform.tableSnapshotSource, platform.volumeSource disk]

end Platform

end BootExtents
