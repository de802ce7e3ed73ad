import BootExtents.Files.Path

/-!
# Where a machine shows itself

The paths under which a running machine shows its devices and the data of its firmware, all below
one root.

## Main definitions

* `BootExtents.Platform` — the paths.
* `BootExtents.Platform.rooted` — the usual paths below a root.
* `BootExtents.Platform.acpiTable`, `efivarsFile`, `varsFile`, `device` — paths of single files.
-/

set_option relaxedAutoImplicit false
set_option autoImplicit false

namespace BootExtents

/-- Where a machine shows its devices and firmware data. -/
structure Platform where
  /-- The directory of all disks. -/
  blockDirectory : String
  /-- The directory of all disks and partitions. -/
  classDirectory : String
  /-- The directory of device files. -/
  deviceDirectory : String
  /-- The directory of ACPI tables. -/
  acpiDirectory : String
  /-- The directory of EFI data. -/
  efiDirectory : String
  /-- The device file of physical memory. -/
  memoryDevice : String
deriving DecidableEq, Repr, Inhabited

namespace Platform

/-- The usual paths below a root. -/
def rooted (root : String) : Platform :=
  { blockDirectory := Path.join root "sys/block"
    classDirectory := Path.join root "sys/class/block"
    deviceDirectory := Path.join root "dev"
    acpiDirectory := Path.join root "sys/firmware/acpi/tables"
    efiDirectory := Path.join root "sys/firmware/efi"
    memoryDevice := Path.join root "dev/mem" }

/-- The paths of the running machine. -/
def live : Platform := rooted "/"

/-- The file of an ACPI table. -/
def acpiTable (platform : Platform) (signature : String) : String :=
  Path.join platform.acpiDirectory signature

/-- The EFI variable that holds the record: its name and its vendor's GUID. -/
def efiVariable : String :=
  "VentoyOsParam-77772020-2e77-6576-6e74-6f792e6e6574"

/-- The file of the EFI variable in the present interface, where attributes come first. -/
def efivarsFile (platform : Platform) : String :=
  Path.join (Path.join platform.efiDirectory "efivars") efiVariable

/-- The file of the EFI variable in the older interface. -/
def varsFile (platform : Platform) : String :=
  Path.join (Path.join (Path.join platform.efiDirectory "vars") efiVariable) "data"

/-- The device file of a disk or partition. -/
def device (platform : Platform) (name : String) : String :=
  Path.join platform.deviceDirectory name

end Platform

end BootExtents
