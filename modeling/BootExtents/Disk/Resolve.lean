import BootExtents.Disk.Name
import BootExtents.Inquiry.Basic
import BootExtents.Record.Basic

/-!
# The disk that a record means

A record tells the size and the identity of its disk. If exactly one disk has that size, it must
also have that identity. Otherwise the identities of all disks decide.

## Main definitions

* `BootExtents.BlockDevices` — what can be asked about the block devices of a machine.
* `BootExtents.Disk.resolve` — the name of the disk that a record means.
-/

set_option relaxedAutoImplicit false
set_option autoImplicit false

namespace BootExtents

/-- What can be asked about the block devices of a machine. -/
structure BlockDevices (I : Interface) where
  /-- The names of all devices. -/
  names : Inquiry I Error (List String)
  /-- The size of a device in bytes. -/
  size : String → Inquiry I Error UInt64
  /-- The identity that a device carries. -/
  identity : String → Inquiry I Error Identity

namespace Disk

variable {I : Interface}

/-- Whether a device has the given size; one that cannot be asked has not. -/
def hasSize (devices : BlockDevices I) (expected : UInt64) (name : String) :
    Inquiry I Error Bool := do
  match ← (devices.size name).attempt with
  | .ok size => return size == expected
  | .error _ => return false

/-- Whether a device has the given identity; one that cannot be read has not. -/
def hasIdentity (devices : BlockDevices I) (expected : Identity) (name : String) :
    Inquiry I Error Bool := do
  match ← (devices.identity name).attempt with
  | .ok identity => return identity == expected
  | .error _ => return false

/-- The one name of a list. -/
def single : List String → Inquiry I Error String
  | [] => .fail .diskNotFound
  | [name] => .done name
  | names => .fail (.diskAmbiguous names.length)

/-- The name of the disk that a record means. Only an eligible device is ever asked for its size or
its identity. -/
def resolve (record : Record) (devices : BlockDevices I) : Inquiry I Error String := do
  let names := (← devices.names).filter isEligible
  let sized ← names.filterM (hasSize devices record.diskSize)
  let candidates := if sized.length = 1 then sized else names
  single (← candidates.filterM (hasIdentity devices record.diskIdentity))

end Disk

end BootExtents
