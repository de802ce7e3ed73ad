import BootExtents.Files.Basic
import BootExtents.Platform.Basic

/-!
# Physical memory

## Main definitions

* `BootExtents.PhysicalMemory` — reading from addresses.
* `BootExtents.Platform.memory` — the memory of a machine, through its device file.
-/

set_option relaxedAutoImplicit false
set_option autoImplicit false

namespace BootExtents

/-- Memory that can be read from addresses. -/
structure PhysicalMemory (I : Interface) where
  /-- The bytes from an address on. -/
  read : UInt64 → Nat → Inquiry I Error (List UInt8)

/-- The memory of a machine. Where the device file is an ordinary file, as in a copy of the
machine's files, a range beyond its end is refused. Where a range ends is kept to the 64 bits of an
address, so one that reaches beyond these may not be refused here, and is left to the file. -/
def Platform.memory (platform : Platform) : PhysicalMemory Files where
  read address length := do
    let size? ← Files.ordinarySize platform.memoryDevice
    if size?.any (· < (address + length.toUInt64).toNat) then
      .fail (.io (.beyondEnd address length platform.memoryDevice))
    else
      return (← Files.slice platform.memoryDevice address.toNat length).data.toList

end BootExtents
