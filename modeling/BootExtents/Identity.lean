import BootExtents.Bytes.Slice

/-!
# Identities

Sixteen bytes that tell things apart: what the boot stage wrote from anything else in memory, and
one disk from another.

## Main definitions

* `BootExtents.Identity` — sixteen bytes.
* `BootExtents.bootIdentity` — the identity that the boot stage writes in front of its data.
-/

set_option relaxedAutoImplicit false
set_option autoImplicit false

namespace BootExtents

/-- Sixteen bytes that tell one thing from another. -/
abbrev Identity := Vector UInt8 16

/-- The GUID `77772020-2e77-6576-6e74-6f792e6e6574` in its mixed-endian encoding. -/
def bootIdentity : Identity :=
  ⟨#[0x20, 0x20, 0x77, 0x77, 0x77, 0x2e, 0x76, 0x65, 0x6e, 0x74, 0x6f, 0x79, 0x2e, 0x6e, 0x65,
    0x74], rfl⟩

end BootExtents
