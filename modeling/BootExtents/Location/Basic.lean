import BootExtents.Record.Basic
import BootExtents.Region.Codec

/-!
# Where the location of an image may be

The regions of an image may be found in several ways, some of which may not apply or not work.
They are tried in order, and the first list with the identity of the boot stage counts.

## Main definitions

* `BootExtents.LocationSource` — a way to find the regions of an image.
* `BootExtents.locateImage` — the regions by the first way that works.
-/

set_option relaxedAutoImplicit false
set_option autoImplicit false

namespace BootExtents

/-- A way to find the regions of an image. -/
structure LocationSource (I : Interface) where
  /-- The name of the way. -/
  name : String
  /-- The regions of the image that a record means, if the way applies. -/
  find : Record → Inquiry I Error (Option RegionList)

/-- Tries the given ways; `last` is the failure of the last one before them that failed. -/
def locateImageFrom {I : Interface} (record : Record) (last : Option Error) :
    List (LocationSource I) → Inquiry I Error RegionList
  | [] => .fail (last.getD .locationNotFound)
  | source :: others => do
    match ← (source.find record).attempt with
    | .ok (some list) =>
      if list.isGenuine then
        return list
      else
        .warn (.foreignLocation source.name)
          (locateImageFrom record (some (.corrupted .imageLocation)) others)
    | .ok none => locateImageFrom record last others
    | .error error =>
      .warn (.locationSource source.name error) (locateImageFrom record (some error) others)

/-- The regions of the image that a record means, by the first way that gives a list of the boot
stage. If none does, the failure is that of the last way that failed, a foreign list being one. -/
def locateImage {I : Interface} (sources : List (LocationSource I)) (record : Record) :
    Inquiry I Error RegionList :=
  locateImageFrom record none sources

end BootExtents
