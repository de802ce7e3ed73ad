import BootExtents.Error
import BootExtents.Text.Hex

/-!
# Warnings

What is worth telling although the work goes on, or tells more than the error that follows.

## Main definitions

* `BootExtents.Warning` — the warnings, by cause.
* `BootExtents.Warning.message` — their texts.
-/

set_option relaxedAutoImplicit false
set_option autoImplicit false

namespace BootExtents

/-- What is worth telling. -/
inductive Warning where
  /-- A region list announces more regions than its bytes can hold. -/
  | regionCount (count size : Nat)
  | invalidFirstCluster (cluster : ClusterId)
  | invalidCluster (cluster : ClusterId) (index : Nat)
  /-- A run that another one follows is no whole number of image units. -/
  | unalignedExtent (start size : Nat)
  /-- A place where a record may be could not be read. -/
  | recordSource (name : String) (error : Error)
  /-- A place where an image location may be could not be read. -/
  | locationSource (name : String) (error : Error)
  /-- An image location without the identity of the boot stage. -/
  | foreignLocation (name : String)
  /-- A firmware table ends before the image location it announces. -/
  | truncatedTable (size : Nat)
  | entryType (byte : UInt8)
  | setChecksum (computed : Nat)
  | nameHash (name : String)
  | clusterOutOfHeap (cluster : ClusterId)
  | caseMapChecksum (computed stored : Nat)
deriving DecidableEq, Repr, Inhabited

/-- The text of a warning. -/
def Warning.message : Warning → String
  | .regionCount count size => s!"Region count {count} exceeds {size} bytes of location"
  | .invalidFirstCluster cluster => s!"Invalid first cluster {cluster}"
  | .invalidCluster cluster index => s!"Invalid cluster {cluster} at index {index} of chain"
  | .unalignedExtent start size =>
    s!"Extent at {start} of {size} bytes not aligned to image unit"
  | .recordSource name error => s!"Failed to read {name}: " ++ error.message
  | .locationSource name error => s!"Failed to get image location by {name}: " ++ error.message
  | .foreignLocation name => s!"Image location by {name} corrupted"
  | .truncatedTable size => s!"Firmware table of {size} bytes truncates image location"
  | .entryType byte => s!"Unexpected entry type {byte}"
  | .setChecksum computed => "Entry set checksum " ++ Text.Hex.upper 4 computed ++ " mismatch"
  | .nameHash name => s!"Name hash mismatch for {name}"
  | .clusterOutOfHeap cluster => s!"Cluster {cluster} out of heap"
  | .caseMapChecksum computed stored =>
    "Upcase table checksum " ++ Text.Hex.lower 8 computed ++ " mismatch, expect " ++
      Text.Hex.lower 8 stored

end BootExtents
