/-!
# Names of disks and partitions

## Main definitions

* `BootExtents.Disk.isEligible` — whether a block device of this name may hold the image.
* `BootExtents.Disk.partitionName` — the kernel's name of a partition.
-/

set_option relaxedAutoImplicit false
set_option autoImplicit false

namespace BootExtents.Disk

/-- How the names of ramdisks, loop devices, mapped devices and optical drives start; these never
hold the image. -/
def excludedStarts : List String := ["ram", "loop", "dm-", "sr"]

/-- What the names of disks contain whose partitions are set off by a letter. -/
def numberedKinds : List String := ["nvme", "mmc", "nbd"]

/-- Whether `part` stands somewhere in `text`. -/
def occurs (part : List Char) : List Char → Bool
  | [] => part.isEmpty
  | c :: rest => part.isPrefixOf (c :: rest) || occurs part rest

/-- Whether a block device of this name may hold the image: it is neither hidden nor of an excluded
kind. -/
def isEligible (name : String) : Bool :=
  !("." :: excludedStarts).any fun start => start.toList.isPrefixOf name.toList

/-- The name of a partition by its number: a number behind the name of the disk, with a `p` between
them for the kinds of disk whose own names end in a number. -/
def partitionName (disk : String) (index : UInt16) : String :=
  if numberedKinds.any fun kind => occurs kind.toList disk.toList then
    s!"{disk}p{index}"
  else
    s!"{disk}{index}"

end BootExtents.Disk
