import BootExtents.Location.Source
import BootExtents.Record.Report
import BootExtents.Region.LinearTable

/-!
# What is printed

The record of a machine is located and its disk resolved; then the parameters, the table of the
image or both are printed. What was printed before a failure stays.

## Main definitions

* `BootExtents.DumpMode` — what to print.
* `BootExtents.Printout` — what was printed, and the failure that ended it.
* `BootExtents.Platform.dump` — the printout for a machine.
-/

set_option relaxedAutoImplicit false
set_option autoImplicit false

namespace BootExtents

/-- What to print. -/
inductive DumpMode where
  /-- The parameters. -/
  | parameters
  /-- The parameters, then the table of the image under a heading. -/
  | location
  /-- The table of the image alone. -/
  | locationOnly
  /-- Nothing; only whether there is a record counts. -/
  | check
deriving DecidableEq, Repr, Inhabited

/-- Text that was printed, and the failure that ended the printing, if there was one. -/
structure Printout where
  /-- The text. -/
  text : String
  /-- The failure. -/
  error : Option Error
deriving DecidableEq, Repr, Inhabited

namespace Platform

/-- The record of a machine, or the one in a file. -/
def locateRecord (platform : Platform) : (file : Option String) → Inquiry Files Error Record
  | none => Record.locate platform.recordSources
  | some path => Record.locate [dumpFileSource path]

/-- The table of the image that a record means, on a disk. -/
def imageTable (platform : Platform) (record : Record) (disk : String) :
    Inquiry Files Error LinearTable := do
  let list ← locateImage (platform.locationSources disk) record
  let partition ← platform.partition disk record.partitionIndex
  return { list, device := partition.device, partitionStart := partition.start.toNat }

/-- The heading of the table. -/
def tableHeading : String := "=== image location ===\n"

/-- The printout of a record whose disk is known. -/
def dumpRecord {ε : Type} (platform : Platform) (mode : DumpMode) (record : Record)
    (disk : String) : Inquiry Files ε Printout := do
  let report := if mode = .locationOnly then "" else record.report disk
  if mode = .parameters then
    return ⟨report, none⟩
  else
    match ← (platform.imageTable record disk).attempt with
    | .error error => return ⟨report, some error⟩
    | .ok table =>
      let heading := if mode = .location then tableHeading else ""
      return ⟨report ++ heading ++ table.text, none⟩

/-- The printout for a machine, its record taken from a file if one is given. -/
def dump {ε : Type} (platform : Platform) (mode : DumpMode) (file : Option String) :
    Inquiry Files ε Printout := do
  match ← (platform.locateRecord file).attempt with
  | .error error => return ⟨"", some error⟩
  | .ok record =>
    if mode = .check then
      return ⟨"", none⟩
    else
      match ← (Disk.resolve record platform.devices).attempt with
      | .error error => return ⟨"", some error⟩
      | .ok disk => platform.dumpRecord mode record disk

end Platform

end BootExtents
