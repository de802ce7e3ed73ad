import BootExtents.Files.Basic
import BootExtents.Platform.Memory
import BootExtents.Record.Source

/-!
# Where a machine keeps its record

The boot stage leaves its record in a firmware table of its own, in an EFI variable, in low memory
or within the boot table of a network disk. Its own firmware table may also hold the location of
the image, behind the record.

## Main definitions

* `BootExtents.Platform.tableSource`, `efiSource`, `networkTableSource` — records in firmware data.
* `BootExtents.lowMemorySource` — a record in low memory.
* `BootExtents.dumpFileSource` — a record in a file named by the user.
* `BootExtents.Platform.recordSources` — the places of a machine, in order.
* `BootExtents.Platform.tableSnapshot` — the image location in the firmware table.
-/

set_option relaxedAutoImplicit false
set_option autoImplicit false

namespace BootExtents

/-- The signature of the boot stage's own table. -/
def bootTableSignature : String := "VTOY"

/-- The signature of the boot table of a network disk. -/
def networkTableSignature : String := "iBFT"

/-- The bytes of the header of a table, behind which the record lies. -/
def tableHeaderSize : Nat := 36

/-- The length from which on a network disk's table is not looked at. -/
def networkTableLimit : Nat := 1024

/-- The bytes of attributes in front of an EFI variable. -/
def efiAttributesSize : Nat := 4

/-- Where the part of low memory starts that may hold a record. -/
def lowMemoryStart : UInt64 := 0x80000

/-- The bytes of that part. -/
def lowMemorySize : Nat := 0x20000

/-- A record in low memory lies at a multiple of this. -/
def lowMemoryStride : Nat := 16

/-- The record behind the header of a table. -/
def tableRecord? (table : List UInt8) : Option Record :=
  Record.parse? (table.drop tableHeaderSize)

/-- A record in low memory. -/
def lowMemorySource {I : Interface} (memory : PhysicalMemory I) : RecordSource I where
  name := "physical memory"
  find := do
    let window ← memory.read lowMemoryStart lowMemorySize
    return (Record.scan window lowMemoryStride).map (·.2)

/-- A record anywhere in a file. -/
def dumpFileSource (path : String) : RecordSource Files where
  name := "parameter file"
  find := do
    let content ← Files.read path
    return (Record.scan content.data.toList 1).map (·.2)

namespace Platform

/-- The content of a table, if the firmware has installed it. -/
def table? (platform : Platform) (signature : String) :
    Inquiry Files Error (Option (List UInt8)) := do
  match ← Inquiry.query (I := Files) (.read (platform.acpiTable signature)) with
  | .ok content => return some content.data.toList
  | .error error => if error.kind = .notFound then return none else .fail (.io error)

/-- The record in the boot stage's own table. -/
def tableSource (platform : Platform) : RecordSource Files where
  name := "ACPI VTOY table"
  find := do
    return (← platform.table? bootTableSignature).bind tableRecord?

/-- The record in the EFI variable. Only the first interface that has the variable is used. -/
def efiSource (platform : Platform) : RecordSource Files where
  name := "EFI variable"
  find := do
    if ← Files.isThere platform.efivarsFile then
      let content ← Files.read platform.efivarsFile
      return Record.parse? (content.data.toList.drop efiAttributesSize)
    else if ← Files.isThere platform.varsFile then
      let content ← Files.read platform.varsFile
      return Record.parse? content.data.toList
    else
      return none

/-- The record anywhere in the boot table of a network disk. -/
def networkTableSource (platform : Platform) : RecordSource Files where
  name := "ACPI iBFT table"
  find := do
    match ← platform.table? networkTableSignature with
    | none => return none
    | some bytes =>
      if networkTableLimit ≤ bytes.length then return none
      else return (Record.scan bytes 1).map (·.2)

/-- The places where a machine may keep its record, in order. -/
def recordSources (platform : Platform) : List (RecordSource Files) :=
  [platform.tableSource, platform.efiSource, lowMemorySource platform.memory,
    platform.networkTableSource]

/-- The image location behind the record in the boot stage's own table, as long as that record
says, or as much of it as there is. -/
def tableSnapshot (platform : Platform) : Inquiry Files Error (Option (List UInt8)) := do
  match ← platform.table? bootTableSignature with
  | none => return none
  | some table =>
    match tableRecord? table with
    | none => return none
    | some record =>
      let start := tableHeaderSize + Record.byteCount
      let length := record.snapshotLength.toNat
      if length = 0 then
        return none
      else if start + length ≤ table.length then
        return some (Bytes.slice table start length)
      else
        .warn (.truncatedTable table.length) (.done (some (table.drop start)))

end Platform

end BootExtents
