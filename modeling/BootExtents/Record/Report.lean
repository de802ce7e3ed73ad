import BootExtents.Record.Basic
import BootExtents.Text.Quoted

/-!
# A record in words

## Main definitions

* `BootExtents.Record.report` — the parameters of a resolved disk, a line each.
* `BootExtents.Record.description` — all fields on one line, for diagnosis.
-/

set_option relaxedAutoImplicit false
set_option autoImplicit false

namespace BootExtents.Record

/-- The parameters of an image on the disk of the given name, a line each. -/
def report (record : Record) (disk : String) : String :=
  "=== runtime parameters ===\n" ++
  s!"disk name : /dev/{disk}\n" ++
  s!"disk size : {record.diskSize}\n" ++
  s!"disk part : {record.partitionIndex}\n" ++
  s!"filesystem: {record.filesystem.name}\n" ++
  s!"image size: {record.imageSize}\n" ++
  s!"image path: {record.imagePath}\n"

/-- All fields with a meaning on one line. -/
def description (record : Record) : String :=
  let identity := ", ".intercalate (record.diskIdentity.toList.map toString)
  let fields :=
    [s!"checksum: {record.checksum}",
      s!"disk_identity: [{identity}]",
      s!"disk_size: {record.diskSize}",
      s!"partition_index: {record.partitionIndex}",
      s!"filesystem_kind: {record.filesystem.label}",
      s!"image_path: {Text.quoted record.imagePath}",
      s!"image_size: {record.imageSize}",
      s!"snapshot_address: {record.snapshotAddress}",
      s!"snapshot_length: {record.snapshotLength}"]
  "ParamRecord \x7b " ++ ", ".intercalate fields ++ " \x7d"

end BootExtents.Record
