import BootExtents.Inquiry.Basic
import BootExtents.Volume.CaseMap
import BootExtents.Volume.Entry

/-!
# Files and directories

A file or directory is described by a set of entries: one for its attributes, one for its data, and
some for its name.

## Main definitions

* `BootExtents.Node` — a file or directory.
* `BootExtents.Node.ofSet` — the node that a set of entries describes.
* `BootExtents.Node.listFrom` — the nodes of a directory's entries.
-/

set_option relaxedAutoImplicit false
set_option autoImplicit false

namespace BootExtents

/-- A file or directory. -/
structure Node where
  /-- The name, what is no UTF-16 replaced. -/
  name : String
  /-- Where its data starts. -/
  firstCluster : ClusterId
  /-- The bytes of its data. -/
  dataLength : UInt64
  /-- The bytes of its data that were written. -/
  validDataLength : UInt64
  /-- Whether it is a directory. -/
  isDirectory : Bool
  /-- Whether its clusters are one row of neighbours, without entries in the allocation table. -/
  isContiguous : Bool
deriving DecidableEq, Repr, Inhabited

namespace Node

variable {I : Interface}

/-- The units that the entries of a name hold, from the first of them on. -/
def nameUnits (entries : List DirectoryEntry) : List UInt16 :=
  (entries.takeWhile (·.is .name)).flatMap fun entry => (Packed.u16s entry.block).drop 1

/-- The node that a set of entries describes: the first one for the attributes, the second one for
the data, then those for the name. The stored checksum must be right; a wrong hash of the name is
only worth a warning. -/
def ofSet (map : CaseMap) : List DirectoryEntry → Inquiry I VolumeError Node
  | file :: stream :: third :: others =>
    let checksum := setChecksum (file :: stream :: third :: others)
    if (Packed.u16At file.block 2).toNat ≠ checksum then
      .warn (.setChecksum checksum) (.fail .metadata)
    else if stream.is .stream then
      let units := nameUnits (third :: others)
      let length := (stream.byteAt 3).toNat
      if units.length < length then
        .fail .metadata
      else
        let name := Text.Utf16.decode (units.take length)
        let node : Node :=
          { name
            firstCluster := Packed.u32At stream.block 20
            dataLength := Packed.u64At stream.block 24
            validDataLength := Packed.u64At stream.block 8
            isDirectory := (Packed.u16At file.block 4).toBitVec.getLsbD 4
            isContiguous := (stream.byteAt 1).toBitVec.getLsbD 1 }
        if (Packed.u16At stream.block 4).toNat = nameHash ((units.take length).map map.upper) then
          .done node
        else
          .warn (.nameHash name) (.done node)
    else
      .fail .metadata
  | _ => .fail .metadata

/-- The nodes of a directory's entries, behind those found before, which are given newest first.
Entries not in use and entries of other known kinds are passed over. -/
def listFrom (map : CaseMap) (found : List Node) :
    List DirectoryEntry → Inquiry I VolumeError (List Node)
  | [] => .done found.reverse
  | entry :: rest =>
    if entry.isEnd then
      .done found.reverse
    else if entry.is .file then
      let count := (entry.byteAt 1).toNat
      if (rest.take count).length < count then
        .fail .metadata
      else do
        let node ← ofSet map (entry :: rest.take count)
        listFrom map (node :: found) (rest.drop count)
    else if entry.isInUse && entry.kind?.isNone then
      .warn (.entryType entry.type) (.fail .metadata)
    else
      listFrom map found rest
termination_by entries => entries.length
decreasing_by
  · simp only [List.length_drop, List.length_cons]; omega
  · simp only [List.length_cons]; omega

/-- The nodes of a directory's entries. -/
def list (map : CaseMap) (entries : List DirectoryEntry) : Inquiry I VolumeError (List Node) :=
  listFrom map [] entries

end Node

end BootExtents
