import BootExtents.Extent.Chain
import BootExtents.Volume.Allocation
import BootExtents.Volume.Node

/-!
# Volumes

An exFAT volume is mounted by reading its geometry and its case map. Then directories can be
listed, paths looked up, and the clusters of a file visited.

## Main definitions

* `BootExtents.Volume` — a mounted volume.
* `BootExtents.Volume.mount` — mounting.
* `BootExtents.Volume.entries` — the nodes of a directory.
* `BootExtents.Volume.lookup` — the node at a path.
* `BootExtents.Volume.chain` — the clusters of a node.
-/

set_option relaxedAutoImplicit false
set_option autoImplicit false

namespace BootExtents

/-- A mounted volume. -/
structure Volume where
  /-- Where things lie on it. -/
  geometry : Geometry
  /-- How its names are compared. -/
  caseMap : CaseMap

namespace Geometry

/-- The root directory, whose length is not stored. -/
def rootNode (geometry : Geometry) : Node :=
  { name := "/"
    firstCluster := geometry.root
    dataLength := 0
    validDataLength := 0
    isDirectory := true
    isContiguous := false }

/-- The entries of a directory. A length of zero stands for one that is not known. -/
def readDirectory (geometry : Geometry) (directory : Node) :
    Inquiry Sectors VolumeError (List DirectoryEntry) := do
  let length := if directory.dataLength = 0 then none else some directory.dataLength.toNat
  let bytes ← geometry.readData directory.firstCluster directory.isContiguous length
  return DirectoryEntry.ofBytes bytes

/-- The entry of the case map in the root directory. -/
def caseMapEntry? (entries : List DirectoryEntry) : Option DirectoryEntry :=
  (entries.takeWhile fun entry => !entry.isEnd).find? (·.is .caseMap)

/-- The case map of the volume, if its checksum is right. -/
def readCaseMap (geometry : Geometry) : Inquiry Sectors VolumeError CaseMap := do
  let entries ← geometry.readDirectory geometry.rootNode
  match caseMapEntry? entries with
  | none => .fail .caseMapMissing
  | some entry =>
    let length := (Packed.u64At entry.block 24).toNat
    let bytes ← geometry.readData (Packed.u32At entry.block 20) false (some length)
    let computed := Checksum.rotating 32 bytes.data.toList
    let stored := Packed.u32At entry.block 4
    if computed = stored.toNat then
      return CaseMap.decode (Packed.u16s bytes)
    else
      .warn (.caseMapChecksum computed stored.toNat) (.fail .metadata)

end Geometry

namespace Volume

/-! ### Mounting -/

/-- Where the boot sector lies, whatever the volume's sector size. -/
def bootAddress : SectorAddress := ⟨9, 0⟩

/-- Mounts a volume. -/
def mount : Inquiry Sectors VolumeError Volume := do
  let boot ← Inquiry.query (I := Sectors) bootAddress
  let geometry ← .ofExcept (Geometry.ofBootSector boot.data.toList)
  let caseMap ← geometry.readCaseMap
  return ⟨geometry, caseMap⟩

/-! ### Directories -/

/-- The root directory. -/
def root (volume : Volume) : Node :=
  volume.geometry.rootNode

/-- The nodes of a directory, in order. -/
def entries (volume : Volume) (directory : Node) : Inquiry Sectors VolumeError (List Node) := do
  Node.list volume.caseMap (← volume.geometry.readDirectory directory)

/-- The names on a path, from the root on. -/
def components (path : String) : List String :=
  (path.splitOn "/").filter (· ≠ "")

/-- The first of some nodes that goes by a name, upper and lower case being the same. -/
def named? (volume : Volume) (name : String) (nodes : List Node) : Option Node :=
  let upper := volume.caseMap.upperName name
  nodes.find? fun node => volume.caseMap.upperName node.name = upper

/-- The node reached from another one by names, each the first match in its directory. -/
def descend (volume : Volume) : Node → List String → Inquiry Sectors VolumeError Node
  | node, [] => .done node
  | node, name :: names =>
    if node.isDirectory then do
      match volume.named? name (← volume.entries node) with
      | some found => volume.descend found names
      | none => .fail .notFound
    else
      .fail .notFound

/-- The node at a path. -/
def lookup (volume : Volume) (path : String) : Inquiry Sectors VolumeError Node :=
  volume.descend volume.root (components path)

/-! ### Clusters -/

/-- The cluster that follows another in the data of a node: its neighbour, or the stored entry of
the allocation table, whatever that means. -/
def nextCluster (volume : Volume) (contiguous : Bool) (cluster : ClusterId) :
    Inquiry Sectors VolumeError ClusterId :=
  if contiguous then .done (cluster + 1) else volume.geometry.fatEntry cluster

/-- The clusters of a node. The sizes on which their places depend are worked out once. -/
def chain (volume : Volume) (node : Node) : ClusterChain Sectors :=
  let start := volume.geometry.heapStart
  let size := volume.geometry.clusterSize
  { clusterSize := size
    isValid := volume.geometry.isValid
    first := .done node.firstCluster
    next := fun cluster => (volume.nextCluster node.isContiguous cluster).mapError .volume
    offset := fun cluster => .done (start + Geometry.heapIndex cluster * size) }

end Volume

end BootExtents
