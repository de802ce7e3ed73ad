import BootExtents.Proofs.Extent.Faults
import BootExtents.Proofs.Inquiry.Ensures
import BootExtents.Proofs.Volume.Reading
import Mathlib

/-!
# A reader that works with machine words

The numbers of a volume are words of 8, 32 and 64 bits, and its sectors are read into a buffer. Here
the reader of a volume is written once more, with checks on the arithmetic of the volume's own
numbers: the sizes of sectors and clusters, the place of a cluster in the heap and of its entry in
the table, the numbers of sectors and their positions, the clusters that hold some bytes, and the
four bytes of an entry in the buffer. A check fails where such a number leaves its word, a difference
is negative, a divisor is zero or an index leaves the buffer. Where a check fails, the reader traps.

There is no check on these numbers:

* The neighbour of a cluster and checksums wrap around on purpose.
* The fields of a directory entry lie in its 32 bytes by its type.
* Addresses on the disk, where a file's base is added to the place of a cluster and the size of an
  extent to its start, are sums modulo 2 ^ 64 (`Extent.onDisk`, `Extent.stop`). They stay below that
  for bases that leave room for the volume, which it is not for the volume to tell.
* The room that is set aside for the bytes of a chain is what its clusters hold. For a length just
  below 2 ^ 64 this can reach 2 ^ 64, by clusters that no memory has room to list.

## Main definitions

* `BootExtents.WordCalls` — sectors that are as long as asked for, and traps.
* `BootExtents.Words.checked`, `word`, `difference`, `shifted`, `quotient` — checks.
* `BootExtents.Words.mount`, `entries`, `lookup`, `fatEntry`, `extract` — the reader with checks.
* `BootExtents.Words.calls` — the sectors that the reader without checks asks for.
* `BootExtents.Words.StaysWithin` — in every run, no check fails.

## Main results

* `BootExtents.Words.StaysWithin.of_eq_interpret` — no check fails in what asks for sectors only.
-/

set_option relaxedAutoImplicit false
set_option autoImplicit false

namespace BootExtents

/-! ### Checks -/

/-- What a reader asks for that works with machine words. -/
inductive WordCall where
  /-- A sector. -/
  | sector (address : SectorAddress)
  /-- To be stopped, as a number has left its word or an index its buffer. -/
  | trap
deriving DecidableEq

/-- The interface of these calls. A sector has as many bytes as its address says, and nothing comes
back from a trap. -/
abbrev WordCalls : Interface where
  Question := WordCall
  Answer
    | .sector address => { bytes : ByteArray // bytes.size = address.size }
    | .trap => Empty

namespace Words

variable {ε α : Type}

/-- A value behind a check. -/
def checked (condition : Prop) [Decidable condition] (value : α) : Inquiry WordCalls ε α :=
  if condition then .done value else .ask (I := WordCalls) .trap Empty.elim

/-- A number that must fit a word of some bits. -/
def word (bits number : Nat) : Inquiry WordCalls ε Nat :=
  checked (number < 2 ^ bits) number

/-- A difference that must not be negative. -/
def difference (number less : Nat) : Inquiry WordCalls ε Nat :=
  checked (less ≤ number) (number - less)

/-- A word of some bits that is shifted to the left, by less than its bits and without losing
any. -/
def shifted (bits number shift : Nat) : Inquiry WordCalls ε Nat :=
  checked (shift < bits ∧ number <<< shift < 2 ^ bits) (number <<< shift)

/-- A quotient, rounded up, whose divisor must not be zero. -/
def quotient (number divisor : Nat) : Inquiry WordCalls ε Nat :=
  checked (divisor ≠ 0) (ceilDiv number divisor)

/-! ### The reader with checks -/

/-- The bytes of the buffer for a sector. -/
def bufferSize : Nat := 4096

section Clusters

variable (geometry : Geometry)

/-- A sector of the volume. Its position is a number of 63 bits, and it fits the buffer. -/
def sector (number : Nat) : Inquiry WordCalls VolumeError ByteArray := do
  let size ← shifted 64 1 geometry.sectorShift
  let size ← checked (size ≤ bufferSize) size
  let _position ← word 63 (number * size)
  .ask (I := WordCalls) (.sector ⟨geometry.sectorShift, number⟩) fun bytes => .done bytes.val

/-- The bytes of a cluster: a word of 32 bits, shifted by a byte. -/
def clusterSize : Inquiry WordCalls ε Nat := do
  let shift ← word 8 (geometry.sectorShift + geometry.clusterShift)
  shifted 32 1 shift

/-- The place of a cluster in the heap, which no number before the first cluster has. -/
def heapIndex (cluster : ClusterId) : Inquiry WordCalls ε Nat :=
  difference cluster.toNat firstCluster.toNat

/-- The byte of the volume where a cluster starts. -/
def clusterOffset (cluster : ClusterId) : Inquiry WordCalls ε Nat := do
  let start ← shifted 63 geometry.heapOffset.toNat geometry.sectorShift
  let index ← heapIndex cluster
  let shift ← word 8 (geometry.sectorShift + geometry.clusterShift)
  let behind ← shifted 63 index shift
  word 63 (start + behind)

/-- The stored entry of a cluster, whose four bytes lie in the sector that was read. -/
def fatEntry (cluster : ClusterId) : Inquiry WordCalls VolumeError UInt32 := do
  let place ← word 64 (cluster.toNat * 4)
  let index := place >>> geometry.sectorShift
  if index < geometry.fatLength.toNat then
    let number ← word 63 (geometry.fatOffset.toNat + index)
    let bytes ← sector geometry number
    let size ← shifted 64 1 geometry.sectorShift
    let mask ← difference size 1
    let slot := place &&& mask
    checked (slot + 4 ≤ bytes.size) (Packed.u32At bytes slot)
  else
    .fail .fatChain

/-- At most `limit` more clusters from `cluster` on, behind those found before, which are given
newest first. The number behind the last one is the first one again. -/
def followChain (contiguous : Bool) :
    (limit : Nat) → ClusterId → List ClusterId → Inquiry WordCalls VolumeError (List ClusterId)
  | 0, _, found => .done found.reverse
  | limit + 1, cluster, found =>
    if geometry.isValid cluster then
      if contiguous then
        followChain contiguous limit (cluster + 1) (cluster :: found)
      else do
        match FatEntry.ofValue (← fatEntry geometry cluster) with
        | .next following => followChain contiguous limit following (cluster :: found)
        | .last => return (cluster :: found).reverse
        | .bad | .meaningless _ => .fail .fatChain
    else
      .warn (.clusterOutOfHeap cluster) (.fail .fatChain)

/-- At most how many clusters hold `length` bytes. -/
def chainLimit (contiguous : Bool) : Option Nat → Inquiry WordCalls VolumeError Nat
  | some length => do quotient length (← clusterSize geometry)
  | none => .done (if contiguous then 1 else geometry.clusterCount.toNat)

/-- The bytes of a cluster, whose sectors have numbers of 63 bits. -/
def readCluster (cluster : ClusterId) : Inquiry WordCalls VolumeError ByteArray := do
  let index ← heapIndex cluster
  let behind ← shifted 63 index geometry.clusterShift
  let first ← word 63 (geometry.heapOffset.toNat + behind)
  let count ← shifted 64 1 geometry.clusterShift
  let parts ← (List.range count).mapM fun place => do
    sector geometry (← word 63 (first + place))
  return Packed.joined parts

/-- The bytes of the clusters from a first one on, at most `length` of them. -/
def readData (first : ClusterId) (contiguous : Bool) (length : Option Nat) :
    Inquiry WordCalls VolumeError ByteArray := do
  let limit ← chainLimit geometry contiguous length
  let clusters ← followChain geometry contiguous limit first []
  let bytes := Packed.joined (← clusters.mapM (readCluster geometry))
  match length with
  | some length => return bytes.extract 0 (min length bytes.size)
  | none => return bytes

/-- The entries of a directory. -/
def readDirectory (directory : Node) : Inquiry WordCalls VolumeError (List DirectoryEntry) := do
  let length := if directory.dataLength = 0 then none else some directory.dataLength.toNat
  let bytes ← readData geometry directory.firstCluster directory.isContiguous length
  return DirectoryEntry.ofBytes bytes

/-- The case map of the volume, if its checksum is right. -/
def readCaseMap : Inquiry WordCalls VolumeError CaseMap := do
  let entries ← readDirectory geometry geometry.rootNode
  match Geometry.caseMapEntry? entries with
  | none => .fail .caseMapMissing
  | some entry =>
    let length := (Packed.u64At entry.block 24).toNat
    let bytes ← readData geometry (Packed.u32At entry.block 20) false (some length)
    let computed := Checksum.rotating 32 bytes.data.toList
    let stored := Packed.u32At entry.block 4
    if computed = stored.toNat then
      return CaseMap.decode (Packed.u16s bytes)
    else
      .warn (.caseMapChecksum computed stored.toNat) (.fail .metadata)

end Clusters

/-- The geometry that a boot sector tells. What is left for the size of a cluster is worked out only
if the size of a sector is within its limits. -/
def geometry (boot : ByteArray) : Inquiry WordCalls VolumeError Geometry := do
  let shift := (boot.data.toList.getD 108 0).toNat
  if 9 ≤ shift ∧ shift ≤ 12 then
    let _room ← difference 25 shift
    .ofExcept (Geometry.ofBootSector boot.data.toList)
  else
    .ofExcept (Geometry.ofBootSector boot.data.toList)

/-- Mounts a volume. -/
def mount : Inquiry WordCalls VolumeError Volume := do
  let boot ← .ask (I := WordCalls) (.sector Volume.bootAddress) fun bytes => .done bytes.val
  let geometry ← geometry boot
  let caseMap ← readCaseMap geometry
  return ⟨geometry, caseMap⟩

section Volumes

variable (volume : Volume)

/-- The nodes of a directory, in order. -/
def entries (directory : Node) : Inquiry WordCalls VolumeError (List Node) := do
  Node.list volume.caseMap (← readDirectory volume.geometry directory)

/-- The node reached from another one by names, each the first match in its directory. -/
def descend : Node → List String → Inquiry WordCalls VolumeError Node
  | node, [] => .done node
  | node, name :: names =>
    if node.isDirectory then do
      match volume.named? name (← entries volume node) with
      | some found => descend found names
      | none => .fail .notFound
    else
      .fail .notFound

/-- The node at a path. -/
def lookup (path : String) : Inquiry WordCalls VolumeError Node :=
  descend volume volume.root (Volume.components path)

/-- The clusters of a node, each of `size` bytes. -/
def chain (node : Node) (size : Nat) : ClusterChain WordCalls where
  clusterSize := size
  isValid := volume.geometry.isValid
  first := .done node.firstCluster
  next cluster :=
    (if node.isContiguous then .done (cluster + 1) else fatEntry volume.geometry cluster).mapError
      .volume
  offset := clusterOffset volume.geometry

/-- The regions of the first `length` bytes of a node. The size of a cluster is a divisor here. -/
def extract (node : Node) (length base : Nat) : Inquiry WordCalls Error RegionList := do
  let size ← clusterSize volume.geometry
  let size ← checked (size ≠ 0) size
  BootExtents.extract (chain volume node size) length base

end Volumes

/-! ### Checks that do not fail -/

/-- The sectors that the reader without checks asks for. -/
def calls : (address : Sectors.Question) → Inquiry WordCalls ε (Sectors.Answer address) :=
  fun address => .ask (I := WordCalls) (.sector address) fun bytes => .done bytes.val

/-- A check that holds does nothing. -/
lemma checked_of {condition : Prop} [Decidable condition] (h : condition) (value : α) :
    (checked condition value : Inquiry WordCalls ε α) = .done value :=
  if_pos h

/-- A number that fits its word is that number. -/
lemma word_of {bits number : Nat} (h : number < 2 ^ bits) :
    (word bits number : Inquiry WordCalls ε Nat) = .done number :=
  checked_of h number

/-- A difference that is not negative is that difference. -/
lemma difference_of {number less : Nat} (h : less ≤ number) :
    (difference number less : Inquiry WordCalls ε Nat) = .done (number - less) :=
  checked_of h _

/-- A shift that loses no bits is a product. -/
lemma shifted_of {bits number shift : Nat} (hshift : shift < bits)
    (h : number * 2 ^ shift < 2 ^ bits) :
    (shifted bits number shift : Inquiry WordCalls ε Nat) = .done (number * 2 ^ shift) := by
  rw [← Nat.shiftLeft_eq] at h ⊢
  exact checked_of ⟨hshift, h⟩ _

/-- In every run of a reader with checks, no check fails, and it ends as a reader without checks
does that gets the same sectors. -/
structure StaysWithin (machine : Inquiry WordCalls ε α) (reader : Inquiry Sectors ε α) : Prop where
  not_mem_asked : ∀ answer, WordCall.trap ∉ machine.asked answer
  result_eq : ∀ answer, machine.result answer =
    reader.result fun address => (answer (.sector address)).map Subtype.val

/-- A question for a sector is put as it is. -/
lemma interpret_ask (address : Sectors.Question)
    (rest : Sectors.Answer address → Inquiry Sectors ε α) :
    (Inquiry.ask address rest).interpret calls =
      .ask (I := WordCalls) (.sector address) fun bytes => (rest bytes.val).interpret calls :=
  rfl

/-- The answer for a sector is its bytes. -/
lemma result_calls (answer : Inquiry.Respondent WordCalls ε) (address : SectorAddress) :
    (calls address).result answer = (answer (.sector address)).map Subtype.val := by
  unfold calls Inquiry.result
  cases answer (.sector address) <;> rfl

/-- What asks for sectors does not trap.

**Proof sketch.** Induction on the reader. Each of its questions becomes one for a sector. -/
lemma trap_not_mem_asked (answer : Inquiry.Respondent WordCalls ε) (reader : Inquiry Sectors ε α) :
    WordCall.trap ∉ (reader.interpret calls).asked answer := by
  induction reader with
  | done value => exact List.not_mem_nil
  | fail error => exact List.not_mem_nil
  | warn warning rest ih => exact ih
  | ask address rest ih =>
    rw [interpret_ask, Inquiry.asked]
    intro hmem
    rcases List.mem_cons.1 hmem with heq | hrest
    · cases heq
    · cases hanswer : answer (.sector address) with
      | ok bytes =>
        rw [hanswer] at hrest
        exact ih bytes.val hrest
      | error error =>
        rw [hanswer] at hrest
        exact List.not_mem_nil hrest

/-- **A reader that asks for sectors only, and for those of a reader without checks**, stays within
its words. -/
theorem StaysWithin.of_eq_interpret {machine : Inquiry WordCalls ε α}
    {reader : Inquiry Sectors ε α} (h : machine = reader.interpret calls) :
    StaysWithin machine reader where
  not_mem_asked answer := by
    rw [h]
    exact trap_not_mem_asked answer reader
  result_eq answer := by
    rw [h, Inquiry.result_interpret]
    congr 1
    funext address
    exact result_calls answer address

end Words

end BootExtents
