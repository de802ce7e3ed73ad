import BootExtents.Proofs.Volume.Bounds
import BootExtents.Proofs.Volume.Words
import Mathlib

/-!
# Machine words suffice

The reader that checks the numbers of its volume against their words, and its indices against their
buffer, is the reader without checks. So no check fails, whatever the boot sector, the table and the
directories say: the numbers of a volume are bounded, and what has no bound by itself, such as the
number of a cluster, is looked at before it is used.

## Main results

* `BootExtents.Words.fatEntry_eq`, `readCluster_eq` — the table and the heap, with checks or without.
* `BootExtents.Words.ensures_followChain` — clusters are checked before they are read.
* `BootExtents.Words.mount_eq`, `entries_eq`, `lookup_eq`, `extract_eq` — the reader, likewise.
* `BootExtents.words_suffice` — no number that is checked leaves its word, and no index its buffer.
-/

set_option relaxedAutoImplicit false
set_option autoImplicit false

namespace BootExtents

namespace Words

variable {ε : Type}

/-! ### Sectors -/

section Clusters

variable (geometry : Geometry) {cluster : ClusterId}

/-- The size of a sector is a power of two that fits its word. -/
lemma one_shiftLeft_sectorShift :
    (shifted 64 1 geometry.sectorShift : Inquiry WordCalls ε Nat) = .done geometry.sectorSize := by
  have hle := geometry.sectorSize_le
  have hshift := geometry.sectorShift_bounds.2
  rw [← geometry.two_pow_sectorShift] at hle ⊢
  rw [shifted_of (by omega) (by omega), Nat.one_mul]

/-- A sector is asked for if its position is a number of 63 bits. -/
lemma sector_eq {number : Nat} (h : number * geometry.sectorSize < 2 ^ 63) :
    sector geometry number = (geometry.sector number).interpret calls := by
  have hbuffer : geometry.sectorSize ≤ bufferSize := geometry.sectorSize_le
  rw [sector, one_shiftLeft_sectorShift, Inquiry.done_then, checked_of hbuffer, Inquiry.done_then,
    word_of h]
  rfl

/-- The bytes of a sector are as many as its size says. -/
lemma ensures_sector (number : Nat) :
    ((geometry.sector number).interpret calls : Inquiry WordCalls VolumeError ByteArray).Ensures
      fun bytes => bytes.size = geometry.sectorSize :=
  fun bytes => bytes.property

/-- The shifts of sectors and clusters fit a byte together. -/
lemma word_shift :
    (word 8 (geometry.sectorShift + geometry.clusterShift) : Inquiry WordCalls ε Nat) =
      .done (geometry.sectorShift + geometry.clusterShift) := by
  have hshift := geometry.clusterShift_bound
  exact word_of (by omega)

/-- The size of a cluster is a number of 32 bits. -/
lemma clusterSize_eq :
    (clusterSize geometry : Inquiry WordCalls ε Nat) = .done geometry.clusterSize := by
  have hle := geometry.clusterSize_le
  have hshift := geometry.clusterShift_bound
  rw [← geometry.two_pow_add_shifts] at hle ⊢
  rw [clusterSize, word_shift, Inquiry.done_then, shifted_of (by omega) (by omega), Nat.one_mul]

variable {geometry}

/-- The number of a valid cluster is not smaller than that of the first one. -/
lemma heapIndex_eq (hvalid : geometry.isValid cluster = true) :
    (heapIndex cluster : Inquiry WordCalls ε Nat) = .done (Geometry.heapIndex cluster) :=
  difference_of (UInt32.le_iff_toNat_le.1 (geometry.bounded.firstCluster_le cluster hvalid))

/-- The place of a cluster on the volume is a number of 63 bits. -/
lemma clusterOffset_eq (hvalid : geometry.isValid cluster = true) :
    (clusterOffset geometry cluster : Inquiry WordCalls ε Nat) =
      .done (geometry.clusterOffset cluster) := by
  have hoffset := geometry.bounded.clusterOffset_lt cluster hvalid
  have hbound := geometry.sectorShift_bounds
  have hshift := geometry.clusterShift_bound
  rw [Geometry.clusterOffset, Geometry.heapStart, ← geometry.two_pow_sectorShift,
    ← geometry.two_pow_add_shifts] at hoffset ⊢
  rw [clusterOffset, shifted_of (by omega) (by omega), Inquiry.done_then, heapIndex_eq hvalid,
    Inquiry.done_then, word_shift, Inquiry.done_then, shifted_of (by omega) (by omega),
    Inquiry.done_then, word_of hoffset]

/-! ### The table -/

/-- To shift by the bits of a sector is to divide by its size. -/
lemma shiftRight_sectorShift (geometry : Geometry) (place : Nat) :
    place >>> geometry.sectorShift = place / geometry.sectorSize := by
  rw [Nat.shiftRight_eq_div_pow, geometry.two_pow_sectorShift]

/-- To mask the bits of a sector is to take the remainder by its size. -/
lemma and_sectorSize_sub_one (geometry : Geometry) (place : Nat) :
    place &&& (geometry.sectorSize - 1) = place % geometry.sectorSize := by
  rw [← geometry.two_pow_sectorShift, Nat.and_two_pow_sub_one_eq_mod]

/-- **The entry of a cluster** is read the same way, whatever number the cluster has.

**Proof sketch.** Beyond the table, both fail. Within it, the sector of the entry has a position of
63 bits, and the four bytes of the entry lie in that sector. -/
theorem fatEntry_eq (geometry : Geometry) (cluster : ClusterId) :
    fatEntry geometry cluster = (geometry.fatEntry cluster).interpret calls := by
  have hplace : cluster.toNat * 4 < 2 ^ 64 := by
    have hcluster := cluster.toNat_lt
    omega
  rw [fatEntry, Geometry.fatEntry, word_of hplace, Inquiry.done_then]
  dsimp only
  rw [shiftRight_sectorShift]
  by_cases hindex : cluster.toNat * 4 / geometry.sectorSize < geometry.fatLength.toNat
  · have hsector : geometry.fatSector? cluster =
        some (geometry.fatOffset.toNat + cluster.toNat * 4 / geometry.sectorSize) := if_pos hindex
    obtain ⟨hnumber, hposition⟩ := geometry.bounded.fatSector_lt cluster _ hsector
    rw [if_pos hindex, hsector, word_of hnumber, Inquiry.done_then]
    refine (ensures_sector geometry _).then_eq_interpret (sector_eq geometry hposition) ?_
    intro bytes hsize
    have hslot := geometry.bounded.fatSlot_le cluster
    rw [one_shiftLeft_sectorShift, Inquiry.done_then, difference_of geometry.sectorSize_pos,
      Inquiry.done_then, and_sectorSize_sub_one, ← Geometry.fatSlot]
    exact checked_of (by rw [hsize]; exact hslot) _
  · have hsector : geometry.fatSector? cluster = none := if_neg hindex
    rw [if_neg hindex, hsector]
    rfl

/-- The clusters that are found are valid.

**Proof sketch.** Induction on the number of clusters still to be found. Each is checked before it
is taken in, and before its entry is read. -/
lemma ensures_followChain (contiguous : Bool) (limit : Nat) (cluster : ClusterId)
    {found : List ClusterId} (hfound : ∀ member ∈ found, geometry.isValid member = true) :
    (geometry.followChain contiguous limit cluster found).Ensures fun clusters =>
      ∀ member ∈ clusters, geometry.isValid member = true := by
  induction limit generalizing cluster found with
  | zero =>
    intro member hmember
    exact hfound member (List.mem_reverse.1 hmember)
  | succ limit ih =>
    rw [Geometry.followChain]
    split
    · next hvalid =>
      have hcons : ∀ member ∈ cluster :: found, geometry.isValid member = true :=
        List.forall_mem_cons.2 ⟨hvalid, hfound⟩
      split
      · exact ih _ hcons
      · refine (Inquiry.ensures_true _).bind ?_
        intro value _
        cases FatEntry.ofValue value with
        | next following => exact ih following hcons
        | last =>
          intro member hmember
          exact hcons member (List.mem_reverse.1 hmember)
        | bad => exact trivial
        | meaningless => exact trivial
    · exact trivial

/-- **The search for clusters** is the same, from whatever number it starts.

**Proof sketch.** Induction on the number of clusters still to be found. What is not contiguous goes
on with the entry of the table (`fatEntry_eq`). -/
theorem followChain_eq (contiguous : Bool) (limit : Nat) (cluster : ClusterId)
    (found : List ClusterId) :
    followChain geometry contiguous limit cluster found =
      (geometry.followChain contiguous limit cluster found).interpret calls := by
  induction limit generalizing cluster found with
  | zero => rfl
  | succ limit ih =>
    rw [followChain, Geometry.followChain]
    split
    · split
      · exact ih ..
      · refine Inquiry.then_eq_interpret calls (fatEntry_eq geometry cluster) ?_
        intro value
        cases FatEntry.ofValue value with
        | next following => exact ih ..
        | last => rfl
        | bad => rfl
        | meaningless => rfl
    · rfl

/-- The size of a cluster divides the length, and it is not zero. -/
lemma chainLimit_eq (contiguous : Bool) (length : Option Nat) :
    chainLimit geometry contiguous length = .done (geometry.chainLimit contiguous length) := by
  cases length with
  | none => rfl
  | some length =>
    rw [chainLimit, clusterSize_eq, Inquiry.done_then]
    exact checked_of geometry.clusterSize_pos.ne' _

/-! ### The heap -/

/-- **The bytes of a cluster** are read the same way.

**Proof sketch.** The number of its first sector is not larger than those of its other sectors, and
these have positions of 63 bits. -/
theorem readCluster_eq (hvalid : geometry.isValid cluster = true) :
    readCluster geometry cluster = (geometry.readCluster cluster).interpret calls := by
  have hnumber : ∀ place ∈ List.range geometry.sectorsPerCluster,
      geometry.heapOffset.toNat + Geometry.heapIndex cluster * geometry.sectorsPerCluster + place
        ∈ geometry.clusterSectors cluster :=
    fun place hplace => List.mem_map_of_mem hplace
  have hfirst := (geometry.bounded.clusterSectors_lt cluster hvalid _
    (hnumber 0 (List.mem_range.2 geometry.sectorsPerCluster_pos))).1
  have hshift := geometry.clusterShift_bound
  have hbehind : Geometry.heapIndex cluster * 2 ^ geometry.clusterShift < 2 ^ 63 := by
    rw [geometry.two_pow_clusterShift]
    omega
  have hcount : 1 * 2 ^ geometry.clusterShift < 2 ^ 64 := by
    have hle := geometry.sectorsPerCluster_le
    rw [geometry.two_pow_clusterShift]
    omega
  rw [readCluster, heapIndex_eq hvalid, Inquiry.done_then, shifted_of (by omega) hbehind,
    Inquiry.done_then, geometry.two_pow_clusterShift, word_of (by omega), Inquiry.done_then,
    shifted_of (by omega) hcount, geometry.two_pow_clusterShift, Nat.one_mul, Inquiry.done_then,
    Geometry.readCluster]
  refine Inquiry.then_eq_interpret calls ?_ fun parts => rfl
  rw [Inquiry.interpret_mapM, Geometry.clusterSectors, List.mapM_map]
  refine Inquiry.mapM_congr ?_
  intro place hplace
  obtain ⟨hword, hposition⟩ :=
    geometry.bounded.clusterSectors_lt cluster hvalid _ (hnumber place hplace)
  rw [word_of hword, Inquiry.done_then]
  exact sector_eq geometry hposition

/-- **What is read of a chain** is the same.

**Proof sketch.** The clusters are the same (`followChain_eq`), and as they are valid
(`ensures_followChain`), their bytes are the same (`readCluster_eq`). -/
theorem readData_eq (first : ClusterId) (contiguous : Bool) (length : Option Nat) :
    readData geometry first contiguous length =
      (geometry.readData first contiguous length).interpret calls := by
  rw [readData, Geometry.readData, chainLimit_eq, Inquiry.done_then, Geometry.readChain]
  have hnone : ∀ member ∈ ([] : List ClusterId), geometry.isValid member = true := by simp
  have hvalid := ensures_followChain contiguous (geometry.chainLimit contiguous length) first hnone
  refine (hvalid.interpret calls).then_eq_interpret (followChain_eq ..) ?_
  intro clusters hclusters
  refine Inquiry.then_eq_interpret calls ?_ ?_
  · rw [Inquiry.interpret_mapM]
    exact Inquiry.mapM_congr fun cluster hcluster => readCluster_eq (hclusters cluster hcluster)
  · intro pieces
    cases length <;> rfl

/-! ### Directories -/

variable (geometry) in
/-- Reading a directory is the same with checks or without. -/
lemma readDirectory_eq (directory : Node) :
    readDirectory geometry directory = (geometry.readDirectory directory).interpret calls :=
  Inquiry.then_eq_interpret calls (readData_eq ..) fun _ => rfl

variable (geometry) in
/-- The case map is the same, for better or worse. -/
lemma readCaseMap_eq : readCaseMap geometry = geometry.readCaseMap.interpret calls := by
  rw [readCaseMap, Geometry.readCaseMap]
  refine Inquiry.then_eq_interpret calls (readDirectory_eq ..) ?_
  intro entries
  cases Geometry.caseMapEntry? entries with
  | none => rfl
  | some entry =>
    refine Inquiry.then_eq_interpret calls (readData_eq ..) ?_
    intro bytes
    dsimp only
    split <;> rfl

end Clusters

/-- Nothing is asked for to make a node of its entries. -/
lemma interpret_ofSet (map : CaseMap) (entries : List DirectoryEntry) :
    (Node.ofSet map entries : Inquiry Sectors VolumeError Node).interpret calls =
      Node.ofSet map entries := by
  unfold Node.ofSet
  split
  · dsimp only
    split_ifs <;> rfl
  · rfl

/-- Nothing is asked for to list the nodes of entries.

**Proof sketch.** Induction as the nodes are found. -/
lemma interpret_listFrom (map : CaseMap) (found : List Node) (entries : List DirectoryEntry) :
    (Node.listFrom map found entries : Inquiry Sectors VolumeError (List Node)).interpret calls =
      Node.listFrom map found entries := by
  fun_induction Node.listFrom (I := Sectors) map found entries with
  | case1 found => rw [Node.listFrom]; rfl
  | case2 found entry rest hend => rw [Node.listFrom, if_pos hend]; rfl
  | case3 found entry rest hend hfile count hshort =>
    rw [Node.listFrom, if_neg hend, if_pos hfile]
    dsimp only
    rw [if_pos hshort]
    rfl
  | case4 found entry rest hend hfile count hwhole ih =>
    rw [Node.listFrom, if_neg hend, if_pos hfile]
    dsimp only
    rw [if_neg hwhole]
    refine (Inquiry.then_eq_interpret calls (interpret_ofSet map _).symm ?_).symm
    intro node
    exact (ih node).symm
  | case5 found entry rest hend hfile hunknown =>
    rw [Node.listFrom, if_neg hend, if_neg hfile, if_pos hunknown]
    rfl
  | case6 found entry rest hend hfile hknown ih =>
    rw [Node.listFrom, if_neg hend, if_neg hfile, if_neg hknown]
    exact ih

section Volumes

variable (volume : Volume)

/-- **The nodes of a directory** are the same. -/
theorem entries_eq (directory : Node) :
    entries volume directory = (volume.entries directory).interpret calls :=
  Inquiry.then_eq_interpret calls (readDirectory_eq ..) fun found =>
    (interpret_listFrom volume.caseMap [] found).symm

/-- The node reached by names is the same, and so is the failure to reach it.

**Proof sketch.** Induction on the names. -/
lemma descend_eq (node : Node) (names : List String) :
    descend volume node names = (volume.descend node names).interpret calls := by
  induction names generalizing node with
  | nil => rfl
  | cons name names ih =>
    rw [descend, Volume.descend]
    split
    · refine Inquiry.then_eq_interpret calls (entries_eq volume node) ?_
      intro nodes
      cases volume.named? name nodes with
      | none => rfl
      | some found => exact ih found
    · rfl

/-- **The node at a path** is the same. -/
theorem lookup_eq (path : String) :
    lookup volume path = (volume.lookup path).interpret calls :=
  descend_eq volume volume.root (Volume.components path)

/-- Renaming errors leaves the questions. -/
lemma interpret_mapError_volume {α : Type} (inquiry : Inquiry Sectors VolumeError α) :
    (inquiry.mapError Error.volume).interpret calls =
      (inquiry.interpret calls).mapError Error.volume := by
  refine Inquiry.interpret_mapError ?_ inquiry
  intro address
  rfl

/-- The clusters of a node, with checks, stand for those without. A place is asked for valid
clusters only, and these have one of 63 bits. -/
lemma chain_interprets (node : Node) :
    (volume.chain node).Interprets calls (chain volume node volume.geometry.clusterSize) where
  clusterSize := rfl
  isValid := rfl
  first := rfl
  next cluster := by
    show Inquiry.mapError Error.volume _ = (Inquiry.mapError Error.volume _).interpret calls
    rw [interpret_mapError_volume, Volume.nextCluster]
    split
    · rfl
    · rw [fatEntry_eq]
  offset cluster hvalid := clusterOffset_eq hvalid

/-- **The regions of a node** are the same. -/
theorem extract_eq (node : Node) (length base : Nat) :
    extract volume node length base =
      (BootExtents.extract (volume.chain node) length base).interpret calls := by
  rw [extract, clusterSize_eq, Inquiry.done_then, checked_of volume.geometry.clusterSize_pos.ne',
    Inquiry.done_then]
  exact extract_interpret (chain_interprets volume node) length base

end Volumes

/-! ### Mounting -/

/-- What is left for the size of a cluster is not negative. -/
lemma geometry_eq (boot : ByteArray) :
    geometry boot = .ofExcept (Geometry.ofBootSector boot.data.toList) := by
  rw [geometry]
  split
  · next hshift =>
    rw [difference_of (by omega)]
    rfl
  · rfl

/-- **Mounting** is the same, whatever the boot sector tells. -/
theorem mount_eq : mount = Volume.mount.interpret calls := by
  refine Inquiry.then_eq_interpret calls rfl ?_
  intro boot
  rw [geometry_eq]
  refine Inquiry.then_eq_interpret calls ?_ ?_
  · cases Geometry.ofBootSector boot.data.toList <;> rfl
  · intro geometry
    exact Inquiry.then_eq_interpret calls (readCaseMap_eq geometry) fun caseMap => rfl

end Words

/-- **Machine words suffice** for the numbers of a volume, for every boot sector that is accepted.
Its two bytes for the sizes of sectors and clusters give a cluster of at most 2 to the power of 25
bytes. Mounting then never traps, whatever the sectors say, and neither does listing a directory,
following a path, reading an entry of the table or finding the regions of a node: no number that is
checked leaves its word, no divisor is zero and no index leaves its buffer. The bounds for these
numbers hold of every volume. What is not checked is told where the checks are: the addresses on the
disk, which depend on the base, and the room for the bytes of a chain. For the latter there is a
bound, by the length, or by the heap where the length is not known.

**Proof sketch.** With checks or without, the reader is the same (`Words.mount_eq`, `entries_eq`,
`lookup_eq`, `fatEntry_eq`, `extract_eq`), and a reader without checks asks for sectors only. -/
theorem words_suffice :
    (∀ boot geometry, Geometry.ofBootSector boot = .ok geometry →
      (boot.getD 108 0).toNat + (boot.getD 109 0).toNat ≤ 25 ∧
        geometry.clusterSize = 2 ^ ((boot.getD 108 0).toNat + (boot.getD 109 0).toNat)) ∧
    Words.StaysWithin Words.mount Volume.mount ∧
    ∀ volume : Volume,
      volume.geometry.Bounded ∧
      (∀ directory,
        Words.StaysWithin (Words.entries volume directory) (volume.entries directory)) ∧
      (∀ path, Words.StaysWithin (Words.lookup volume path) (volume.lookup path)) ∧
      (∀ cluster, Words.StaysWithin (Words.fatEntry volume.geometry cluster)
        (volume.geometry.fatEntry cluster)) ∧
      (∀ node length base, Words.StaysWithin (Words.extract volume node length base)
        (extract (volume.chain node) length base)) ∧
      ∀ first contiguous length answer clusters,
        (volume.geometry.readChain first contiguous length).result answer = .ok clusters →
        clusters.length * volume.geometry.clusterSize <
          length.getD (2 ^ 57) + volume.geometry.clusterSize := by
  refine ⟨?boot, .of_eq_interpret Words.mount_eq, fun volume => ⟨volume.geometry.bounded, ?_⟩⟩
  case boot =>
    intro boot geometry hboot
    obtain ⟨hsector, hcluster⟩ := Geometry.shifts_of_ofBootSector hboot
    rw [← hsector, ← hcluster]
    exact ⟨geometry.clusterShift_bound, geometry.two_pow_add_shifts.symm⟩
  refine ⟨?entries, ?lookup, ?entry, ?extract, ?room⟩
  case entries =>
    intro directory
    exact .of_eq_interpret (Words.entries_eq volume directory)
  case lookup =>
    intro path
    exact .of_eq_interpret (Words.lookup_eq volume path)
  case entry =>
    intro cluster
    exact .of_eq_interpret (Words.fatEntry_eq volume.geometry cluster)
  case extract =>
    intro node length base
    exact .of_eq_interpret (Words.extract_eq volume node length base)
  case room =>
    intro first contiguous length answer clusters hclusters
    obtain ⟨rest, rfl, hlength, -⟩ := Volume.followChain_eq_ok hclusters
    have hroom := Nat.mul_le_mul_right volume.geometry.clusterSize hlength
    exact hroom.trans_lt (volume.geometry.bounded.chainLimit_lt contiguous length)

/-- A volume that tells of more clusters than there are numbers for: even the last number is that of
a cluster, whose place fits. A row of neighbours needs room for its only cluster. -/
theorem words_suffice_overcounted :
    ∃ geometry, Geometry.ofBootSector overcountedVolume = .ok geometry ∧
      geometry.clusterSize = 2 ^ (9 + 2) ∧
      geometry.isValid 0xFFFFFFFF = true ∧ geometry.clusterOffset 0xFFFFFFFF < 2 ^ 63 ∧
      (geometry.readChain 3 true (some 100)).result (fun _ => .error .notFound) = .ok [3] ∧
      1 * geometry.clusterSize < 100 + geometry.clusterSize := by
  obtain ⟨hsizes, -, hvolume⟩ := words_suffice
  have hfields : ((Geometry.ofBootSector overcountedVolume).toOption.map fun geometry =>
      (geometry.clusterCount, geometry.chainLimit true (some 100))) = some (0xFFFFFFFF, 1) := by
    decide +kernel
  obtain ⟨geometry, hsome, hnumbers⟩ := Option.map_eq_some_iff.1 hfields
  obtain ⟨hcount, hlimit⟩ := Prod.mk.inj hnumbers
  have hboot := eq_ok_of_toOption_eq_some hsome
  have hvalid : ∀ cluster : ClusterId, 2 ≤ cluster.toNat → geometry.isValid cluster = true := by
    intro cluster hcluster
    refine Geometry.isValid_iff.2 ⟨hcluster, ?_⟩
    have hlt := cluster.toNat_lt
    rw [hcount]
    show cluster.toNat < 4294967295 + 2
    omega
  have hchain : (geometry.readChain 3 true (some 100)).result (fun _ => .error .notFound) =
      .ok [3] := by
    rw [Geometry.readChain, hlimit, Geometry.followChain, if_pos (hvalid 3 (by decide)), if_pos rfl]
    rfl
  obtain ⟨hbounded, -, -, -, -, hroom⟩ := hvolume ⟨geometry, ⟨#[]⟩⟩
  have hlast := hvalid 0xFFFFFFFF (by decide)
  exact ⟨geometry, hboot, (hsizes _ geometry hboot).2, hlast, hbounded.clusterOffset_lt _ hlast,
    hchain, hroom 3 true (some 100) _ [3] hchain⟩

end BootExtents
