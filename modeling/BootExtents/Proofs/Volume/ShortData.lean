import BootExtents.Proofs.Volume.Addresses
import BootExtents.Proofs.Volume.ClusterPath
import Mathlib

/-!
# Data that ends before its length

A directory and the case map have a recorded length. If their chain is over before it holds that
length, they are read as far as the chain goes, without an error. This is the only way to read less
than was asked for. A file whose chain is over too early is not mapped.

## Main definitions

* `BootExtents.Geometry.EndsAfter` — a chain is over after a number of steps.
* `BootExtents.Geometry.EndsBefore` — it is over before it holds a length.

## Main results

* `BootExtents.Geometry.size_readData_of_endsAfter` — what is read of a chain that is over.
* `BootExtents.Geometry.size_readData_eq_iff` — what is read is short exactly if the chain is over
  too early.
* `BootExtents.full_unless_ended` — this for data, directories and the case map, against a file.
* `BootExtents.directory_listed_short` — a directory whose chain is over too early is listed.
-/

set_option relaxedAutoImplicit false
set_option autoImplicit false

namespace BootExtents

namespace Geometry

/-- The chain from a cluster on is over after a number of steps: the entry there is an end mark. -/
def EndsAfter (geometry : Geometry) (answer : Inquiry.Respondent Sectors VolumeError)
    (first : ClusterId) (steps : Nat) : Prop :=
  ∃ cluster, geometry.ComesTo answer false first steps cluster ∧
    geometry.isValid cluster = true ∧ geometry.Says answer cluster .last

/-- Data is in a chain, not in a row of neighbours, and the chain is over before it holds all of
it. -/
def EndsBefore (geometry : Geometry) (answer : Inquiry.Respondent Sectors VolumeError)
    (first : ClusterId) (contiguous : Bool) (length : Nat) : Prop :=
  contiguous = false ∧
    ∃ steps, geometry.EndsAfter answer first steps ∧ (steps + 1) * geometry.clusterSize < length

variable {geometry : Geometry} {answer : Inquiry.Respondent Sectors VolumeError}
  {image data : ByteArray} {first : ClusterId} {contiguous : Bool} {clusters : List ClusterId}
  {length limit steps : Nat}

/-! ### Where a chain is over -/

/-- A path has as many clusters as its chain, up to the limit. -/
lemma IsPath.length_of_endsAfter (h : geometry.IsPath answer false limit first clusters)
    (hend : geometry.EndsAfter answer first steps) : clusters.length = min limit (steps + 1) := by
  obtain ⟨target, hcomes, hvalid, hlast⟩ := hend
  induction hcomes generalizing limit clusters with
  | start first =>
    cases limit with
    | zero => rw [isPath_zero.1 h, List.length_nil, Nat.zero_min]
    | succ limit =>
      rw [(isPath_succ_of_last hvalid hlast).1 h, List.length_singleton]
      omega
  | step hfirst hleads _ ih =>
    cases limit with
    | zero => rw [isPath_zero.1 h, List.length_nil, Nat.zero_min]
    | succ limit =>
      obtain ⟨rest, hrest, rfl⟩ := (isPath_succ_of_leadsTo hfirst hleads).1 h
      rw [List.length_cons, ih hrest hvalid hlast, Nat.add_min_add_right]

/-- A path below its limit has all clusters of its chain.

**Proof sketch.** Induction on the limit, along the walk: it does not stop, and it goes on until it
is over. -/
lemma IsPath.exists_endsAfter (h : geometry.IsPath answer false limit first clusters)
    (hlt : clusters.length < limit) :
    ∃ steps, geometry.EndsAfter answer first steps ∧ clusters.length = steps + 1 := by
  induction limit generalizing first clusters with
  | zero => exact absurd hlt (Nat.not_lt_zero _)
  | succ limit ih =>
    rcases geometry.step_cases answer false first with
      ⟨error, hstops⟩ | ⟨hvalid, ⟨next, hleads⟩ | ⟨-, hlast⟩⟩
    · exact absurd hstops h.not_stopsAt
    · obtain ⟨rest, hrest, rfl⟩ := (isPath_succ_of_leadsTo hvalid hleads).1 h
      obtain ⟨steps, ⟨target, hcomes, hend⟩, hlength⟩ := ih hrest (Nat.lt_of_succ_lt_succ hlt)
      exact ⟨steps + 1, ⟨target, .step hvalid hleads hcomes, hend⟩, congrArg Nat.succ hlength⟩
    · rw [(isPath_succ_of_last hvalid hlast).1 h]
      exact ⟨0, ⟨first, .start first, hvalid, hlast⟩, rfl⟩

/-- A walk along a chain that is over finds clusters, whatever the limit. -/
lemma EndsAfter.exists_followChain (hend : geometry.EndsAfter answer first steps) (limit : Nat) :
    ∃ clusters, (geometry.followChain false limit first []).result answer = .ok clusters := by
  obtain ⟨target, hcomes, hvalid, hlast⟩ := hend
  induction hcomes generalizing limit with
  | start first =>
    cases limit with
    | zero => exact ⟨[], rfl⟩
    | succ limit => exact ⟨_, result_followChain_of_last limit hvalid hlast⟩
  | step hfirst hleads _ ih =>
    cases limit with
    | zero => exact ⟨[], rfl⟩
    | succ limit =>
      obtain ⟨rest, hrest⟩ := ih limit hvalid hlast
      rw [result_followChain_of_leadsTo limit hfirst hleads, hrest]
      exact ⟨_, rfl⟩

/-! ### What is read -/

/-- What is read of clusters is all of them, cut to the length. -/
lemma exists_path_of_readData
    (h : (geometry.readData first contiguous (some length)).result (volumeSectors image) =
      .ok data) :
    ∃ clusters,
      geometry.IsPath (volumeSectors image) contiguous (ceilDiv length geometry.clusterSize) first
        clusters ∧
      data.size = min length (clusters.length * geometry.clusterSize) := by
  obtain ⟨clusters, hchain, hfile, hdata⟩ := readData_eq_ok h
  refine ⟨clusters, result_followChain_eq_ok_iff.1 hchain, ?_⟩
  have hbytes := congrArg List.length hdata
  rw [List.length_take, List.length_flatMap,
    List.map_congr_left fun cluster hcluster => (hfile cluster hcluster).length_slice,
    List.map_const', List.sum_replicate_nat] at hbytes
  exact hbytes

/-- The clusters of a chain are read, if the image has them. -/
lemma exists_readData_of_readChain
    (hchain : (geometry.readChain first contiguous (some length)).result (volumeSectors image) =
      .ok clusters)
    (hfile : ∀ cluster ∈ clusters,
      geometry.clusterOffset cluster + geometry.clusterSize ≤ image.size) :
    ∃ data, (geometry.readData first contiguous (some length)).result (volumeSectors image) =
        .ok data ∧
      data.data.toList = (clusters.flatMap fun cluster =>
        Bytes.slice image.data.toList (geometry.clusterOffset cluster)
          geometry.clusterSize).take length := by
  have hpieces : (clusters.mapM geometry.readCluster).result (volumeSectors image) =
      .ok (clusters.map fun cluster => image.extract (geometry.clusterOffset cluster)
        (geometry.clusterOffset cluster + geometry.clusterSize)) := by
    rw [Inquiry.result_mapM]
    refine mapM_eq_ok_map fun cluster hcluster => ?_
    rw [result_readCluster, readRange, if_pos (hfile cluster hcluster)]
  refine ⟨_, Inquiry.result_bind_eq_ok.2 ⟨clusters, hchain,
    Inquiry.result_bind_eq_ok.2 ⟨_, hpieces, rfl⟩⟩, ?_⟩
  rw [toList_extract_min, Packed.toList_joined, List.flatMap_map]
  simp only [Packed.toList_extract]

/-- **What is read of a chain that is over** is the chain as a whole, cut to the length. -/
theorem size_readData_of_endsAfter
    (h : (geometry.readData first false (some length)).result (volumeSectors image) = .ok data)
    (hend : geometry.EndsAfter (volumeSectors image) first steps) :
    data.size = min length ((steps + 1) * geometry.clusterSize) := by
  obtain ⟨clusters, hpath, hsize⟩ := exists_path_of_readData h
  have henough := le_ceilDiv_mul geometry.clusterSize_pos length
  rw [hsize, hpath.length_of_endsAfter hend, ← Nat.mul_min_mul_right, ← min_assoc, min_eq_left henough]

/-- A chain that is over is read, if the image has the heap. -/
lemma EndsAfter.exists_readData (hend : geometry.EndsAfter (volumeSectors image) first steps)
    (hheap : ∀ cluster, geometry.isValid cluster = true →
      geometry.clusterOffset cluster + geometry.clusterSize ≤ image.size) (length : Nat) :
    ∃ data, (geometry.readData first false (some length)).result (volumeSectors image) =
      .ok data := by
  obtain ⟨clusters, hclusters⟩ := hend.exists_followChain (ceilDiv length geometry.clusterSize)
  have hpath := result_followChain_eq_ok_iff.1 hclusters
  obtain ⟨data, hdata, -⟩ := exists_readData_of_readChain hclusters fun cluster hcluster =>
    hheap cluster (hpath.valid cluster hcluster)
  exact ⟨data, hdata⟩

/-- **What is read is short exactly if the chain is over too early.** -/
theorem size_readData_eq_iff
    (h : (geometry.readData first contiguous (some length)).result (volumeSectors image) =
      .ok data) :
    data.size = length ↔ ¬geometry.EndsBefore (volumeSectors image) first contiguous length := by
  constructor
  · rintro hsize ⟨rfl, steps, hend, hlt⟩
    have := size_readData_of_endsAfter h hend
    omega
  · intro hnot
    obtain ⟨clusters, hpath, hsize⟩ := exists_path_of_readData h
    by_contra hne
    have hshort : clusters.length * geometry.clusterSize < length := by omega
    have hlt := (lt_ceilDiv geometry.clusterSize_pos clusters.length length).2 hshort
    cases contiguous with
    | true => exact absurd (hpath.full rfl) hlt.ne
    | false =>
      obtain ⟨steps, hend, hlength⟩ := hpath.exists_endsAfter hlt
      exact hnot ⟨rfl, steps, hend, hlength ▸ hshort⟩

/-- Fewer bytes make fewer entries of a directory. -/
lemma length_readDirectory {directory : Node} {entries : List DirectoryEntry}
    (h : (geometry.readDirectory directory).result (volumeSectors image) = .ok entries)
    (hlength : directory.dataLength ≠ 0) :
    ∃ data, (geometry.readData directory.firstCluster directory.isContiguous
        (some directory.dataLength.toNat)).result (volumeSectors image) = .ok data ∧
      entries.length = data.size / entrySize := by
  obtain ⟨data, hdata, hentries⟩ := Inquiry.result_bind_eq_ok.1 h
  rw [if_neg hlength] at hdata
  obtain rfl := Except.ok.inj hentries
  exact ⟨data, hdata, by simp [DirectoryEntry.ofBytes]⟩

/-- The case map is made of the data that its entry tells of. -/
lemma exists_data_of_readCaseMap {map : CaseMap}
    (h : geometry.readCaseMap.result (volumeSectors image) = .ok map) :
    ∃ entries entry data,
      (geometry.readDirectory geometry.rootNode).result (volumeSectors image) = .ok entries ∧
      caseMapEntry? entries = some entry ∧
      (geometry.readData (Packed.u32At entry.block 20) false
        (some (Packed.u64At entry.block 24).toNat)).result (volumeSectors image) = .ok data ∧
      map = CaseMap.decode (Packed.u16s data) := by
  obtain ⟨entries, hentries, hrest⟩ := Inquiry.result_bind_eq_ok.1 h
  cases hentry : caseMapEntry? entries with
  | none =>
    rw [hentry] at hrest
    cases hrest
  | some entry =>
    rw [hentry] at hrest
    obtain ⟨data, hdata, hend⟩ := Inquiry.result_bind_eq_ok.1 hrest
    refine ⟨entries, entry, data, hentries, hentry, hdata, ?_⟩
    dsimp only at hend
    split at hend
    · exact (Except.ok.inj hend).symm
    · cases hend

end Geometry

/-! ### Files -/

namespace Volume

variable {volume : Volume} {node : Node} {image : ByteArray} {first target : ClusterId}
  {steps index length : Nat}

/-- The clusters that a walk comes to are those of the chain. -/
lemma clusterAt_of_comesTo (hchained : node.isContiguous = false)
    (h : volume.geometry.ComesTo (volumeSectors image) false first steps target)
    (hat : (volume.chain node).clusterAt (chainSectors image) index = .ok first) :
    (volume.chain node).clusterAt (chainSectors image) (index + steps) = .ok target := by
  induction h generalizing index with
  | start => exact hat
  | step _ hleads _ ih =>
    rw [← Nat.succ_add_eq_add_succ]
    refine ih ((ClusterChain.clusterAt_succ hat).trans ?_)
    show ((volume.nextCluster node.isContiguous _).mapError _).result _ = _
    rw [result_chainSectors, nextCluster, hchained, if_neg Bool.false_ne_true,
      (Geometry.says_next_iff.1 hleads).1]
    rfl

/-- A file whose chain is over too early is not mapped, where the heap is not larger than the table
has numbers for. -/
lemma exists_error_of_endsBefore (base : Nat)
    (hcount : volume.geometry.clusterCount.toNat ≤ Geometry.maxClusterCount)
    (h : volume.geometry.EndsBefore (volumeSectors image) node.firstCluster node.isContiguous
      length) :
    ∃ error,
      (extract (volume.chain node) length base).result (chainSectors image) = .error error := by
  obtain ⟨hchained, steps, ⟨target, hcomes, -, value, hvalue, hlast⟩, hlt⟩ := h
  have hfirst : (volume.chain node).clusterAt (chainSectors image) 0 = .ok node.firstCluster := rfl
  have hat := clusterAt_of_comesTo hchained hcomes hfirst
  rw [Nat.zero_add] at hat
  have hentry : ((volume.geometry.fatEntry target).mapError .volume).result (chainSectors image) =
      .ok value := by
    rw [result_chainSectors, hvalue]
    rfl
  exact volume.exists_error_of_mark base hcount hchained
    ((lt_ceilDiv volume.geometry.clusterSize_pos _ _).2 hlt) hat hentry fun next => by simp [hlast]

end Volume

/-- **Data is read in full, unless its chain is over too early.** What is read for a length has that
length exactly if its chain is not over before, and else it is as long as the chain. If the image
has the heap, this is never an error. So a directory has the entries for its length, or those in its
chain; and the case map is made of as many bytes as its entry tells, or of those in its chain. But a
file whose chain is over too early is not mapped. -/
theorem full_unless_ended (volume : Volume) (image : ByteArray) :
    (∀ first contiguous length data,
      (volume.geometry.readData first contiguous (some length)).result (volumeSectors image) =
        .ok data →
      (data.size = length ↔
        ¬volume.geometry.EndsBefore (volumeSectors image) first contiguous length) ∧
      ∀ steps, contiguous = false → volume.geometry.EndsAfter (volumeSectors image) first steps →
        data.size = min length ((steps + 1) * volume.geometry.clusterSize)) ∧
    ((∀ cluster, volume.geometry.isValid cluster = true →
        volume.geometry.clusterOffset cluster + volume.geometry.clusterSize ≤ image.size) →
      ∀ first steps length, volume.geometry.EndsAfter (volumeSectors image) first steps →
        ∃ data, (volume.geometry.readData first false (some length)).result (volumeSectors image) =
          .ok data) ∧
    (∀ directory entries, directory.dataLength ≠ 0 →
      (volume.geometry.readDirectory directory).result (volumeSectors image) = .ok entries →
      (¬volume.geometry.EndsBefore (volumeSectors image) directory.firstCluster
          directory.isContiguous directory.dataLength.toNat →
        entries.length = directory.dataLength.toNat / entrySize) ∧
      ∀ steps, directory.isContiguous = false →
        volume.geometry.EndsAfter (volumeSectors image) directory.firstCluster steps →
        entries.length = min directory.dataLength.toNat
          ((steps + 1) * volume.geometry.clusterSize) / entrySize) ∧
    (∀ map, volume.geometry.readCaseMap.result (volumeSectors image) = .ok map →
      ∃ entries entry data,
        (volume.geometry.readDirectory volume.root).result (volumeSectors image) = .ok entries ∧
        Geometry.caseMapEntry? entries = some entry ∧ map = CaseMap.decode (Packed.u16s data) ∧
        (data.size = (Packed.u64At entry.block 24).toNat ↔
          ¬volume.geometry.EndsBefore (volumeSectors image) (Packed.u32At entry.block 20) false
            (Packed.u64At entry.block 24).toNat)) ∧
    (∀ node length base, volume.geometry.clusterCount.toNat ≤ Geometry.maxClusterCount →
      volume.geometry.EndsBefore (volumeSectors image) node.firstCluster node.isContiguous length →
      ∃ error,
        (extract (volume.chain node) length base).result (chainSectors image) = .error error) := by
  refine ⟨?_, fun hheap first steps length hend => hend.exists_readData hheap length, ?_, ?_,
    fun node length base => Volume.exists_error_of_endsBefore base⟩
  · intro first contiguous length data hdata
    refine ⟨Geometry.size_readData_eq_iff hdata, fun steps hchained hend => ?_⟩
    subst hchained
    exact Geometry.size_readData_of_endsAfter hdata hend
  · intro directory entries hlength hentries
    obtain ⟨data, hdata, hcount⟩ := Geometry.length_readDirectory hentries hlength
    refine ⟨fun hnot => ?_, fun steps hchained hend => ?_⟩
    · rw [hcount, (Geometry.size_readData_eq_iff hdata).2 hnot]
    · rw [hchained] at hdata
      rw [hcount, Geometry.size_readData_of_endsAfter hdata hend]
  · intro map hmap
    obtain ⟨entries, entry, data, hentries, hentry, hdata, hdecode⟩ :=
      Geometry.exists_data_of_readCaseMap hmap
    exact ⟨entries, entry, data, hentries, hentry, hdecode, Geometry.size_readData_eq_iff hdata⟩

/-- The bytes of a volume with two clusters of 512 bytes: the root directory, and the first half of
a directory by the name of `d`, which has no second half. -/
def cutVolume : List UInt8 :=
  let zeros (count : Nat) : List UInt8 := List.replicate count 0
  -- The boot sector, its FAT at sector 1, its heap at sector 2.
  Geometry.signature ++ (zeros 69 ++
    ([1, 0, 0, 0, 1, 0, 0, 0, 2, 0, 0, 0, 2, 0, 0, 0, 2, 0, 0, 0] ++ (zeros 8 ++
    ([9, 0, 1] ++ (zeros 401 ++
  -- The FAT: both clusters are the last ones of their chains.
  (zeros 8 ++ ([0xFF, 0xFF, 0xFF, 0xFF, 0xFF, 0xFF, 0xFF, 0xFF] ++ (zeros 496 ++
  -- The root directory: an empty case map, and the three entries of the directory.
  ([0x82] ++ (zeros 31 ++
    ([0x85, 2, 0x1E, 0x33, 0x10] ++ (zeros 27 ++
    ([0xC0, 1, 0, 1, 0x32, 0, 0, 0, 0, 4] ++ (zeros 10 ++ ([3, 0, 0, 0, 0, 4, 0, 0, 0, 0, 0, 0] ++
    ([0xC1, 0, 0x64] ++ (zeros 29 ++ (zeros 384 ++
  -- The cluster of the directory: an empty file by the name of `a`.
  ([0x85, 2, 0x66, 0x30] ++ (zeros 28 ++
    ([0xC0, 1, 0, 1, 0x30, 0x80] ++ (zeros 26 ++
    ([0xC1, 0, 0x61] ++ (zeros 29 ++ zeros 416))))))))))))))))))))))))

/-- This volume, mounted. Its table and its heap lie as those of `endedVolume`, with a sector for
each cluster. -/
def mountedCutVolume : Volume where
  geometry := { endedVolume.geometry with clusterShift := 0, clusterShift_bound := by decide }
  caseMap := ⟨#[]⟩

/-- What is read of the directory is short, and no file in its clusters could be mapped. -/
theorem full_unless_ended_cut_volume : ∃ data,
    (mountedCutVolume.geometry.readData 3 false (some 1024)).result
        (volumeSectors ⟨cutVolume.toArray⟩) = .ok data ∧
      data.size = min 1024 ((0 + 1) * 512) ∧ data.size ≠ 1024 ∧
      ∃ error, (extract (mountedCutVolume.chain ⟨"d", 3, 1024, 1024, false, false⟩) 1024 0).result
        (chainSectors ⟨cutVolume.toArray⟩) = .error error := by
  obtain ⟨hfull, -, -, -, hfile⟩ := full_unless_ended mountedCutVolume ⟨cutVolume.toArray⟩
  have hentry : (mountedCutVolume.geometry.fatEntry 3).result (volumeSectors ⟨cutVolume.toArray⟩) =
      .ok 0xFFFFFFFF := by
    rw [volumeSectors_toArray]
    exact eq_ok_of_toOption_eq_some (by decide +kernel)
  have hend : mountedCutVolume.geometry.EndsAfter (volumeSectors ⟨cutVolume.toArray⟩) 3 0 :=
    ⟨3, .start 3, rfl, 0xFFFFFFFF, hentry, by decide⟩
  have hbefore : mountedCutVolume.geometry.EndsBefore (volumeSectors ⟨cutVolume.toArray⟩) 3 false
      1024 := ⟨rfl, 0, hend, by decide⟩
  have hclusters : (mountedCutVolume.geometry.readChain 3 false (some 1024)).result
      (volumeSectors ⟨cutVolume.toArray⟩) = .ok [3] := by
    rw [volumeSectors_toArray]
    exact eq_ok_of_toOption_eq_some (by decide +kernel)
  have himage : ByteArray.size ⟨cutVolume.toArray⟩ = 2048 := by decide +kernel
  obtain ⟨data, hdata, -⟩ := Geometry.exists_readData_of_readChain hclusters fun cluster h => by
    rw [List.mem_singleton.1 h, himage]
    decide
  obtain ⟨hiff, hsize⟩ := hfull 3 false 1024 data hdata
  exact ⟨data, hdata, hsize 0 rfl hend, fun h => hiff.1 h hbefore,
    hfile _ 1024 0 (by decide) hbefore⟩

/-- What mounting this volume and listing the directory give: the file in its first half, and no
error. -/
theorem directory_listed_short : ∃ volume node data nodes,
    Volume.mount.result (volumeSectors ⟨cutVolume.toArray⟩) = .ok volume ∧
      (volume.lookup "d").result (volumeSectors ⟨cutVolume.toArray⟩) = .ok node ∧
      node.isDirectory = true ∧ node.isContiguous = false ∧ node.dataLength = 1024 ∧
      (volume.geometry.fatEntry node.firstCluster).result (volumeSectors ⟨cutVolume.toArray⟩) =
        .ok 0xFFFFFFFF ∧
      (volume.geometry.readData node.firstCluster node.isContiguous (some 1024)).result
        (volumeSectors ⟨cutVolume.toArray⟩) = .ok data ∧
      data.size = 512 ∧
      (volume.entries node).result (volumeSectors ⟨cutVolume.toArray⟩) = .ok nodes ∧
      nodes.map (·.name) = ["a"] := by
  have hnames : Volume.components "d" = ["d"] := by cbv
  have hrun : ((do
      let volume ← Volume.mount
      let node ← volume.descend volume.root ["d"]
      let entry ← volume.geometry.fatEntry node.firstCluster
      let clusters ← volume.geometry.readChain node.firstCluster false (some 1024)
      return (node, entry, clusters, volume.caseMap, volume.geometry.clusterSize,
          volume.geometry.heapStart) :
        Inquiry Sectors VolumeError _).result (listedSectors cutVolume)).toOption =
      some (⟨"d", 3, 1024, 1024, true, false⟩, 0xFFFFFFFF, [3], ⟨#[]⟩, 512, 1024) := by
    decide +kernel
  rw [← volumeSectors_toArray] at hrun
  have hok := eq_ok_of_toOption_eq_some hrun
  obtain ⟨volume, hmount, hrest⟩ := Inquiry.result_bind_eq_ok.1 hok
  obtain ⟨node, hnode, hrest⟩ := Inquiry.result_bind_eq_ok.1 hrest
  obtain ⟨entry, hentry, hrest⟩ := Inquiry.result_bind_eq_ok.1 hrest
  obtain ⟨clusters, hclusters, hend⟩ := Inquiry.result_bind_eq_ok.1 hrest
  have hvalues := Except.ok.inj hend
  simp only [Prod.mk.injEq] at hvalues
  obtain ⟨rfl, rfl, rfl, hmap, hsize, hheap⟩ := hvalues
  have hoffset : volume.geometry.clusterOffset 3 = 1536 := by
    rw [Geometry.clusterOffset, hheap, hsize]
    decide
  have himage : ByteArray.size ⟨cutVolume.toArray⟩ = 2048 := by decide +kernel
  obtain ⟨data, hdata, hbytes⟩ := Geometry.exists_readData_of_readChain hclusters fun cluster h => by
    rw [List.mem_singleton.1 h, hoffset, hsize, himage]
  obtain rfl : data = ⟨(Bytes.slice cutVolume 1536 512).toArray⟩ := by
    refine eq_of_toList_eq ?_
    rw [hbytes, List.flatMap_singleton, hoffset, hsize, Bytes.take_slice,
      min_eq_right (by decide : 512 ≤ 1024)]
  have hlisted : ((Node.list volume.caseMap (DirectoryEntry.ofBytes
      ⟨(Bytes.slice cutVolume 1536 512).toArray⟩) : Inquiry Sectors VolumeError _).result
        (listedSectors cutVolume)).toOption.map (List.map (·.name)) = some ["a"] := by
    rw [hmap]
    decide +kernel
  rw [← volumeSectors_toArray] at hlisted
  obtain ⟨nodes, hnodes, hname⟩ := Option.map_eq_some_iff.1 hlisted
  refine ⟨volume, _, _, nodes, hmount, ?_, rfl, rfl, rfl, hentry, hdata, by decide +kernel, ?_, hname⟩
  · rw [Volume.lookup, hnames]
    exact hnode
  · exact Inquiry.result_bind_eq_ok.2 ⟨_, Inquiry.result_bind_eq_ok.2 ⟨_, hdata, rfl⟩,
      eq_ok_of_toOption_eq_some hnodes⟩

end BootExtents
