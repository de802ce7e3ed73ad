import BootExtents.Inquiry.Lemmas
import BootExtents.Proofs.Extent.Chain
import BootExtents.Volume.Basic
import Mathlib

/-!
# Reading from the image of a volume

The sectors of a volume come from a file that holds it. Then what is read of a cluster is the
range of that file where the cluster lies, and what is read of a chain are the ranges of its
clusters, one behind the other.

## Main definitions

* `BootExtents.InFile` — a range that can be read from a file.
* `BootExtents.volumeSectors`, `chainSectors` — the sectors of a volume in a file, as a volume and a
  chain ask for them.

## Main results

* `BootExtents.readExact_eq_ok_iff` — exactly the ranges in a file can be read.
* `BootExtents.Geometry.readCluster_eq_ok` — a cluster that can be read is a range of the file.
* `BootExtents.Geometry.readChain_eq_ok` — the clusters that were found follow one another.
* `BootExtents.Geometry.readData_eq_ok` — what is read of a chain.
* `BootExtents.Volume.sound_of_readData` — the clusters of a file that can be read as a whole are
  sound.
-/

set_option relaxedAutoImplicit false
set_option autoImplicit false

namespace BootExtents

/-! ### Ranges of a file -/

/-- A range that can be read from a file: it ends in the file, and its start can be asked for. -/
structure InFile (file : ByteArray) (position length : Nat) : Prop where
  position_lt : position < positionLimit
  stop_le : position + length ≤ file.size

section InFile

variable {file bytes : ByteArray} {position length start size count : Nat}

/-- Exactly the ranges in a file can be read. -/
theorem readExact_eq_ok_iff :
    readExact file position length = .ok bytes ↔
      InFile file position length ∧ bytes = file.extract position (position + length) := by
  unfold readExact
  constructor
  · intro h
    split_ifs at h with hlimit hstop
    obtain rfl := Except.ok.inj h
    exact ⟨⟨Nat.not_le.1 hlimit, hstop⟩, rfl⟩
  · rintro ⟨h, rfl⟩
    rw [if_neg (Nat.not_le.2 h.position_lt), if_pos h.stop_le]

/-- What lies in a file does so with fewer bytes. -/
lemma InFile.mono (h : InFile file position length) {less : Nat} (hle : less ≤ length) :
    InFile file position less :=
  ⟨h.position_lt, (Nat.add_le_add_left hle position).trans h.stop_le⟩

/-- Ranges of one size that follow one another are one range. -/
lemma InFile.of_row (hcount : 0 < count)
    (h : ∀ index < count, InFile file (start + index * size) size) :
    InFile file start (count * size) := by
  have hfirst := (h 0 hcount).position_lt
  have hlast := (h (count - 1) (by omega)).stop_le
  rw [Nat.zero_mul, Nat.add_zero] at hfirst
  rw [Nat.add_assoc, ← Nat.succ_mul, Nat.succ_eq_add_one, Nat.sub_add_cancel hcount] at hlast
  exact ⟨hfirst, hlast⟩

/-- A slice in the file has its full length. -/
lemma InFile.length_slice (h : InFile file position length) :
    (Bytes.slice file.data.toList position length).length = length := by
  have hstop := h.stop_le
  rw [Bytes.length_slice]
  exact min_eq_left (by simp; omega)

/-- Arrays with the same bytes are the same. -/
lemma eq_of_toList_eq {bytes others : ByteArray} (h : bytes.data.toList = others.data.toList) :
    bytes = others :=
  ByteArray.ext (Array.toList_inj.1 h)

/-- The front of an array is that of its bytes. -/
lemma toList_extract_zero (bytes : ByteArray) (length : Nat) :
    (bytes.extract 0 length).data.toList = bytes.data.toList.take length := by
  simp

/-- The front of an array is that of its bytes, also if it is cut at their end. -/
lemma toList_extract_min (bytes : ByteArray) (length : Nat) :
    (bytes.extract 0 (min length bytes.size)).data.toList = bytes.data.toList.take length := by
  rw [toList_extract_zero]
  exact List.take_eq_take_min.symm

/-- The bytes of ranges that follow one another are those of the whole. -/
lemma joined_extract_row (file : ByteArray) (start size count : Nat) :
    Packed.joined ((List.range count).map fun index =>
        file.extract (start + index * size) (start + index * size + size)) =
      file.extract start (start + count * size) := by
  refine eq_of_toList_eq ?_
  rw [Packed.toList_joined, List.flatMap_map, Packed.toList_extract, ← Bytes.flatMap_slice_range]
  simp only [Packed.toList_extract]

end InFile

/-- An outcome that has a value is this value. -/
lemma eq_ok_of_toOption_eq_some {ε α : Type} {outcome : Except ε α} {value : α}
    (h : outcome.toOption = some value) : outcome = .ok value := by
  cases outcome with
  | error error => cases h
  | ok found => exact congrArg _ (Option.some.inj h)

section MapM

variable {ε α β : Type} {f : α → Except ε β} {value : α → β} {items : List α}

/-- If every item of a list has a value, the list has their values. -/
lemma mapM_eq_ok_map (h : ∀ item ∈ items, f item = .ok (value item)) :
    items.mapM f = .ok (items.map value) := by
  induction items with
  | nil => rfl
  | cons item items ih =>
    rw [List.mapM_cons, h item (List.mem_cons_self ..),
      ih fun other hother => h other (List.mem_cons_of_mem _ hother)]
    rfl

/-- If every item of a list gives a value, and an item only gives the value expected of it, and only
under a condition, then all items meet the condition and the values are the expected ones. -/
lemma forall_and_eq_map_of_mapM_eq_ok {condition : α → Prop} {values : List β}
    (hvalue : ∀ item found, f item = .ok found → condition item ∧ found = value item)
    (h : items.mapM f = .ok values) :
    (∀ item ∈ items, condition item) ∧ values = items.map value := by
  induction items generalizing values with
  | nil =>
    obtain rfl := Except.ok.inj h
    exact ⟨by simp, rfl⟩
  | cons item items ih =>
    rw [List.mapM_cons] at h
    cases hitem : f item with
    | error error =>
      rw [hitem] at h
      cases h
    | ok first =>
      cases hitems : items.mapM f with
      | error error =>
        rw [hitem, hitems] at h
        cases h
      | ok rest =>
        rw [hitem, hitems] at h
        obtain rfl := Except.ok.inj h
        obtain ⟨hcondition, rfl⟩ := hvalue item first hitem
        obtain ⟨hconditions, rfl⟩ := ih hitems
        exact ⟨List.forall_mem_cons.2 ⟨hcondition, hconditions⟩, rfl⟩

end MapM

/-! ### Sectors and clusters -/

/-- The sectors of a volume that a file holds. -/
def volumeSectors (image : ByteArray) : Inquiry.Respondent Sectors VolumeError :=
  fun address => (readSector image address).mapError .io

/-- The same, as a cluster chain of the volume asks for them. -/
def chainSectors (image : ByteArray) : Inquiry.Respondent Sectors Error :=
  fun address => (volumeSectors image address).mapError .volume

/-- The sectors of a volume whose bytes are listed. -/
def listedSectors (bytes : List UInt8) : Inquiry.Respondent Sectors VolumeError := fun address =>
  if positionLimit ≤ address.position then .error (.io .invalidPosition)
  else
    let sector := Bytes.slice bytes address.position address.size
    if sector.length = address.size then .ok ⟨sector.toArray⟩ else .error (.io .endOfFile)

/-- The sectors of an image are those of the list of its bytes. -/
lemma volumeSectors_toArray (bytes : List UInt8) :
    volumeSectors ⟨bytes.toArray⟩ = listedSectors bytes := by
  funext address
  have hextract : ByteArray.extract ⟨bytes.toArray⟩ address.position
      (address.position + address.size) =
        ⟨(Bytes.slice bytes address.position address.size).toArray⟩ :=
    eq_of_toList_eq (Packed.toList_extract ..)
  have hwhole : address.position + address.size ≤ ByteArray.size ⟨bytes.toArray⟩ ↔
      (Bytes.slice bytes address.position address.size).length = address.size := by
    have hpos := address.size_pos
    rw [Bytes.length_slice]
    show _ ≤ bytes.length ↔ _
    omega
  show (readExact ⟨bytes.toArray⟩ address.position address.size).mapError VolumeError.io = _
  simp only [readExact, listedSectors, hextract, hwhole]
  split_ifs with hlimit hsector
  · rfl
  · rfl
  · rfl

/-- An inquiry about a volume ends the same way as part of one about a chain, its error being one of
the volume there. -/
lemma result_chainSectors {α : Type} (image : ByteArray) (inquiry : Inquiry Sectors VolumeError α) :
    (inquiry.mapError Error.volume).result (chainSectors image) =
      (inquiry.result (volumeSectors image)).mapError .volume :=
  Inquiry.result_mapError ..

namespace Geometry

variable {geometry : Geometry} {image bytes data : ByteArray} {cluster first : ClusterId}
  {contiguous : Bool} {clusters : List ClusterId} {length : Nat}

/-- The shift for sectors tells their size. -/
lemma two_pow_sectorShift (geometry : Geometry) :
    2 ^ geometry.sectorShift = geometry.sectorSize :=
  (Nat.one_shiftLeft _).symm

/-- The shift for clusters tells how many sectors they have. -/
lemma two_pow_clusterShift (geometry : Geometry) :
    2 ^ geometry.clusterShift = geometry.sectorsPerCluster :=
  (Nat.one_shiftLeft _).symm

/-- Both shifts together tell the size of a cluster. -/
lemma two_pow_add_shifts (geometry : Geometry) :
    2 ^ (geometry.sectorShift + geometry.clusterShift) = geometry.clusterSize :=
  (Nat.one_shiftLeft _).symm

/-- A sector has some bytes. -/
lemma sectorSize_pos (geometry : Geometry) : 0 < geometry.sectorSize := by
  rw [← two_pow_sectorShift]
  exact Nat.two_pow_pos _

/-- Sectors are whole numbers of disk units. -/
lemma diskUnitSize_dvd_sectorSize (geometry : Geometry) : diskUnitSize ∣ geometry.sectorSize := by
  rw [← two_pow_sectorShift]
  exact Nat.pow_dvd_pow 2 geometry.sectorShift_bounds.1

/-- A sector has at most 4096 bytes. -/
lemma sectorSize_le (geometry : Geometry) : geometry.sectorSize ≤ 2 ^ 12 := by
  rw [← two_pow_sectorShift]
  exact Nat.pow_le_pow_right (by decide) geometry.sectorShift_bounds.2

/-- A cluster has at most 2 to the power of 25 sectors. -/
lemma sectorsPerCluster_le (geometry : Geometry) : geometry.sectorsPerCluster ≤ 2 ^ 25 := by
  have hshift := geometry.clusterShift_bound
  rw [← two_pow_clusterShift]
  exact Nat.pow_le_pow_right (by decide) (by omega)

/-- A cluster has at most 2 to the power of 25 bytes. -/
lemma clusterSize_le (geometry : Geometry) : geometry.clusterSize ≤ 2 ^ 25 := by
  rw [← two_pow_add_shifts]
  exact Nat.pow_le_pow_right (by decide) geometry.clusterShift_bound

/-- However the numbers of a boot sector are chosen, clusters start far below what 64 bits hold. -/
lemma clusterOffset_lt (geometry : Geometry) (cluster : ClusterId) :
    geometry.clusterOffset cluster < 2 ^ 58 := by
  have hheap : geometry.heapStart ≤ 2 ^ 32 * 2 ^ 12 :=
    Nat.mul_le_mul geometry.heapOffset.toNat_lt.le geometry.sectorSize_le
  have hindex : heapIndex cluster ≤ 2 ^ 32 := (Nat.sub_le _ _).trans cluster.toNat_lt.le
  have hplace := Nat.mul_le_mul hindex geometry.clusterSize_le
  rw [clusterOffset]
  omega

/-- The sectors of a cluster lie in it, one behind the other. -/
lemma clusterSector_mul (geometry : Geometry) (cluster : ClusterId) (place : Nat) :
    (geometry.heapOffset.toNat + heapIndex cluster * geometry.sectorsPerCluster + place) *
        geometry.sectorSize =
      geometry.clusterOffset cluster + place * geometry.sectorSize := by
  rw [clusterOffset, heapStart, clusterSize_eq, Nat.add_mul, Nat.add_mul, Nat.mul_assoc]

/-- A sector that can be read is a range of the file. -/
lemma sector_eq_ok {number : Nat}
    (h : (geometry.sector number).result (volumeSectors image) = .ok bytes) :
    InFile image (number * geometry.sectorSize) geometry.sectorSize ∧
      bytes = image.extract (number * geometry.sectorSize)
        (number * geometry.sectorSize + geometry.sectorSize) := by
  have hquery : (geometry.sector number).result (volumeSectors image) =
      (readSector image ⟨geometry.sectorShift, number⟩).mapError .io :=
    Inquiry.result_query _ _
  rw [hquery] at h
  cases hread : readSector image ⟨geometry.sectorShift, number⟩ with
  | error error =>
    rw [hread] at h
    cases h
  | ok found =>
    rw [hread] at h
    obtain rfl := Except.ok.inj h
    exact readExact_eq_ok_iff.1 hread

/-- **A cluster that can be read** is the range of the file where it lies. -/
theorem readCluster_eq_ok
    (h : (geometry.readCluster cluster).result (volumeSectors image) = .ok bytes) :
    InFile image (geometry.clusterOffset cluster) geometry.clusterSize ∧
      bytes = image.extract (geometry.clusterOffset cluster)
        (geometry.clusterOffset cluster + geometry.clusterSize) := by
  obtain ⟨sectors, hsectors, hjoined⟩ := Inquiry.result_bind_eq_ok.1 h
  obtain rfl := Except.ok.inj hjoined
  rw [Inquiry.result_mapM] at hsectors
  obtain ⟨hfile, rfl⟩ := forall_and_eq_map_of_mapM_eq_ok (fun _ _ => sector_eq_ok) hsectors
  simp only [clusterSectors, List.mem_map, List.mem_range, forall_exists_index, and_imp,
    forall_apply_eq_imp_iff₂, clusterSector_mul] at hfile
  simp only [clusterSectors, List.map_map, Function.comp_def, clusterSector_mul]
  rw [clusterSize_eq]
  exact ⟨.of_row geometry.sectorsPerCluster_pos hfile, joined_extract_row _ _ _ _⟩

/-- **What is read of a chain** are the bytes of its clusters, cut to the length. -/
theorem readData_eq_ok
    (h : (geometry.readData first contiguous (some length)).result (volumeSectors image) =
      .ok data) :
    ∃ clusters,
      (geometry.readChain first contiguous (some length)).result (volumeSectors image) =
        .ok clusters ∧
      (∀ cluster ∈ clusters,
        InFile image (geometry.clusterOffset cluster) geometry.clusterSize) ∧
      data.data.toList = (clusters.flatMap fun cluster =>
        Bytes.slice image.data.toList (geometry.clusterOffset cluster)
          geometry.clusterSize).take length := by
  obtain ⟨clusters, hchain, hrest⟩ := Inquiry.result_bind_eq_ok.1 h
  obtain ⟨pieces, hpieces, hcut⟩ := Inquiry.result_bind_eq_ok.1 hrest
  obtain rfl := Except.ok.inj hcut
  rw [Inquiry.result_mapM] at hpieces
  obtain ⟨hfile, rfl⟩ := forall_and_eq_map_of_mapM_eq_ok (fun _ _ => readCluster_eq_ok) hpieces
  refine ⟨clusters, hchain, hfile, ?_⟩
  rw [toList_extract_min, Packed.toList_joined, List.flatMap_map]
  simp only [Packed.toList_extract]

end Geometry

/-! ### Chains -/

namespace Volume

variable {volume : Volume} {node : Node} {image data : ByteArray} {cluster : ClusterId}
  {answer : Inquiry.Respondent Sectors VolumeError} {contiguous : Bool}
  {clusters found : List ClusterId} {length limit : Nat}

/-- Clusters that are found from a cluster on: they start there and follow one another, and all are
valid. -/
structure Stretch (volume : Volume) (answer : Inquiry.Respondent Sectors VolumeError)
    (contiguous : Bool) (cluster : ClusterId) (clusters : List ClusterId) : Prop where
  valid : ∀ member ∈ clusters, volume.geometry.isValid member = true
  head : ∀ head ∈ clusters.head?, head = cluster
  follows : clusters.IsChain fun cluster next =>
    (volume.nextCluster contiguous cluster).result answer = .ok next

/-- The empty list is a stretch from any cluster. -/
lemma Stretch.nil (volume : Volume) (answer : Inquiry.Respondent Sectors VolumeError)
    (contiguous : Bool) (cluster : ClusterId) : Stretch volume answer contiguous cluster [] :=
  ⟨by simp, by simp, .nil⟩

/-- A valid cluster is a stretch by itself. -/
lemma Stretch.singleton (hvalid : volume.geometry.isValid cluster = true) :
    Stretch volume answer contiguous cluster [cluster] :=
  ⟨by simpa using hvalid, by simp, .singleton _⟩

/-- A valid cluster in front of a stretch from the next one is a stretch. -/
lemma Stretch.cons {next : ClusterId} (hvalid : volume.geometry.isValid cluster = true)
    (hnext : (volume.nextCluster contiguous cluster).result answer = .ok next)
    (h : Stretch volume answer contiguous next clusters) :
    Stretch volume answer contiguous cluster (cluster :: clusters) where
  valid := List.forall_mem_cons.2 ⟨hvalid, h.valid⟩
  head := by simp
  follows := List.isChain_cons.2 ⟨fun head hhead => by rw [hnext, h.head head hhead], h.follows⟩

/-- **The search for clusters** finds a stretch of at most as many as it may.

**Proof sketch.** Induction on the number of clusters still to be found. A neighbour is the next
cluster by its number, and an entry of the table that names a cluster is the next one as it is
stored. -/
theorem followChain_eq_ok
    (h : (volume.geometry.followChain contiguous limit cluster found).result answer =
      .ok clusters) :
    ∃ rest, clusters = found.reverse ++ rest ∧ rest.length ≤ limit ∧
      Stretch volume answer contiguous cluster rest := by
  induction limit generalizing cluster found with
  | zero =>
    obtain rfl := Except.ok.inj h
    exact ⟨[], by simp, le_rfl, .nil ..⟩
  | succ limit ih =>
    have hcons : ∀ {next : ClusterId},
        volume.geometry.isValid cluster = true →
        (volume.nextCluster contiguous cluster).result answer = .ok next →
        (volume.geometry.followChain contiguous limit next (cluster :: found)).result answer =
          .ok clusters →
        ∃ rest, clusters = found.reverse ++ rest ∧ rest.length ≤ limit + 1 ∧
          Stretch volume answer contiguous cluster rest := by
      intro next hvalid hnext hrest
      obtain ⟨rest, rfl, hlength, hstretch⟩ := ih hrest
      exact ⟨cluster :: rest, by simp, by simpa using hlength, hstretch.cons hvalid hnext⟩
    rw [Geometry.followChain] at h
    split at h
    · next hvalid =>
      cases contiguous with
      | true => exact hcons hvalid rfl h
      | false =>
        rw [if_neg (by simp)] at h
        obtain ⟨value, hentry, hrest⟩ := Inquiry.result_bind_eq_ok.1 h
        cases hmeaning : FatEntry.ofValue value with
        | next following =>
          rw [hmeaning] at hrest
          obtain ⟨rfl, -⟩ := FatEntry.ofValue_eq_next_iff.1 hmeaning
          exact hcons hvalid hentry hrest
        | last =>
          rw [hmeaning] at hrest
          obtain rfl := Except.ok.inj hrest
          exact ⟨[cluster], by simp, by simp, .singleton hvalid⟩
        | bad =>
          rw [hmeaning] at hrest
          cases hrest
        | meaningless =>
          rw [hmeaning] at hrest
          cases hrest
    · cases h

/-- No end of a cluster wraps in a volume: clusters lie far below what 64 bits hold. -/
lemma noWrap_chain (volume : Volume) (node : Node) (clusters : List ClusterId) :
    (volume.chain node).NoWrap volume.geometry.clusterOffset clusters := by
  refine List.isChain_iff_getElem.2 fun index hindex => ⟨?_, ?_⟩
  · have hoffset := volume.geometry.clusterOffset_lt clusters[index]
    have hsize := volume.geometry.clusterSize_le
    show volume.geometry.clusterOffset clusters[index] + volume.geometry.clusterSize < 2 ^ 64
    omega
  · exact (volume.geometry.clusterOffset_lt _).trans (by decide)

/-- Valid clusters that follow one another from the node's first one are the clusters of its
chain. -/
lemma Stretch.beginsWith
    (h : Stretch volume (volumeSectors image) node.isContiguous node.firstCluster clusters) :
    (volume.chain node).BeginsWith (chainSectors image) clusters := by
  refine ClusterChain.beginsWith_of_isChain (fun head hhead => ?_) ?_
  · rw [h.head head hhead]
    rfl
  · refine h.follows.imp fun cluster next hnext => ?_
    exact (result_chainSectors ..).trans (by rw [hnext]; rfl)

/-- **A file that can be read as a whole** has sound clusters, as many as its length needs, and
their bytes start with those of the file.

**Proof sketch.** The clusters read are no more than the length needs, and no fewer, since their
bytes are enough. A row of clusters that are whole numbers of image units is one as well. -/
theorem sound_of_readData (hwhole : imageUnitSize ∣ volume.geometry.clusterSize)
    (h : (volume.geometry.readData node.firstCluster node.isContiguous (some length)).result
      (volumeSectors image) = .ok data) (hsize : data.size = length) :
    ∃ clusters : List ClusterId, clusters.length = ceilDiv length volume.geometry.clusterSize ∧
      (volume.chain node).Sound (chainSectors image) volume.geometry.clusterOffset clusters ∧
      (∀ cluster ∈ clusters,
        InFile image (volume.geometry.clusterOffset cluster) volume.geometry.clusterSize) ∧
      data.data.toList = (clusters.flatMap fun cluster =>
        Bytes.slice image.data.toList (volume.geometry.clusterOffset cluster)
          volume.geometry.clusterSize).take length := by
  obtain ⟨clusters, hchain, hfile, hdata⟩ := Geometry.readData_eq_ok h
  obtain ⟨_, rfl, hle, hstretch⟩ := followChain_eq_ok hchain
  have henough : length ≤ clusters.length * volume.geometry.clusterSize := by
    have hbytes := congrArg List.length hdata
    rw [List.length_take, List.length_flatMap,
      List.map_congr_left fun cluster hcluster => (hfile cluster hcluster).length_slice] at hbytes
    rw [List.map_const', List.sum_replicate_nat] at hbytes
    have hall : data.data.toList.length = length := by simpa using hsize
    omega
  have hlength : clusters.length = ceilDiv length volume.geometry.clusterSize :=
    le_antisymm hle ((ceilDiv_le volume.geometry.clusterSize_pos _ _).2 henough)
  refine ⟨clusters, hlength, ⟨hstretch.beginsWith, hstretch.valid, fun row _ => ?_⟩, hfile, hdata⟩
  exact Nat.dvd_mul_left_of_dvd hwhole row.length

end Volume

end BootExtents
