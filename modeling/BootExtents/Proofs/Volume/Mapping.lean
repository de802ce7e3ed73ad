import BootExtents.Location.Source
import BootExtents.Proofs.Extent.Regions
import BootExtents.Proofs.Region.Printed
import BootExtents.Proofs.Volume.Reading
import Mathlib

/-!
# Linear tables of files

The printed lines of a linear table tell ranges of a partition. Read one behind the other, they are
an image of the file that the table was made of: of the file's bytes, as the volume's reader has
them, and of the rest of the last image unit.

## Main definitions

* `BootExtents.LinearTable.Row.range` — the bytes of the partition that a line of a table tells.
* `BootExtents.LinearTable.read` — the bytes that lines tell, read from the partition.

## Main results

* `BootExtents.LinearTable.read_ofExtents` — what is read by the table of a layout.
* `BootExtents.take_flatMap_extents` — the extents of rows start with the bytes of the rows.
* `BootExtents.read_linearTable_of_readData` — what is printed of a file tells the file's bytes.
-/

set_option relaxedAutoImplicit false
set_option autoImplicit false

namespace BootExtents

/-! ### What a table tells -/

namespace LinearTable

/-- The range of the partition that a line tells, as position and length. -/
def Row.range (row : Row) : Nat × Nat :=
  (row.offset * diskUnitSize, row.count * diskUnitSize)

/-- The bytes of the partition that lines tell, one line behind the other. -/
def read (rows : List Row) (partition : ByteArray) : Except IoError ByteArray := do
  return Packed.joined (← rows.mapM fun row => readExact partition row.range.1 row.range.2)

variable {extent : Extent} {extents : List Extent} {unit : Nat} {partition : ByteArray}

/-- The lines for the regions of a layout tell its extents, in whole image units, from the
partition's start. -/
lemma range_rows_ofExtents (device : String) (start : Nat) (h : Extent.IsLayout extents)
    (hunits : unit + Extent.units extents < 2 ^ 32) :
    (rows ⟨.ofRegions (Region.ofExtents unit extents), device, start⟩).map Row.range =
      extents.map fun extent => (extent.start - start * diskUnitSize,
        ceilDiv extent.size imageUnitSize * imageUnitSize) := by
  induction extents generalizing unit with
  | nil => rfl
  | cons extent extents ih =>
    rw [Extent.units_cons] at hunits
    have hcount := Region.toNat_imageCount_ofExtent unit
      (show ceilDiv extent.size imageUnitSize < 2 ^ 32 by omega)
    have hdisk := Region.toNat_diskStart_ofExtent unit (h.start_lt extent (List.mem_cons_self ..))
    have hdvd := Nat.div_mul_cancel (h.start_dvd extent (List.mem_cons_self ..))
    have hrest : unit + ceilDiv extent.size imageUnitSize + Extent.units extents < 2 ^ 32 := by
      omega
    have htail := ih h.tail hrest
    have hratio : unitsPerImageUnit * diskUnitSize = imageUnitSize := by decide
    rw [List.map_cons, ← htail]
    simp only [rows, RegionList.unitRatio_ofRegions]
    simp only [RegionList.ofRegions, Region.ofExtents, List.map_cons, Row.range, List.cons.injEq,
      Prod.mk.injEq, and_true]
    refine ⟨?_, ?_⟩
    · rw [hdisk, Nat.sub_mul, hdvd]
    · rw [hcount, Nat.mul_assoc, hratio]

/-- **Reading by the lines for a layout** gives the extents, in whole image units. -/
theorem read_ofExtents (device : String) (start : Nat) (h : Extent.IsLayout extents)
    (hunits : Extent.units extents < 2 ^ 32)
    (hfile : ∀ extent ∈ extents, InFile partition (extent.start - start * diskUnitSize)
      (ceilDiv extent.size imageUnitSize * imageUnitSize)) :
    ∃ bytes,
      read (rows ⟨.ofRegions (Region.ofExtents 0 extents), device, start⟩) partition = .ok bytes ∧
      bytes.data.toList = extents.flatMap fun extent =>
        Bytes.slice partition.data.toList (extent.start - start * diskUnitSize)
          (ceilDiv extent.size imageUnitSize * imageUnitSize) := by
  have hranges := range_rows_ofExtents device start h (by rwa [Nat.zero_add])
  have hread : (rows ⟨.ofRegions (Region.ofExtents 0 extents), device, start⟩).mapM
      (fun row => readExact partition row.range.1 row.range.2) =
        .ok (((rows ⟨.ofRegions (Region.ofExtents 0 extents), device, start⟩).map Row.range).map
          fun range => partition.extract range.1 (range.1 + range.2)) := by
    rw [List.map_map]
    refine mapM_eq_ok_map fun row hrow => ?_
    have hrange := List.mem_map_of_mem (f := Row.range) hrow
    rw [hranges] at hrange
    obtain ⟨extent, hextent, hrange⟩ := List.mem_map.1 hrange
    rw [← hrange]
    exact readExact_eq_ok_iff.2 ⟨hfile extent hextent, by rw [Function.comp_apply, ← hrange]⟩
  rw [read, hread, hranges]
  refine ⟨_, rfl, ?_⟩
  rw [Packed.toList_joined, List.flatMap_map, List.flatMap_map]
  simp only [Packed.toList_extract]

end LinearTable

/-! ### Rows and their bytes -/

section Rows

variable {I : Interface} {chain : ClusterChain I} {place : ClusterId → Nat}
  {base left : Nat} {clusters row : List ClusterId} {rows : List (List ClusterId)}
  {image : ByteArray}

/-- A row of clusters that lie in a file lies there as a whole. -/
lemma InFile.of_mem_rows (hwrap : chain.NoWrap place clusters)
    (h : ∀ cluster ∈ clusters, InFile image (place cluster) chain.clusterSize)
    (hrow : row ∈ chain.rows place clusters) :
    InFile image (place (row.headD firstCluster)) (row.length * chain.clusterSize) := by
  refine .of_row (List.length_pos_of_ne_nil (ClusterChain.ne_nil_of_mem_rows hrow)) ?_
  intro index hindex
  rw [← ClusterChain.place_getElem_row hwrap hrow index hindex]
  apply h
  rw [← ClusterChain.flatten_rows chain place clusters]
  exact List.mem_flatten_of_mem hrow (List.getElem_mem hindex)

/-- The bytes of the clusters of a row are one slice. -/
lemma flatMap_slice_row (bytes : List UInt8) (hwrap : chain.NoWrap place clusters)
    (hrow : row ∈ chain.rows place clusters) :
    (row.flatMap fun cluster => Bytes.slice bytes (place cluster) chain.clusterSize) =
      Bytes.slice bytes (place (row.headD firstCluster)) (row.length * chain.clusterSize) := by
  have hplaces : row.map place = (List.range row.length).map fun index =>
      place (row.headD firstCluster) + index * chain.clusterSize := by
    refine List.ext_getElem (by simp) fun index hindex _ => ?_
    rw [List.length_map] at hindex
    rw [List.getElem_map, List.getElem_map, List.getElem_range,
      ClusterChain.place_getElem_row hwrap hrow index hindex]
  have hslices : (row.flatMap fun cluster => Bytes.slice bytes (place cluster) chain.clusterSize) =
      (row.map place).flatMap fun position => Bytes.slice bytes position chain.clusterSize := by
    rw [List.flatMap_map]
  rw [hslices, hplaces, List.flatMap_map, Bytes.flatMap_slice_range]

/-- The bytes of clusters are those of their rows. -/
lemma flatMap_slice_rows (bytes : List UInt8) (hwrap : chain.NoWrap place clusters) :
    (clusters.flatMap fun cluster => Bytes.slice bytes (place cluster) chain.clusterSize) =
      (chain.rows place clusters).flatMap fun row =>
        Bytes.slice bytes (place (row.headD firstCluster)) (row.length * chain.clusterSize) := by
  conv_lhs => rw [← ClusterChain.flatten_rows chain place clusters]
  rw [List.flatten_eq_flatMap, List.flatMap_assoc]
  exact List.flatMap_congr fun row hrow => flatMap_slice_row bytes hwrap hrow

/-- **The extents of rows start with the bytes of the rows**, as many as are left.

**Proof sketch.** Induction on the rows. A row that holds all the bytes left is the last one, and
its extent, in whole image units, is long enough. Any other row is its own extent. -/
theorem take_flatMap_extents
    (hdvd : imageUnitSize ∣ chain.clusterSize) (hne : ∀ row ∈ rows, row ≠ [])
    (hlt : ∀ row ∈ rows, base + place (row.headD firstCluster) < 2 ^ 64)
    (hfile : ∀ row ∈ rows,
      InFile image (place (row.headD firstCluster)) (row.length * chain.clusterSize))
    (hleft : rows.flatten.length * chain.clusterSize < left + chain.clusterSize) :
    ((chain.extents place base left rows).flatMap fun extent =>
        Bytes.slice image.data.toList (extent.start - base)
          (ceilDiv extent.size imageUnitSize * imageUnitSize)).take left =
      (rows.flatMap fun row => Bytes.slice image.data.toList (place (row.headD firstCluster))
        (row.length * chain.clusterSize)).take left := by
  induction rows generalizing left with
  | nil => rfl
  | cons row rows ih =>
    rw [List.flatten_cons, List.length_append, Nat.add_mul] at hleft
    rw [ClusterChain.extents, List.flatMap_cons, List.flatMap_cons,
      ClusterChain.start_rowExtent (hlt row (List.mem_cons_self ..)), ClusterChain.rowExtent,
      Extent.size_onDisk, Nat.add_sub_cancel_left]
    rcases Nat.lt_or_ge (row.length * chain.clusterSize) left with hmore | hlast
    · have hfull : min (row.length * chain.clusterSize) left = row.length * chain.clusterSize :=
        min_eq_left hmore.le
      rw [hfull, ceilDiv_mul_of_dvd imageUnitSize_pos (Nat.dvd_mul_left_of_dvd hdvd _),
        List.take_append, List.take_append, (hfile row (List.mem_cons_self ..)).length_slice]
      rw [ih (fun other hother => hne other (List.mem_cons_of_mem _ hother))
        (fun other hother => hlt other (List.mem_cons_of_mem _ hother))
        (fun other hother => hfile other (List.mem_cons_of_mem _ hother)) (by omega)]
    · have hnil : rows = [] := by
        cases rows with
        | nil => rfl
        | cons next rows =>
          have hnext := Nat.le_mul_of_pos_left chain.clusterSize
            (List.length_pos_of_ne_nil (hne next (by simp)))
          rw [List.flatten_cons, List.length_append, Nat.add_mul] at hleft
          omega
      subst hnil
      have hroom := le_ceilDiv_mul imageUnitSize_pos left
      simp only [ClusterChain.extents, List.flatMap_nil, List.append_nil, Bytes.take_slice,
        min_eq_right hlast, min_eq_left hlast, min_eq_left hroom]

end Rows

/-! ### Tables of files -/

namespace Volume

variable {volume : Volume} {node : Node} {image data : ByteArray} {path : String} {base start : Nat}

/-- The regions of a file of a mounted volume are extracted from its clusters. -/
lemma result_fileRegions (hmount : mount.result (volumeSectors image) = .ok volume)
    (hlookup : (volume.lookup path).result (volumeSectors image) = .ok node)
    (hfile : node.isDirectory = false) :
    (fileRegions path base).result (chainSectors image) =
      (extract (volume.chain node) node.dataLength.toNat base).result (chainSectors image) := by
  rw [fileRegions, Inquiry.bind_eq, Inquiry.result_bind, result_chainSectors, hmount]
  show Inquiry.result (chainSectors image) (Inquiry.bind _ _) = _
  rw [Inquiry.result_bind, result_chainSectors, hlookup]
  show Inquiry.result (chainSectors image) (if node.isDirectory = true then _ else _) = _
  rw [if_neg (by simp [hfile])]

/-- The numbers of a file of a volume fit a region list. -/
lemma fits_chain {answer : Inquiry.Respondent Sectors Error} {length : Nat}
    (hbase : diskUnitSize ∣ base) (hunits : ceilDiv length imageUnitSize < 2 ^ 32)
    (hstart : ∀ index < ceilDiv length volume.geometry.clusterSize, ∀ cluster,
      (volume.chain node).clusterAt answer index = .ok cluster →
        base + volume.geometry.clusterOffset cluster < 2 ^ 64) :
    (volume.chain node).Fits answer volume.geometry.clusterOffset length base where
  placed _ _ := rfl
  size_pos := volume.geometry.clusterSize_pos
  base_dvd := hbase
  place_dvd _ _ cluster _ :=
    Nat.dvd_trans volume.geometry.diskUnitSize_dvd_sectorSize
      (volume.geometry.sectorSize_dvd_clusterOffset cluster)
  start_lt := hstart
  units_lt := hunits

end Volume

/-- **What is printed of a file tells the file's bytes.** Where the volume's reader has all bytes of
a file, its regions are found. What is printed of their table consists of lines, one for each
region, and the ranges of the partition that these lines tell, read in their order, start with the
bytes of the file.

**Proof sketch.** What was read gives sound clusters in the partition, which start with the bytes of
the file (`Volume.sound_of_readData`). Sound clusters are extracted, and the regions are those of
the layout of their rows (`ClusterChain.Fits.exists_layout`). What is printed is read as the lines
of the table (`LinearTable.rowsOfText?_text`). By these the extents are read
(`LinearTable.read_ofExtents`), which start with the bytes of the clusters, row by row
(`take_flatMap_extents`). -/
theorem read_linearTable_of_readData {image data : ByteArray} {path : String} (device : String)
    {start : Nat} {volume : Volume} {node : Node}
    (hmount : Volume.mount.result (volumeSectors image) = .ok volume)
    (hwhole : imageUnitSize ∣ volume.geometry.clusterSize)
    (hlookup : (volume.lookup path).result (volumeSectors image) = .ok node)
    (hfile : node.isDirectory = false) (hlength : 0 < node.dataLength.toNat)
    (hunits : ceilDiv node.dataLength.toNat imageUnitSize < 2 ^ 32)
    (hstart : ∀ index < ceilDiv node.dataLength.toNat volume.geometry.clusterSize, ∀ cluster,
      (volume.chain node).clusterAt (chainSectors image) index = .ok cluster →
        start * diskUnitSize + volume.geometry.clusterOffset cluster < 2 ^ 64)
    (hdata : (volume.geometry.readData node.firstCluster node.isContiguous
      (some node.dataLength.toNat)).result (volumeSectors image) = .ok data)
    (hsize : data.size = node.dataLength.toNat) :
    ∃ list rows bytes,
      (extract (volume.chain node) node.dataLength.toNat (start * diskUnitSize)).result
        (chainSectors image) = .ok list ∧
      (fileRegions path (start * diskUnitSize)).result (chainSectors image) = .ok list ∧
      LinearTable.rowsOfText? device (LinearTable.text ⟨list, device, start⟩).toList = some rows ∧
      rows.length = list.regions.length ∧
      LinearTable.read rows image = .ok bytes ∧
      bytes.extract 0 node.dataLength.toNat = data := by
  obtain ⟨clusters, hcount, hsound, hclusters, hbytes⟩ :=
    Volume.sound_of_readData hwhole hdata hsize
  have hpos := volume.geometry.clusterSize_pos
  have hfits := Volume.fits_chain (Nat.dvd_mul_left _ _) hunits hstart
  have hmax : clusters.length =
      max (ceilDiv node.dataLength.toNat volume.geometry.clusterSize) 1 := by
    have hneeded := (lt_ceilDiv hpos 0 node.dataLength.toNat).2 (by simpa)
    omega
  obtain ⟨list, hextract⟩ : ∃ list, (extract (volume.chain node) node.dataLength.toNat
      (start * diskUnitSize)).result (chainSectors image) = .ok list :=
    ⟨_, result_extract_of_sound hfits.placed hpos _ hmax hsound⟩
  obtain ⟨others, hothers, hsound', rfl⟩ := hfits.exists_layout hextract
  obtain rfl := hsound'.begins.eq_of_length_eq hsound.begins (hothers.trans hcount.symm)
  have hwrap := volume.noWrap_chain node others
  have hlt : ∀ row ∈ (volume.chain node).rows volume.geometry.clusterOffset others,
      start * diskUnitSize + volume.geometry.clusterOffset (row.headD firstCluster) < 2 ^ 64 :=
    fun row hrow => hfits.forall_start_lt hcount hsound.begins _
      (ClusterChain.headD_mem_of_mem_rows hrow)
  obtain ⟨bytes, hread, hlist⟩ := LinearTable.read_ofExtents device start
    (hfits.isLayout hsound hcount) (hfits.units_extents_lt hsound hcount) <| by
      intro extent hextent
      obtain ⟨row, hrow, rest, rfl⟩ := ClusterChain.exists_row_of_mem_extents hextent
      have hin := InFile.of_mem_rows hwrap hclusters hrow
      rw [ClusterChain.start_rowExtent (hlt row hrow), Nat.add_sub_cancel_left]
      exact hin.mono (ceilDiv_rowExtent_mul_le hwhole _ rest row)
  refine ⟨_, _, bytes, hextract, ?_, LinearTable.rowsOfText?_text ⟨_, device, start⟩,
    LinearTable.length_rows _, hread, eq_of_toList_eq ?_⟩
  · rw [Volume.result_fileRegions hmount hlookup hfile, hextract]
  · have hneeded := ceilDiv_mul_lt hpos node.dataLength.toNat
    rw [← hcount] at hneeded
    rw [toList_extract_zero, hlist, hbytes]
    rw [take_flatMap_extents hwhole (fun row hrow => ClusterChain.ne_nil_of_mem_rows hrow) hlt
      (fun row hrow => InFile.of_mem_rows hwrap hclusters hrow)
      (by rwa [ClusterChain.flatten_rows])]
    exact congrArg _ (flatMap_slice_rows _ hwrap).symm

/-- The bytes of a volume with two clusters of 2048 bytes: the root directory, and the five bytes of
a file by the name of `a`. -/
def smallVolume : List UInt8 :=
  let zeros (count : Nat) : List UInt8 := List.replicate count 0
  -- The boot sector, its FAT at sector 1, its heap at sector 2.
  Geometry.signature ++ (zeros 69 ++
    ([1, 0, 0, 0, 1, 0, 0, 0, 2, 0, 0, 0, 2, 0, 0, 0, 2, 0, 0, 0] ++ (zeros 8 ++
    ([9, 2, 1] ++ (zeros 401 ++
  -- The FAT: both clusters are the last ones of their chains.
  (zeros 8 ++ ([0xFF, 0xFF, 0xFF, 0xFF, 0xFF, 0xFF, 0xFF, 0xFF] ++ (zeros 496 ++
  -- The root directory: an empty case map, and the three entries of the file.
  ([0x82] ++ (zeros 31 ++
    ([0x85, 2, 0xC6, 0x3A] ++ (zeros 28 ++
    ([0xC0, 1, 0, 1, 0x30, 0x80] ++ (zeros 14 ++ ([3, 0, 0, 0, 5, 0, 0, 0, 0, 0, 0, 0] ++
    ([0xC1, 0, 0x61] ++ (zeros 29 ++ (zeros 1920 ++
  -- The file.
  ([104, 101, 108, 108, 111] ++ zeros 2043)))))))))))))))))))

/-- What mounting this volume and reading the file give. -/
lemma exists_read_smallVolume : ∃ volume node,
    Volume.mount.result (volumeSectors ⟨smallVolume.toArray⟩) = .ok volume ∧
    (volume.lookup "a").result (volumeSectors ⟨smallVolume.toArray⟩) = .ok node ∧
    (volume.geometry.readData node.firstCluster node.isContiguous
      (some node.dataLength.toNat)).result (volumeSectors ⟨smallVolume.toArray⟩) =
        .ok ⟨#[104, 101, 108, 108, 111]⟩ ∧
    volume.geometry.clusterSize = 2048 ∧ node.isDirectory = false ∧ node.dataLength = 5 := by
  have hnames : Volume.components "a" = ["a"] := by cbv
  have hrun : ((do
      let volume ← Volume.mount
      let node ← volume.descend volume.root ["a"]
      let data ← volume.geometry.readData node.firstCluster node.isContiguous
        (some node.dataLength.toNat)
      return (data, volume.geometry.clusterSize, node.isDirectory, node.dataLength) :
        Inquiry Sectors VolumeError _).result (listedSectors smallVolume)).toOption =
      some (⟨#[104, 101, 108, 108, 111]⟩, 2048, false, 5) := by decide +kernel
  rw [← volumeSectors_toArray] at hrun
  have hok := eq_ok_of_toOption_eq_some hrun
  obtain ⟨volume, hmount, hrest⟩ := Inquiry.result_bind_eq_ok.1 hok
  obtain ⟨node, hnode, hrest⟩ := Inquiry.result_bind_eq_ok.1 hrest
  obtain ⟨data, hdata, hend⟩ := Inquiry.result_bind_eq_ok.1 hrest
  have hvalues := Except.ok.inj hend
  simp only [Prod.mk.injEq] at hvalues
  obtain ⟨rfl, hsize, hfile, hlength⟩ := hvalues
  refine ⟨volume, node, hmount, ?_, hdata, hsize, hfile, hlength⟩
  rw [Volume.lookup, hnames]
  exact hnode

/-- What is printed of this file, on a partition that starts at the disk unit 63. -/
theorem read_linearTable_of_smallVolume :
    ∃ list rows bytes,
      (fileRegions "a" (63 * diskUnitSize)).result (chainSectors ⟨smallVolume.toArray⟩) =
        .ok list ∧
      LinearTable.rowsOfText? "/dev/sda1" (LinearTable.text ⟨list, "/dev/sda1", 63⟩).toList =
        some rows ∧
      LinearTable.read rows ⟨smallVolume.toArray⟩ = .ok bytes ∧
      bytes.extract 0 5 = ⟨#[104, 101, 108, 108, 111]⟩ := by
  obtain ⟨volume, node, hmount, hlookup, hdata, hcluster, hfile, hlength⟩ := exists_read_smallVolume
  have hstart : ∀ index < ceilDiv node.dataLength.toNat volume.geometry.clusterSize, ∀ cluster,
      (volume.chain node).clusterAt (chainSectors ⟨smallVolume.toArray⟩) index = .ok cluster →
        63 * diskUnitSize + volume.geometry.clusterOffset cluster < 2 ^ 64 := by
    intro _ _ cluster _
    have := volume.geometry.clusterOffset_lt cluster
    simp only [diskUnitSize]
    omega
  obtain ⟨list, rows, bytes, -, hregions, htext, -, hread, hbytes⟩ :=
    read_linearTable_of_readData "/dev/sda1" hmount (by rw [hcluster]; decide) hlookup hfile
      (by rw [hlength]; decide) (by rw [hlength]; decide) hstart hdata (by rw [hlength]; rfl)
  rw [hlength] at hbytes
  exact ⟨list, rows, bytes, hregions, htext, hread, hbytes⟩

end BootExtents
