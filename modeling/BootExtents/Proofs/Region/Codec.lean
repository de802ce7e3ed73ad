import BootExtents.Inquiry.Lemmas
import BootExtents.Proofs.Bytes.Fields
import BootExtents.Region.Codec
import BootExtents.Sector.Basic
import Mathlib

/-!
# The stored form of a region list loses nothing

Reading what was written gives the list back, and writing what was read gives the bytes back, except
those behind the last region. No part of a stored list that breaks off before its end is a list.

## Main definitions

* `BootExtents.RegionList.UnitsMatch` — an image unit is a whole number of disk units.
* `BootExtents.RegionList.IsBuilt` — the list was put together from regions, or read.
* `BootExtents.RegionList.header` — what is stored in front of the regions.

## Main results

* `BootExtents.RegionList.ofBytes_toBytes_append` — what was written is read, whatever follows.
* `BootExtents.RegionList.toBytes_of_ofBytes` — what was read is written as it stood.
* `BootExtents.RegionList.ofBytes_of_prefix` — what is cut off is refused.
* `BootExtents.RegionList.read_toBytes_lossless` — the three together.
-/

set_option relaxedAutoImplicit false
set_option autoImplicit false

namespace BootExtents

/-! ### Regions -/

namespace Region

/-- The 16 bytes of a region, as a block. -/
def toBlock (region : Region) : Vector UInt8 16 :=
  ⟨region.toBytes.toArray, by simp⟩

/-- The block of a region has its bytes. -/
@[simp] lemma toList_toBlock (region : Region) : region.toBlock.toList = region.toBytes := by
  simp [toBlock, Vector.toList]

/-- A region that was written is read. -/
@[simp] lemma ofBlock_toBlock (region : Region) : ofBlock region.toBlock = region := by
  have hcount : Bytes.slice region.toBytes 0 4 =
      LittleEndian.encode 4 region.imageCount.toNat :=
    Bytes.slice_zero_append _ (by simp)
  have hstart : Bytes.slice region.toBytes 4 4 =
      LittleEndian.encode 4 region.imageStart.toNat :=
    Bytes.slice_append_of_length _ (by simp) (by simp)
  have hdisk : Bytes.slice region.toBytes 8 8 =
      LittleEndian.encode 8 region.diskStart.toNat := by
    rw [toBytes, ← List.append_assoc, ← List.append_nil (LittleEndian.encode 8 _)]
    exact Bytes.slice_append_of_length _ (by simp) (by simp)
  rw [ofBlock, toList_toBlock, Bytes.u32At_of_slice hcount, Bytes.u32At_of_slice hstart,
    Bytes.u64At_of_slice hdisk]

/-- A region that was read is written as it stood. -/
@[simp] lemma toBytes_ofBlock (block : Vector UInt8 16) :
    (ofBlock block).toBytes = block.toList := by
  have hlength : block.toList.length = 16 := by simp
  have hall : Bytes.slice block.toList 0 (4 + (4 + 8)) = block.toList := by
    rw [Bytes.slice, List.drop_zero, List.take_of_length_le hlength.le]
  rw [toBytes, ofBlock, Bytes.encode_u32At (by omega), Bytes.encode_u32At (by omega),
    Bytes.encode_u64At (by omega)]
  rw [Bytes.slice_add, Bytes.slice_add] at hall
  exact hall

end Region

namespace RegionList

variable {list : RegionList} {bytes front : List UInt8}

/-! ### The header -/

/-- There are units, and an image unit is a whole number of disk units. -/
structure UnitsMatch (list : RegionList) : Prop where
  imageUnit_ne : list.imageUnit ≠ 0
  diskUnit_ne : list.diskUnit ≠ 0
  whole : list.imageUnit % list.diskUnit = 0

/-- The list was put together from regions, or read. -/
def IsBuilt (list : RegionList) : Prop :=
  (∃ regions, list = ofRegions regions) ∨ ∃ bytes, ofBytes bytes = .ok list

/-- The bytes in front of the regions. -/
def header (list : RegionList) : List UInt8 :=
  list.identity.toList ++ (LittleEndian.encode 4 list.imageUnit.toNat ++
    (LittleEndian.encode 4 list.diskUnit.toNat ++ LittleEndian.encode 4 list.regions.length))

/-- The header of a list has a fixed length. -/
@[simp] lemma length_header (list : RegionList) : list.header.length = headerSize := by
  simp [header, headerSize]

/-- A list is written as its header and its regions. -/
lemma toBytes_eq (list : RegionList) :
    list.toBytes = list.header ++ list.regions.flatMap Region.toBytes := by
  simp only [toBytes, header, List.append_assoc]

/-- Each region takes as many bytes as any other one. -/
lemma length_flatMap_toBytes (regions : List Region) :
    (regions.flatMap Region.toBytes).length = regionSize * regions.length := by
  rw [List.length_flatMap, List.map_congr_left fun region _ => Region.length_toBytes region,
    List.map_const', List.sum_replicate_nat, Nat.mul_comm]
  rfl

/-- The length of a list is told by the number of its regions. -/
@[simp] lemma length_toBytes (list : RegionList) :
    list.toBytes.length = headerSize + regionSize * list.regions.length := by
  rw [toBytes_eq, List.length_append, length_header, length_flatMap_toBytes]

/-- What reading finds behind a whole header of a list. -/
lemma ofBytes_header_append (h : list.UnitsMatch) (hcount : list.regions.length < 2 ^ 32)
    (rest : List UInt8) :
    ofBytes (list.header ++ rest) =
      if rest.length / regionSize < list.regions.length then
        .error (.regionCount list.regions.length (headerSize + rest.length))
      else
        .ok { list with
          regions := ((Bytes.blocks 15 rest).take list.regions.length).map Region.ofBlock } := by
  have hidentity : Bytes.blockAt (list.header ++ rest) 0 16 = list.identity := by
    refine Vector.toList_inj.1 ?_
    rw [Bytes.toList_blockAt (by simp [headerSize]; omega), header, List.append_assoc]
    exact Bytes.slice_zero_append _ (by simp)
  have himage : Bytes.u32At (list.header ++ rest) 16 = list.imageUnit := by
    refine Bytes.u32At_of_slice ?_
    rw [header, List.append_assoc, List.append_assoc]
    exact Bytes.slice_append_of_length _ (by simp) (by simp)
  have hdisk : Bytes.u32At (list.header ++ rest) 20 = list.diskUnit := by
    refine Bytes.u32At_of_slice ?_
    rw [header, List.append_assoc, List.append_assoc, List.append_assoc, ← List.append_assoc]
    exact Bytes.slice_append_of_length _ (by simp) (by simp)
  have hregions : (Bytes.u32At (list.header ++ rest) 24).toNat = list.regions.length := by
    have hvalue : list.regions.length.toUInt32.toNat = list.regions.length :=
      UInt32.toNat_ofNat_of_lt hcount
    rw [← hvalue]
    refine congrArg _ (Bytes.u32At_of_slice ?_)
    rw [hvalue, header, ← List.append_assoc, ← List.append_assoc, List.append_assoc]
    exact Bytes.slice_append_of_length _ (by simp) (by simp)
  have hlength : (list.header ++ rest).length = headerSize + rest.length := by simp
  have hdrop : (list.header ++ rest).drop headerSize = rest := by simp
  rw [ofBytes, hlength, if_neg (by omega), hidentity, himage, hdisk, hregions, hdrop,
    Nat.add_sub_cancel_left]
  simp only [h.imageUnit_ne, h.diskUnit_ne, h.whole, false_or, ne_eq, not_true_eq_false, if_false]

/-! ### There and back -/

/-- **What was written is read**, whatever follows it.

**Proof sketch.** Behind the header lie the regions' blocks, as many as it announces, and each block
is read as the region that it was made of. -/
theorem ofBytes_toBytes_append (h : list.UnitsMatch) (hcount : list.regions.length < 2 ^ 32)
    (rest : List UInt8) : ofBytes (list.toBytes ++ rest) = .ok list := by
  have hblocks : list.regions.flatMap Region.toBytes =
      list.regions.flatMap fun region => region.toBlock.toList := by simp
  have hroom : ¬(list.regions.flatMap Region.toBytes ++ rest).length / regionSize <
      list.regions.length := by
    rw [List.length_append, length_flatMap_toBytes, Nat.mul_add_div (by decide), Nat.not_lt]
    exact Nat.le_add_right _ _
  rw [toBytes_eq, List.append_assoc, ofBytes_header_append h hcount, if_neg hroom, hblocks,
    Bytes.take_blocks_flatMap, List.map_map]
  simp [Function.comp_def]

/-- What reading a list tells of the bytes. -/
lemma of_ofBytes_eq_ok (h : ofBytes bytes = .ok list) :
    list.UnitsMatch ∧ list.regions.length < 2 ^ 32 ∧
      headerSize + regionSize * list.regions.length ≤ bytes.length ∧
      list.header = bytes.take headerSize ∧
      list.regions.flatMap Region.toBytes =
        (bytes.drop headerSize).take (regionSize * list.regions.length) := by
  simp only [ofBytes] at h
  split_ifs at h with hshort hunits hmissing
  obtain rfl := Except.ok.inj h
  simp only [not_or, ne_eq, not_not] at hunits
  obtain ⟨himage, hdisk, hwhole⟩ := hunits
  have hheader : 28 ≤ bytes.length := Nat.not_lt.1 hshort
  have hroom := (Nat.le_div_iff_mul_le (by decide)).1 (Nat.not_lt.1 hmissing)
  rw [← List.length_drop] at hroom
  have hcount : (((Bytes.blocks 15 (bytes.drop headerSize)).take
      (Bytes.u32At bytes 24).toNat).map Region.ofBlock).length = (Bytes.u32At bytes 24).toNat := by
    rw [List.length_map, List.length_take, Bytes.length_blocks, min_eq_left]
    exact (Nat.le_div_iff_mul_le (by decide)).2 hroom
  have hparts : bytes.take headerSize = Bytes.slice bytes 0 (16 + (4 + (4 + 4))) := rfl
  refine ⟨⟨himage, hdisk, hwhole⟩, ?_, ?_, ?_, ?_⟩
  · rw [hcount]
    exact UInt32.toNat_lt _
  · rw [hcount, Nat.mul_comm]
    rw [List.length_drop] at hroom
    simp only [headerSize] at hroom ⊢
    omega
  · rw [header, hcount, Bytes.toList_blockAt (by omega), Bytes.encode_u32At (by omega),
      Bytes.encode_u32At (by omega), Bytes.encode_u32At (by omega), hparts, Bytes.slice_add,
      Bytes.slice_add, Bytes.slice_add]
  · have hblocks := Bytes.flatMap_take_blocks hroom
    rw [hcount, List.flatMap_map, Nat.mul_comm]
    simp only [Region.toBytes_ofBlock]
    exact hblocks

/-- **What was read is written as it stood**, but for the bytes behind the last region.

**Proof sketch.** The header and the regions are written as they were read, and the regions follow
the header. -/
theorem toBytes_of_ofBytes (h : ofBytes bytes = .ok list) :
    list.toBytes = bytes.take (headerSize + regionSize * list.regions.length) := by
  obtain ⟨-, -, -, hheader, hregions⟩ := of_ofBytes_eq_ok h
  rw [toBytes_eq, hheader, hregions]
  exact List.take_add.symm

/-- **What is cut off is refused**: a part of a stored list that ends before the list does is too
short for its header, or for the regions that the header announces.

**Proof sketch.** A part with the whole header is the header and some more bytes, which are fewer
than the regions take. -/
theorem ofBytes_of_prefix (h : list.UnitsMatch) (hcount : list.regions.length < 2 ^ 32)
    (hfront : front <+: list.toBytes) (hne : front ≠ list.toBytes) :
    ofBytes front = .error (if front.length < headerSize then .locationHeader
      else .regionCount list.regions.length front.length) := by
  have hshorter : front.length < list.toBytes.length :=
    lt_of_le_of_ne hfront.length_le fun hlength => hne (hfront.eq_of_length hlength)
  split_ifs with hheader
  · rw [ofBytes, if_pos hheader]
  · have hwhole : list.header <+: front := by
      refine List.prefix_of_prefix_length_le ?_ hfront (by simpa using hheader)
      rw [toBytes_eq]
      exact List.prefix_append _ _
    obtain ⟨rest, rfl⟩ := hwhole
    rw [List.length_append, length_header, length_toBytes] at hshorter
    have hmissing : rest.length / regionSize < list.regions.length := by
      rw [Nat.div_lt_iff_lt_mul (by decide), Nat.mul_comm]
      omega
    rw [ofBytes_header_append h hcount, if_pos hmissing, List.length_append, length_header]

/-- A list that was put together or read has units that match. -/
lemma IsBuilt.unitsMatch (h : list.IsBuilt) : list.UnitsMatch := by
  rcases h with ⟨regions, rfl⟩ | ⟨bytes, hbytes⟩
  · have himage : (ofRegions regions).imageUnit = 2048 := rfl
    have hdisk : (ofRegions regions).diskUnit = 512 := rfl
    exact ⟨by rw [himage]; decide, by rw [hdisk]; decide, by rw [himage, hdisk]; decide⟩
  · exact (of_ofBytes_eq_ok hbytes).1

/-- Reading a list ends as its bytes say. -/
lemma result_read {I : Interface} (answer : Inquiry.Respondent I Error) (bytes : List UInt8) :
    (read bytes).result answer = (ofBytes bytes).mapError .corrupted := by
  rw [read]
  cases ofBytes bytes with
  | ok list => rfl
  | error what => cases what <;> rfl

/-- **The stored form of a region list loses nothing.** A list that was put together or read comes
back from its bytes, and no part of these that ends before they do is a list. Bytes that are read as
a list start with the bytes of this list, and what follows these does not matter. -/
theorem read_toBytes_lossless {I : Interface} (answer : Inquiry.Respondent I Error) :
    (∀ list : RegionList, list.IsBuilt → list.regions.length < 2 ^ 32 →
      (read list.toBytes).result answer = .ok list ∧
        ∀ front, front <+: list.toBytes → front ≠ list.toBytes →
          ∃ what, (read front).result answer = .error (.corrupted what)) ∧
    ∀ (bytes : List UInt8) (list : RegionList), (read bytes).result answer = .ok list →
      list.toBytes = bytes.take (headerSize + regionSize * list.regions.length) ∧
        ∀ rest, (read (bytes.take (headerSize + regionSize * list.regions.length) ++ rest)).result
          answer = .ok list := by
  refine ⟨fun list hbuilt hcount => ⟨?_, fun front hfront hne => ?_⟩, fun bytes list hread => ?_⟩
  · have hback := ofBytes_toBytes_append hbuilt.unitsMatch hcount []
    rw [List.append_nil] at hback
    rw [result_read, hback]
    rfl
  · rw [result_read, ofBytes_of_prefix hbuilt.unitsMatch hcount hfront hne]
    exact ⟨_, rfl⟩
  · have hbytes : ofBytes bytes = .ok list := by
      rw [result_read] at hread
      exact Inquiry.eq_ok_of_mapError_eq_ok hread
    obtain ⟨hunits, hcount, -⟩ := of_ofBytes_eq_ok hbytes
    refine ⟨toBytes_of_ofBytes hbytes, fun rest => ?_⟩
    rw [← toBytes_of_ofBytes hbytes, result_read, ofBytes_toBytes_append hunits hcount rest]
    rfl

/-- A list of two regions, read from its 60 bytes, from one byte less and from one byte more. -/
theorem read_toBytes_lossless_two_regions :
    let list := ofRegions [⟨0, 1, 8⟩, ⟨1, 2, 20⟩]
    let answer : Inquiry.Respondent Sectors Error := fun _ => .error .zeroClusterSize
    (read list.toBytes).result answer = .ok list ∧
      (∃ what, (read (list.toBytes.take 59)).result answer = .error (.corrupted what)) ∧
      list.toBytes = (list.toBytes ++ [7]).take 60 := by
  intro list answer
  have hbuilt : list.IsBuilt := .inl ⟨_, rfl⟩
  have hmore : (read (list.toBytes ++ [7])).result answer = .ok list := by
    rw [result_read, ofBytes_toBytes_append hbuilt.unitsMatch (by decide)]
    rfl
  have hlossless := read_toBytes_lossless answer
  obtain ⟨hback, hcut⟩ := hlossless.1 list hbuilt (by decide)
  refine ⟨hback, hcut _ (List.take_prefix 59 _) fun heq => ?_, (hlossless.2 _ list hmore).1⟩
  have hlength := congrArg List.length heq
  rw [List.length_take, length_toBytes] at hlength
  exact absurd hlength (by decide)

end RegionList

end BootExtents
