import BootExtents.Proofs.Extent.Overlap
import BootExtents.Proofs.Extent.Regions
import BootExtents.Proofs.Region.Sequence
import Mathlib

/-!
# The image units of large files

The regions of a file count its image units with 32 bits, and keep the low bits of what does not fit.
So the counts and starts of the regions of a file are right modulo `2 ^ 32`, however large it is.
They are right as they stand exactly if every extent of the file has less than `2 ^ 32` image units
and starts before the image unit `2 ^ 32`. A file of 8 TiB has `2 ^ 32` image units, so in one row it
leaves one region of no units at all.

## Main definitions

* `BootExtents.Region.units` — the image units that regions hold.
* `BootExtents.Region.StartBehind`, `AddUp` — regions that start behind those before them, and hold
  some units in all.
* `BootExtents.RegionBuilder.IsCounted` — what holds of a builder between two extents.
* `BootExtents.ClusterChain.neighbours` — a chain of neighbours.

## Main results

* `BootExtents.RegionBuilder.IsCounted.push`, `IsCounted.pushAll` — what extents preserve.
* `BootExtents.addUp_eq_iff` — which layouts have regions that add up.
* `BootExtents.image_units_of_extract` — whether the regions of a file add up.
* `BootExtents.no_units_of_large_file` — a large file whose regions do not.
-/

set_option relaxedAutoImplicit false
set_option autoImplicit false

namespace BootExtents

/-! ### Regions that add up -/

namespace Region

/-- The image units that regions hold. -/
def units (regions : List Region) : Nat :=
  (regions.map (·.imageCount.toNat)).sum

/-- Every region starts behind the image units of those before it. The numbers are compared by
`agree`. -/
def StartBehind (agree : Nat → Nat → Prop) (regions : List Region) : Prop :=
  ∀ front region back, regions = front ++ region :: back →
    agree region.imageStart.toNat (units front)

/-- Every region starts behind the image units of those before it, and all hold `total` units. -/
structure AddUp (agree : Nat → Nat → Prop) (total : Nat) (regions : List Region) : Prop where
  starts : StartBehind agree regions
  total : agree (units regions) total

/-- The units of a first region are added to those of the others. -/
@[simp] lemma units_cons (region : Region) (regions : List Region) :
    units (region :: regions) = region.imageCount.toNat + units regions := by
  simp [units]

/-- The order of regions does not matter for their units. -/
@[simp] lemma units_reverse (regions : List Region) : units regions.reverse = units regions := by
  simp [units]

/-- A region behind the last one must start behind all units so far. -/
lemma startBehind_concat_iff {agree : Nat → Nat → Prop} {regions : List Region} {region : Region} :
    StartBehind agree (regions ++ [region]) ↔
      StartBehind agree regions ∧ agree region.imageStart.toNat (units regions) := by
  constructor
  · intro h
    refine ⟨fun front member back hsplit => ?_, h regions region [] rfl⟩
    exact h front member (back ++ [region]) (by rw [hsplit, List.append_assoc, List.cons_append])
  · rintro ⟨h, hregion⟩ front member back hsplit
    rcases List.eq_nil_or_concat back with rfl | ⟨rest, last, rfl⟩
    · obtain ⟨rfl, hlast⟩ := List.append_inj' hsplit rfl
      obtain rfl := List.singleton_injective hlast
      exact hregion
    · rw [List.concat_eq_append, ← List.cons_append, ← List.append_assoc] at hsplit
      exact h front member rest (List.append_inj' hsplit rfl).1

/-- Regions of extents that can be counted hold the units that the extents need. -/
lemma units_ofExtents (unit : Nat) {extents : List Extent}
    (hcounts : ∀ extent ∈ extents, ceilDiv extent.size imageUnitSize < 2 ^ 32) :
    units (ofExtents unit extents) = Extent.units extents := by
  induction extents generalizing unit with
  | nil => rfl
  | cons extent extents ih =>
    rw [ofExtents, units_cons, Extent.units_cons, toNat_imageCount_ofExtent unit
      (hcounts extent (List.mem_cons_self ..)), ih _ fun member hmember =>
        hcounts member (List.mem_cons_of_mem _ hmember)]

/-- The regions of some extents, and then those of others. -/
lemma ofExtents_append (unit : Nat) (extents others : List Extent) :
    ofExtents unit (extents ++ others) =
      ofExtents unit extents ++ ofExtents (unit + Extent.units extents) others := by
  induction extents generalizing unit with
  | nil => rfl
  | cons extent extents ih =>
    rw [List.cons_append, ofExtents, ofExtents, ih, Extent.units_cons, List.cons_append,
      Nat.add_assoc]

/-- A region of extents is that of one of them, and starts behind the units of those before it. -/
lemma exists_of_ofExtents_eq {unit : Nat} {extents : List Extent} {front back : List Region}
    {region : Region} (h : ofExtents unit extents = front ++ region :: back) :
    ∃ before extent behind, extents = before ++ extent :: behind ∧
      front = ofExtents unit before ∧ region = ofExtent (unit + Extent.units before) extent := by
  induction front generalizing unit extents with
  | nil =>
    cases extents with
    | nil => cases h
    | cons extent extents =>
      obtain ⟨rfl, -⟩ := List.cons.inj h
      exact ⟨[], extent, extents, rfl, rfl, rfl⟩
  | cons first front ih =>
    cases extents with
    | nil => cases h
    | cons other extents =>
      obtain ⟨rfl, hrest⟩ := List.cons.inj h
      obtain ⟨before, extent, behind, rfl, rfl, rfl⟩ := ih hrest
      refine ⟨other :: before, extent, behind, rfl, rfl, ?_⟩
      rw [Extent.units_cons, Nat.add_assoc]

end Region

/-! ### The builder -/

namespace RegionBuilder

variable {builder : RegionBuilder}

/-- The regions so far add up to the units that the builder has counted, up to multiples of
`2 ^ 32`, and hold no more. -/
structure IsCounted (builder : RegionBuilder) : Prop where
  addUp : Region.AddUp (· ≡ · [MOD 2 ^ 32]) builder.imageUnits builder.newestFirst.reverse
  le : Region.units builder.newestFirst.reverse ≤ builder.imageUnits

/-- A builder without regions counts no units. -/
lemma isCounted_empty : empty.IsCounted where
  addUp := ⟨fun front region back hsplit => by simp [empty] at hsplit, rfl⟩
  le := Nat.le_refl 0

/-- **One more extent**, of any size. The regions still add up modulo `2 ^ 32`, and hold at most the
units counted.

**Proof sketch.** The builder counts the low bits of the units of the extent. They are added to the
count of the last region, which keeps the low bits of the sum, or are those of a new region, which
starts behind the units counted before. -/
theorem IsCounted.push (h : builder.IsCounted) (offset size : Nat) :
    (builder.push offset size).IsCounted := by
  have hstart : builder.imageUnits.toUInt32.toNat ≡ builder.imageUnits [MOD 2 ^ 32] :=
    Nat.mod_modEq _ _
  obtain ⟨⟨hstarts, htotal⟩, hle⟩ := h
  rw [RegionBuilder.push]
  by_cases hzero : size = 0
  · rw [if_pos hzero]
    exact ⟨⟨hstarts, htotal⟩, hle⟩
  rw [if_neg hzero]
  dsimp only
  generalize (ceilDiv size imageUnitSize).toUInt32 = count
  have hnew (diskStart : UInt64) : IsCounted
      ⟨⟨builder.imageUnits.toUInt32, count, diskStart⟩ :: builder.newestFirst,
        builder.imageUnits + count.toNat⟩ := by
    refine ⟨⟨?_, ?_⟩, ?_⟩
    · rw [List.reverse_cons, Region.startBehind_concat_iff]
      exact ⟨hstarts, hstart.trans htotal.symm⟩
    · simp only [Region.units_reverse, Region.units_cons] at htotal ⊢
      rw [Nat.add_comm]
      exact htotal.add_right _
    · simp only [Region.units_reverse, Region.units_cons] at hle ⊢
      omega
  cases hregions : builder.newestFirst with
  | nil => simpa only [hregions] using hnew _
  | cons last older =>
    dsimp only
    split_ifs with htouch
    · have hsum : (last.imageCount + count).toNat ≡ last.imageCount.toNat + count.toNat
          [MOD 2 ^ 32] := by
        rw [UInt32.toNat_add]
        exact Nat.mod_modEq _ _
      rw [hregions, List.reverse_cons, Region.startBehind_concat_iff] at hstarts
      simp only [hregions, Region.units_reverse, Region.units_cons] at htotal hle
      refine ⟨⟨?_, ?_⟩, ?_⟩
      · rw [List.reverse_cons]
        exact Region.startBehind_concat_iff.2 hstarts
      · simp only [Region.units_reverse, Region.units_cons]
        refine (hsum.add_right _).trans ?_
        rw [Nat.add_right_comm]
        exact htotal.add_right _
      · simp only [Region.units_reverse, Region.units_cons, UInt32.toNat_add]
        have := Nat.mod_le (last.imageCount.toNat + count.toNat) (2 ^ 32)
        omega
    · simpa only [hregions] using hnew _

/-- **Some more extents**, of any sizes. -/
theorem IsCounted.pushAll (h : builder.IsCounted) (extents : List Extent) :
    (builder.pushAll extents).IsCounted := by
  induction extents generalizing builder with
  | nil => exact h
  | cons extent extents ih => exact ih (h.push extent.start extent.size)

/-- The builder counts the low bits of the units that extents need. -/
lemma imageUnits_pushAll (extents : List Extent) :
    (empty.pushAll extents).imageUnits =
      (extents.map fun extent => ceilDiv extent.size imageUnitSize % 2 ^ 32).sum := by
  have hmore (builder : RegionBuilder) : (builder.pushAll extents).imageUnits =
      builder.imageUnits +
        (extents.map fun extent => ceilDiv extent.size imageUnitSize % 2 ^ 32).sum := by
    induction extents generalizing builder with
    | nil => rfl
    | cons extent extents ih =>
      rw [List.map_cons, List.sum_cons, ← Nat.add_assoc, ← imageUnits_push builder extent.start]
      exact ih (builder.push extent.start extent.size)
  exact (hmore empty).trans (Nat.zero_add _)

/-- Modulo `2 ^ 32`, these are the units that they need. -/
lemma imageUnits_pushAll_modEq (extents : List Extent) :
    (empty.pushAll extents).imageUnits ≡ Extent.units extents [MOD 2 ^ 32] := by
  have hmod := List.sum_nat_mod
    (extents.map fun extent => ceilDiv extent.size imageUnitSize) (2 ^ 32)
  rw [List.map_map] at hmod
  rw [imageUnits_pushAll]
  exact hmod.symm

end RegionBuilder

/-! ### Layouts -/

/-- Numbers whose remainders add up to no less than they do are remainders themselves. -/
lemma forall_lt_of_sum_le_sum_mod {α : Type} {count : α → Nat} {bound : Nat} (hbound : 0 < bound)
    {members : List α}
    (h : (members.map count).sum ≤ (members.map fun member => count member % bound).sum) :
    ∀ member ∈ members, count member < bound := by
  have hle (others : List α) :
      (others.map fun member => count member % bound).sum ≤ (others.map count).sum :=
    List.sum_le_sum fun member _ => Nat.mod_le _ _
  induction members with
  | nil => simp
  | cons member members ih =>
    simp only [List.map_cons, List.sum_cons] at h
    have hfirst := Nat.mod_le (count member) bound
    have hrest := hle members
    rintro other (_ | ⟨_, hother⟩)
    · have hself : count member % bound = count member := by omega
      exact hself ▸ Nat.mod_lt _ hbound
    · exact ih (by omega) other hother

/-- Every extent starts at an image unit that 32 bits can tell, and has as many as they can
count. -/
def Extent.Numbered (extents : List Extent) : Prop :=
  ∀ before extent behind, extents = before ++ extent :: behind →
    Extent.units before < 2 ^ 32 ∧ ceilDiv extent.size imageUnitSize < 2 ^ 32

/-- The units of each numbered extent have a number. -/
lemma Extent.Numbered.count_lt {extents : List Extent} (h : Numbered extents) :
    ∀ extent ∈ extents, ceilDiv extent.size imageUnitSize < 2 ^ 32 := by
  intro extent hextent
  obtain ⟨before, behind, hsplit⟩ := List.append_of_mem hextent
  exact (h before extent behind hsplit).2

/-- So it is if all units can be counted. -/
lemma Extent.numbered_of_units_lt {extents : List Extent} (h : units extents < 2 ^ 32) :
    Numbered extents := by
  rintro before extent behind rfl
  simp only [units, List.map_append, List.sum_append, List.map_cons, List.sum_cons] at h ⊢
  omega

/-- **The regions of a layout add up** exactly if its extents can be numbered.

**Proof sketch.** The regions hold no more units than the builder has counted, which are the low
bits of what the extents need. So if they add up, every extent can be counted, and each becomes a
region of its own (`regions_pushAll`). Then a region tells the low bits of the units before it. -/
theorem addUp_eq_iff {extents : List Extent} (h : Extent.IsLayout extents) :
    Region.AddUp (· = ·) (Extent.units extents)
        (RegionBuilder.empty.pushAll extents).build.regions ↔
      Extent.Numbered extents := by
  constructor
  · intro hadd
    have hsum := (RegionBuilder.isCounted_empty.pushAll extents).le
    rw [RegionBuilder.imageUnits_pushAll] at hsum
    replace hsum := hadd.total.symm.trans_le hsum
    have hcounts := forall_lt_of_sum_le_sum_mod (by decide) hsum
    rintro before extent behind rfl
    refine ⟨?_, hcounts extent (by simp)⟩
    have hstarts := hadd.starts
    rw [RegionBuilder.regions_pushAll h hcounts, Region.ofExtents_append, Region.ofExtents] at hstarts
    have hstart := hstarts _ _ _ rfl
    rw [Region.units_ofExtents 0 fun member hmember =>
      hcounts member (List.mem_append_left _ hmember)] at hstart
    exact hstart ▸ UInt32.toNat_lt _
  · intro hnumbered
    have hcounts := hnumbered.count_lt
    rw [RegionBuilder.regions_pushAll h hcounts]
    refine ⟨fun front region back hsplit => ?_, Region.units_ofExtents 0 hcounts⟩
    obtain ⟨before, extent, behind, rfl, rfl, rfl⟩ := Region.exists_of_ofExtents_eq hsplit
    rw [Region.units_ofExtents 0 fun member hmember =>
      hcounts member (List.mem_append_left _ hmember), Nat.zero_add]
    exact Region.toNat_imageStart_ofExtent extent (hnumbered before extent behind rfl).1

/-! ### Files -/

section Extract

variable {I : Interface} {chain : ClusterChain I} {answer : Inquiry.Respondent I Error}
  {place : ClusterId → Nat} {length base : Nat} {list : RegionList}

/-- **Whether the image units of a file add up.** Modulo `2 ^ 32` they always do: every region
starts behind those before it, and all hold as many units as the file. They do as they stand exactly
if the rows of the file's clusters can be numbered; so they do for a file of less than `2 ^ 32`
units. A row may go on from the last address of the disk to the first one, and then counts as a
whole.

**Proof sketch.** The regions are those pushed for the rows of the file's clusters
(`ClusterChain.exists_rows_of_extract`), which are a layout and hold the file. Modulo `2 ^ 32` the
builder has counted its units (`RegionBuilder.IsCounted.pushAll`). -/
theorem image_units_of_extract (hplaced : chain.PlacedBy answer place) (hbase : diskUnitSize ∣ base)
    (hplace : ∀ index < ceilDiv length chain.clusterSize, ∀ cluster,
      chain.clusterAt answer index = .ok cluster → diskUnitSize ∣ place cluster)
    (hresult : (extract chain length base).result answer = .ok list) :
    Region.AddUp (· ≡ · [MOD 2 ^ 32]) (ceilDiv length imageUnitSize) list.regions ∧
    (∃ clusters : List ClusterId, clusters.length = ceilDiv length chain.clusterSize ∧
      chain.BeginsWith answer clusters ∧
      (Region.AddUp (· = ·) (ceilDiv length imageUnitSize) list.regions ↔
        Extent.Numbered (chain.extents place base length (chain.rows place clusters)))) ∧
    (ceilDiv length imageUnitSize < 2 ^ 32 →
      Region.AddUp (· = ·) (ceilDiv length imageUnitSize) list.regions) := by
  have hsize := clusterSize_pos_of_extract hresult
  obtain ⟨clusters, hlength, hsound, rfl⟩ :=
    ClusterChain.exists_rows_of_extract hplaced hsize hresult
  have haligned : ClusterChain.Aligned place base clusters := by
    intro cluster hcluster
    obtain ⟨index, hindex, rfl⟩ := List.getElem_of_mem hcluster
    exact Nat.dvd_add hbase (hplace index (hlength ▸ hindex) _ (hsound.begins index hindex))
  have hlayout := hsound.isLayout hsize haligned hlength
  have hunits : Extent.units (chain.extents place base length (chain.rows place clusters)) =
      ceilDiv length imageUnitSize := by
    rw [hlayout.units_eq, ClusterChain.total_extents_rows place base hsize hlength]
  have hiff := addUp_eq_iff hlayout
  rw [hunits] at hiff
  refine ⟨?_, ⟨clusters, hlength, hsound.begins, hiff⟩, fun hfew => ?_⟩
  · obtain ⟨⟨hstarts, htotal⟩, -⟩ := RegionBuilder.isCounted_empty.pushAll
      (chain.extents place base length (chain.rows place clusters))
    refine ⟨hstarts, htotal.trans ?_⟩
    rw [← hunits]
    exact RegionBuilder.imageUnits_pushAll_modEq _
  · exact hiff.2 (Extent.numbered_of_units_lt (hunits ▸ hfew))

/-- Nine clusters in two rows, which take three image units. -/
theorem image_units_of_extract_two_rows :
    Region.AddUp (· = ·) (ceilDiv 4196 imageUnitSize) [⟨0, 1, 8⟩, ⟨1, 2, 20⟩] := by
  have hresult : (extract (.ofList Sectors 512 [8, 9, 10, 11, 20, 21, 22, 23, 24]) 4196 0).result
      (fun _ => .error .zeroClusterSize) = .ok (.ofRegions [⟨0, 1, 8⟩, ⟨1, 2, 20⟩]) := by rfl
  exact (image_units_of_extract (ClusterChain.placedBy_ofList 512 _ _) (by decide)
    (fun _ _ cluster _ => Nat.dvd_mul_left ..) hresult).2.2 (by decide)

/-! ### A file in one row -/

/-- A builder makes one region of an extent alone. -/
lemma RegionBuilder.build_push_empty (extent : Extent) (h : 0 < extent.size) :
    (empty.push extent.start extent.size).build = .ofRegions [.ofExtent 0 extent] := by
  rw [push, if_neg h.ne']
  rfl

/-- A file whose clusters are one row of neighbours has one region, whose count is that of the
file's image units as far as 32 bits tell it. -/
theorem result_extract_of_row (hplaced : chain.PlacedBy answer place)
    (hsize : 0 < chain.clusterSize) (hpos : 0 < length) {clusters : List ClusterId}
    {cluster : ClusterId} (hhead : clusters.head? = some cluster)
    (hlength : clusters.length = ceilDiv length chain.clusterSize)
    (hbegins : chain.BeginsWith answer clusters)
    (hvalid : ∀ member ∈ clusters, chain.isValid member = true)
    (hrow : clusters.IsChain fun member next => place member + chain.clusterSize = place next) :
    (extract chain length base).result answer =
      .ok (.ofRegions [.ofExtent 0 (.onDisk base (place cluster) length)]) := by
  have hne : clusters ≠ [] := by
    rintro rfl
    cases hhead
  have hrows := ClusterChain.rows_of_isChain hne hrow
  have hsound : chain.Sound answer place clusters := ⟨hbegins, hvalid, by simp [hrows]⟩
  have hcount := (lt_ceilDiv hsize 0 length).2 (by simpa)
  have hfull : min (clusters.length * chain.clusterSize) length = length :=
    min_eq_right (hlength ▸ le_ceilDiv_mul hsize length)
  rw [result_extract_of_sound hplaced hsize base (by omega) hsound, hrows, ClusterChain.extents,
    ClusterChain.extents, ClusterChain.rowExtent, hfull, List.headD_eq_head?_getD, hhead,
    Option.getD_some]
  exact congrArg Except.ok (RegionBuilder.build_push_empty (.onDisk base (place cluster) length) hpos)

end Extract

/-- A chain whose clusters lie in the order of their numbers, each followed by its neighbour. Those
before `limit` are valid. -/
def ClusterChain.neighbours (I : Interface) (size : Nat) (first : ClusterId) (limit : Nat) :
    ClusterChain I where
  clusterSize := size
  isValid cluster := firstCluster ≤ cluster && cluster.toNat < limit
  first := .done first
  next cluster := .done (cluster + 1)
  offset cluster := .done (cluster.toNat * size)

/-- The region of a file on such a chain. -/
lemma result_extract_neighbours {I : Interface} (answer : Inquiry.Respondent I Error)
    {size length base limit : Nat} {first : ClusterId} (hsize : 0 < size) (hpos : 0 < length)
    (hfirst : firstCluster ≤ first) (hlimit : limit ≤ 2 ^ 32)
    (hlength : first.toNat + ceilDiv length size ≤ limit) :
    (extract (.neighbours I size first limit) length base).result answer =
      .ok (.ofRegions [.ofExtent 0 (.onDisk base (first.toNat * size) length)]) := by
  -- The clusters are numbered from `first` on, which 32 bits can do.
  let clusters := (List.range' first.toNat (ceilDiv length size)).map UInt32.ofNat
  have hgetElem (index : Nat) (h : index < clusters.length) :
      clusters[index] = UInt32.ofNat (first.toNat + index) := by simp [clusters]
  have hlt (index : Nat) (h : index < clusters.length) : first.toNat + index < limit := by
    simp only [clusters, List.length_map, List.length_range'] at h
    omega
  have hnumber (index : Nat) (h : index < clusters.length) :
      clusters[index].toNat = first.toNat + index := by
    rw [hgetElem index h]
    exact UInt32.toNat_ofNat_of_lt ((hlt index h).trans_le hlimit)
  have hnext (index : Nat) (h : index + 1 < clusters.length) :
      clusters[index + 1] = clusters[index] + 1 := by
    rw [hgetElem, hgetElem, ← Nat.add_assoc, UInt32.ofNat_add]
    rfl
  have hhead : clusters.head? = some first := by
    have hcount := (lt_ceilDiv hsize 0 length).2 (by simpa)
    rw [List.head?_eq_getElem?, List.getElem?_eq_getElem (by simpa [clusters]), hgetElem,
      Nat.add_zero, UInt32.ofNat_toNat]
  have hplaced : (ClusterChain.neighbours I size first limit).PlacedBy answer
      fun cluster => cluster.toNat * size := fun _ _ => rfl
  refine result_extract_of_row hplaced hsize hpos hhead
    (by simp [clusters, ClusterChain.neighbours]) ?_ ?_ ?_
  · refine ClusterChain.beginsWith_of_isChain ?_ (List.isChain_iff_getElem.2 fun index hindex => ?_)
    · rw [hhead]
      rintro _ ⟨⟩
      rfl
    · rw [hnext]
      rfl
  · intro cluster hcluster
    obtain ⟨index, hindex, rfl⟩ := List.getElem_of_mem hcluster
    have hle := UInt32.le_iff_toNat_le.1 hfirst
    have hbefore := hlt index hindex
    simp only [ClusterChain.neighbours, Bool.and_eq_true, decide_eq_true_eq,
      UInt32.le_iff_toNat_le, hnumber index hindex]
    omega
  · refine List.isChain_iff_getElem.2 fun index hindex => ?_
    rw [hnumber, hnumber, ← Nat.add_assoc, Nat.succ_mul]
    rfl

/-- **A large file whose regions do not add up.** With clusters of 32 MiB in one row, a file of 8
TiB has one region, of no image units. -/
theorem no_units_of_large_file :
    let chain := ClusterChain.neighbours Sectors (2 ^ 25) 3 300000
    diskUnitSize ∣ chain.clusterSize ∧
    (∀ cluster : ClusterId, chain.offset cluster = .done (cluster.toNat * 2 ^ 25) ∧
      diskUnitSize ∣ cluster.toNat * 2 ^ 25 ∧ cluster.toNat * 2 ^ 25 < 2 ^ 64) ∧
    (extract chain (2 ^ 43) 0).result (fun _ => .error .zeroClusterSize) =
      .ok (.ofRegions [⟨0, 0, 196608⟩]) ∧
    ceilDiv (2 ^ 43) imageUnitSize = 2 ^ 32 ∧
    ¬Region.AddUp (· = ·) (ceilDiv (2 ^ 43) imageUnitSize) [⟨0, 0, 196608⟩] := by
  intro chain
  refine ⟨by decide, fun cluster => ⟨rfl, ?_, ?_⟩, ?_, by decide, fun h => ?_⟩
  · exact Nat.dvd_mul_left_of_dvd (by decide) _
  · have := cluster.toNat_lt
    omega
  · exact result_extract_neighbours _ (by decide) (by decide) (by decide) (by decide) (by decide)
  · exact absurd h.total (by decide)

end BootExtents
