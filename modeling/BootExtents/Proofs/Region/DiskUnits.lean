import BootExtents.Proofs.Region.Tiling
import Mathlib

/-!
# The disk units of a region

A region takes disk units on the disk, four for each image unit. These are the ones that the
extents behind it need, as an extent takes whole image units too. A builder whose numbers do not
fit their fields loses units, but never takes one that no extent needs.

## Main definitions

* `BootExtents.Region.diskUnits` — the disk units of a region.
* `BootExtents.Extent.diskUnits` — the disk units that an extent needs.

## Main results

* `BootExtents.map_diskUnits_ofExtents` — the regions of a layout have the units of its extents.
* `BootExtents.RegionBuilder.mem_newestFirst_push` — what the regions are after one more extent.
* `BootExtents.RegionBuilder.mem_diskUnits_pushAll` — a builder takes the units of the extents only.
-/

set_option relaxedAutoImplicit false
set_option autoImplicit false

namespace BootExtents

/-- The disk units of a region. -/
def Region.diskUnits (region : Region) : Finset ℕ :=
  .Ico region.diskStart.toNat
    (region.diskStart.toNat + unitsPerImageUnit * region.imageCount.toNat)

/-- The disk units that an extent needs, in whole image units. -/
def Extent.diskUnits (extent : Extent) : Finset ℕ :=
  .Ico (extent.start / diskUnitSize)
    (extent.start / diskUnitSize + unitsPerImageUnit * ceilDiv extent.size imageUnitSize)

variable {region : Region} {extent : Extent} {extents : List Extent} {unit : ℕ}

/-- The disk units of a region are those of its image units, from its start on. -/
lemma Region.mem_diskUnits : unit ∈ region.diskUnits ↔ region.diskStart.toNat ≤ unit ∧
    unit < region.diskStart.toNat + unitsPerImageUnit * region.imageCount.toNat :=
  Finset.mem_Ico

/-- The disk units of an extent are those of its image units, from its start on. -/
lemma Extent.mem_diskUnits : unit ∈ extent.diskUnits ↔ extent.start / diskUnitSize ≤ unit ∧
    unit < extent.start / diskUnitSize +
      unitsPerImageUnit * ceilDiv extent.size imageUnitSize :=
  Finset.mem_Ico

/-! ### Regions of a layout -/

/-- The region of an extent has the disk units of the extent. -/
lemma Region.diskUnits_ofExtent (start : ℕ) (hstart : extent.start / diskUnitSize < 2 ^ 64)
    (hsize : ceilDiv extent.size imageUnitSize < 2 ^ 32) :
    (ofExtent start extent).diskUnits = extent.diskUnits := by
  rw [diskUnits, toNat_diskStart_ofExtent start hstart, toNat_imageCount_ofExtent start hsize,
    Extent.diskUnits]

/-- The regions of a layout have the disk units of its extents. -/
theorem map_diskUnits_ofExtents (start : ℕ) (h : Extent.IsLayout extents)
    (hunits : Extent.units extents < 2 ^ 32) :
    (Region.ofExtents start extents).map Region.diskUnits = extents.map Extent.diskUnits := by
  induction extents generalizing start with
  | nil => rfl
  | cons extent extents ih =>
    rw [Extent.units_cons] at hunits
    rw [Region.ofExtents, List.map_cons, List.map_cons, ih _ h.tail (by omega),
      Region.diskUnits_ofExtent start (h.start_lt extent (List.mem_cons_self ..)) (by omega)]

/-- The region of any extent has no more disk units than the extent needs. -/
lemma Region.diskUnits_ofExtent_subset (start : ℕ) (hstart : extent.start / diskUnitSize < 2 ^ 64) :
    (ofExtent start extent).diskUnits ⊆ extent.diskUnits := by
  have hcount : (ofExtent start extent).imageCount.toNat ≤ ceilDiv extent.size imageUnitSize := by
    rw [ofExtent, Nat.toUInt32, UInt32.toNat_ofNat']
    exact Nat.mod_le _ _
  rw [diskUnits, toNat_diskStart_ofExtent start hstart]
  exact Finset.Ico_subset_Ico_right (Nat.add_le_add_left (Nat.mul_le_mul_left _ hcount) _)

/-! ### Regions of a builder -/

namespace RegionBuilder

variable {builder : RegionBuilder}

/-- What a region of a builder is after one more extent: a region from before, the extent's own, or
the last one made longer by an extent that continues it. -/
lemma mem_newestFirst_push (builder : RegionBuilder) (extent : Extent)
    (hregion : region ∈ (builder.push extent.start extent.size).newestFirst) :
    region ∈ builder.newestFirst ∨ region = .ofExtent builder.imageUnits extent ∨
      ∃ last ∈ builder.newestFirst,
        last.diskStart.toNat + unitsPerImageUnit * last.imageCount.toNat =
          extent.start / diskUnitSize ∧
        region = { last with
          imageCount := last.imageCount + (ceilDiv extent.size imageUnitSize).toUInt32 } := by
  obtain ⟨newestFirst, imageUnits⟩ := builder
  unfold push at hregion
  by_cases hempty : extent.size = 0
  · rw [if_pos hempty] at hregion
    exact .inl hregion
  rw [if_neg hempty] at hregion
  cases newestFirst with
  | nil => exact .inr (.inl (List.mem_singleton.1 hregion))
  | cons last older =>
    dsimp only at hregion
    split_ifs at hregion with hcontinues
    · rcases List.mem_cons.1 hregion with rfl | hregion
      · exact .inr (.inr ⟨last, List.mem_cons_self .., by rwa [Nat.mul_comm], rfl⟩)
      · exact .inl (List.mem_cons_of_mem _ hregion)
    · rcases List.mem_cons.1 hregion with rfl | hregion
      · exact .inr (.inl rfl)
      · exact .inl hregion

/-- The disk units of a builder's regions after one more extent are those of the extent or were
there before.

**Proof sketch.** An extent that continues the last region adds its units behind it; the sum of
their counts may lose high bits, which makes the region shorter. Any other extent becomes a region
of its own, at most as long as the extent. -/
lemma mem_diskUnits_push (hstart : extent.start / diskUnitSize < 2 ^ 64)
    (hregion : region ∈ (builder.push extent.start extent.size).newestFirst)
    (hunit : unit ∈ region.diskUnits) :
    unit ∈ extent.diskUnits ∨ ∃ older ∈ builder.newestFirst, unit ∈ older.diskUnits := by
  rcases builder.mem_newestFirst_push extent hregion with
    hbefore | rfl | ⟨last, hlast, hcontinues, rfl⟩
  · exact .inr ⟨region, hbefore, hunit⟩
  · exact .inl (Region.diskUnits_ofExtent_subset _ hstart hunit)
  · have hsum : (last.imageCount + (ceilDiv extent.size imageUnitSize).toUInt32).toNat ≤
        last.imageCount.toNat + ceilDiv extent.size imageUnitSize := by
      rw [UInt32.toNat_add, Nat.toUInt32, UInt32.toNat_ofNat']
      exact (Nat.mod_le _ _).trans (Nat.add_le_add_left (Nat.mod_le _ _) _)
    rw [Region.mem_diskUnits] at hunit
    dsimp only at hunit
    rcases Nat.lt_or_ge unit (extent.start / diskUnitSize) with hlt | hge
    · exact .inr ⟨last, hlast, Region.mem_diskUnits.2 ⟨hunit.1, by rwa [hcontinues]⟩⟩
    · refine .inl (Extent.mem_diskUnits.2 ⟨hge, ?_⟩)
      rw [← hcontinues, Nat.add_assoc, ← Nat.mul_add]
      exact hunit.2.trans_le (Nat.add_le_add_left (Nat.mul_le_mul_left _ hsum) _)

/-- **A builder takes the units of the extents only.** -/
theorem mem_diskUnits_pushAll (hstart : ∀ extent ∈ extents, extent.start / diskUnitSize < 2 ^ 64)
    (hregion : region ∈ (builder.pushAll extents).newestFirst) (hunit : unit ∈ region.diskUnits) :
    (∃ extent ∈ extents, unit ∈ extent.diskUnits) ∨
      ∃ older ∈ builder.newestFirst, unit ∈ older.diskUnits := by
  induction extents generalizing builder with
  | nil => exact .inr ⟨region, hregion, hunit⟩
  | cons extent extents ih =>
    rw [pushAll, List.foldl_cons, ← pushAll] at hregion
    rcases ih (fun other hother => hstart other (List.mem_cons_of_mem _ hother)) hregion with
      ⟨other, hother, hmem⟩ | ⟨older, holder, hmem⟩
    · exact .inl ⟨other, List.mem_cons_of_mem _ hother, hmem⟩
    · rcases mem_diskUnits_push (hstart extent (List.mem_cons_self ..)) holder hmem with
        hextent | hbefore
      · exact .inl ⟨extent, List.mem_cons_self .., hextent⟩
      · exact .inr hbefore

end RegionBuilder

end BootExtents
