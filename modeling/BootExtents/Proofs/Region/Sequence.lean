import BootExtents.Proofs.Region.Tiling
import BootExtents.Region.LinearTable
import Mathlib

/-!
# Regions that follow one another

Whatever extents it is given, a builder numbers the image units of its regions one after the other,
as long as they can be counted with 32 bits. Whether an extent makes the last region longer or
becomes a region of its own, the regions follow one another and none is empty. Then the lines of the
linear table are in order, and no two of them map the same part of the image.

## Main definitions

* `BootExtents.IsSequence` — regions that follow one another through an image, none of them empty.
* `BootExtents.LinearTable.InOrder` — lines that are in order, none of them empty.
* `BootExtents.RegionBuilder.IsSequential` — what holds of a builder between two extents.

## Main results

* `BootExtents.IsSequence.increasing` — later regions start behind the end of earlier ones.
* `BootExtents.LinearTable.inOrder_of_isSequence` — the table of such regions is in order.
* `BootExtents.RegionBuilder.IsSequential.push` — what one more extent preserves.
* `BootExtents.RegionBuilder.IsSequential.pushAll` — what some more extents preserve.
-/

set_option relaxedAutoImplicit false
set_option autoImplicit false

namespace BootExtents

/-! ### Sequences -/

/-- Regions that follow one another through an image. None is empty. -/
structure IsSequence (regions : List Region) : Prop where
  count_pos : ∀ region ∈ regions, 0 < region.imageCount.toNat
  follows : regions.IsChain fun region next =>
    next.imageStart.toNat = region.imageStart.toNat + region.imageCount.toNat

namespace IsSequence

variable {regions : List Region} {region last : Region}

/-- No regions are in sequence. -/
lemma nil : IsSequence [] where
  count_pos := by simp
  follows := .nil

/-- A region behind the last one must start where that one ends. -/
lemma concat_iff : IsSequence (regions ++ [region]) ↔
    IsSequence regions ∧ 0 < region.imageCount.toNat ∧
      ∀ last ∈ regions.getLast?,
        region.imageStart.toNat = last.imageStart.toNat + last.imageCount.toNat := by
  constructor
  · rintro ⟨hpos, hfollows⟩
    obtain ⟨hfront, -, hlast⟩ := List.isChain_append.1 hfollows
    refine ⟨⟨fun member hmember => ?_, hfront⟩, ?_, fun last hmem => ?_⟩
    · exact hpos member (List.mem_append_left _ hmember)
    · exact hpos region (List.mem_append_right _ (List.mem_singleton_self region))
    · exact hlast last hmem region rfl
  · rintro ⟨⟨hpos, hfollows⟩, hcount, hlast⟩
    refine ⟨fun member hmember => ?_, List.isChain_append.2 ⟨hfollows, .singleton region, ?_⟩⟩
    · rcases List.mem_append.1 hmember with hmember | hmember
      · exact hpos member hmember
      · exact List.mem_singleton.1 hmember ▸ hcount
    · intro last hmem next hnext
      obtain rfl := Option.some.inj hnext
      exact hlast last hmem

/-- What follows a region of a sequence is in sequence. -/
lemma tail (h : IsSequence (region :: regions)) : IsSequence regions where
  count_pos member hmember := h.count_pos member (List.mem_cons_of_mem _ hmember)
  follows := h.follows.tail

/-- **Later regions start behind the end of earlier ones.**

**Proof sketch.** Induction on the regions. The second one starts where the first one ends, and all
others start behind the second one. -/
theorem increasing (h : IsSequence regions) : regions.Pairwise fun region later =>
    region.imageStart.toNat + region.imageCount.toNat ≤ later.imageStart.toNat := by
  induction regions with
  | nil => exact .nil
  | cons region regions ih =>
    refine List.pairwise_cons.2 ⟨fun later hlater => ?_, ih h.tail⟩
    cases regions with
    | nil => cases hlater
    | cons next regions =>
      have hnext := (List.isChain_cons_cons.1 h.follows).1
      rcases List.mem_cons.1 hlater with rfl | hlater
      · exact hnext.ge
      · have hbehind := (List.pairwise_cons.1 (ih h.tail)).1 later hlater
        omega

/-- The regions start at ever later image units. -/
lemma strictly_increasing (h : IsSequence regions) : regions.Pairwise fun region later =>
    region.imageStart.toNat < later.imageStart.toNat := by
  refine h.increasing.imp_of_mem fun hregion _ hbehind => ?_
  have hpos := h.count_pos _ hregion
  omega

end IsSequence

/-! ### Tables -/

namespace LinearTable

/-- No line is empty, and every line starts behind the end of those before it. -/
structure InOrder (table : LinearTable) : Prop where
  count_pos : ∀ row ∈ table.rows, 0 < row.count
  apart : table.rows.Pairwise fun row later => row.start + row.count ≤ later.start

/-- The table of regions that follow one another is in order. -/
theorem inOrder_of_isSequence {table : LinearTable} (h : IsSequence table.list.regions)
    (hratio : 0 < table.list.unitRatio) : table.InOrder where
  count_pos := by
    intro row hrow
    obtain ⟨region, hregion, rfl⟩ := List.mem_map.1 hrow
    exact Nat.mul_pos (h.count_pos region hregion) hratio
  apart := by
    refine List.pairwise_map.2 (h.increasing.imp fun hbehind => ?_)
    rw [← Nat.add_mul]
    exact Nat.mul_le_mul_right _ hbehind

end LinearTable

/-! ### The builder -/

namespace RegionBuilder

variable {builder : RegionBuilder} {offset size : Nat}

/-- The regions so far follow one another, and the last one ends where the next extent starts. -/
structure IsSequential (builder : RegionBuilder) : Prop where
  regions : IsSequence builder.newestFirst.reverse
  stop : ∀ last ∈ builder.newestFirst.head?,
    last.imageStart.toNat + last.imageCount.toNat = builder.imageUnits

/-- A builder without regions has built a sequence. -/
lemma isSequential_empty : empty.IsSequential where
  regions := .nil
  stop := by simp [empty]

/-- An extent takes as many image units as hold it, as far as 32 bits can count them. -/
lemma imageUnits_push (builder : RegionBuilder) (offset size : Nat) :
    (builder.push offset size).imageUnits =
      builder.imageUnits + ceilDiv size imageUnitSize % 2 ^ 32 := by
  rw [push]
  split_ifs with hzero
  · rw [hzero, ceilDiv_zero imageUnitSize_pos]
    rfl
  · cases builder.newestFirst with
    | nil => rfl
    | cons last older =>
      dsimp only
      split_ifs <;> rfl

/-- **One more extent.** The regions still follow one another, if their image units can be counted.

**Proof sketch.** The units of the extent come behind those that the builder has counted, and that
is where the last region ends. So this region may grow by them, and a new region may follow it. -/
theorem IsSequential.push (h : builder.IsSequential) (offset : Nat)
    (hunits : builder.imageUnits + ceilDiv size imageUnitSize < 2 ^ 32) :
    (builder.push offset size).IsSequential := by
  have hcount : (ceilDiv size imageUnitSize).toUInt32.toNat = ceilDiv size imageUnitSize :=
    UInt32.toNat_ofNat_of_lt (show _ < 2 ^ 32 by omega)
  have hstart : builder.imageUnits.toUInt32.toNat = builder.imageUnits :=
    UInt32.toNat_ofNat_of_lt (show _ < 2 ^ 32 by omega)
  rw [RegionBuilder.push]
  by_cases hzero : size = 0
  · rwa [if_pos hzero]
  have hpos : 0 < ceilDiv size imageUnitSize := by
    rw [lt_ceilDiv imageUnitSize_pos, Nat.zero_mul]
    omega
  rw [if_neg hzero]
  cases hregions : builder.newestFirst with
  | nil =>
    refine ⟨?_, ?_⟩
    · rw [List.reverse_singleton, ← List.nil_append [_], IsSequence.concat_iff]
      exact ⟨.nil, hpos.trans_eq hcount.symm, by simp⟩
    · rintro _ ⟨⟩
      dsimp only
      rw [hstart, hcount]
  | cons last older =>
    have hstop := h.stop last (by rw [hregions]; rfl)
    have holder := h.regions
    rw [hregions, List.reverse_cons] at holder
    dsimp only
    split_ifs with htouch
    · have hsum : (last.imageCount + (ceilDiv size imageUnitSize).toUInt32).toNat =
          last.imageCount.toNat + ceilDiv size imageUnitSize := by
        rw [UInt32.toNat_add, hcount]
        exact Nat.mod_eq_of_lt (by omega)
      obtain ⟨hfront, -, hbefore⟩ := IsSequence.concat_iff.1 holder
      refine ⟨?_, ?_⟩
      · rw [List.reverse_cons]
        exact IsSequence.concat_iff.2 ⟨hfront, by dsimp only; omega, hbefore⟩
      · rintro _ ⟨⟩
        dsimp only
        rw [hsum, hcount]
        omega
    · refine ⟨?_, ?_⟩
      · rw [List.reverse_cons, List.reverse_cons]
        refine IsSequence.concat_iff.2 ⟨holder, hpos.trans_eq hcount.symm, fun other hother => ?_⟩
        rw [List.getLast?_concat] at hother
        obtain rfl := Option.some.inj hother
        exact hstart.trans hstop.symm
      · rintro _ ⟨⟩
        dsimp only
        rw [hstart, hcount]

/-- **Some more extents.** The regions still follow one another, if all image units can be counted.

**Proof sketch.** Induction on the extents; `IsSequential.push` is the step. -/
theorem IsSequential.pushAll (h : builder.IsSequential) {extents : List Extent}
    (hunits : builder.imageUnits + Extent.units extents < 2 ^ 32) :
    (builder.pushAll extents).IsSequential := by
  induction extents generalizing builder with
  | nil => exact h
  | cons extent extents ih =>
    rw [Extent.units_cons] at hunits
    refine ih (h.push extent.start (by omega)) ?_
    rw [imageUnits_push]
    omega

/-- The regions that a builder makes of some extents follow one another. -/
theorem isSequence_build {extents : List Extent} (hunits : Extent.units extents < 2 ^ 32) :
    IsSequence (empty.pushAll extents).build.regions :=
  (isSequential_empty.pushAll (by simpa [empty] using hunits)).regions

end RegionBuilder

end BootExtents
