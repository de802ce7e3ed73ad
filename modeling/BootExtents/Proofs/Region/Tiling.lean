import BootExtents.Extent.Extract
import Mathlib

/-!
# Regions that tile an image

A builder turns extents into regions. Where all extents but the last one are whole numbers of image
units, and no extent continues the one before it, each extent becomes a region of its own; the
regions then follow one another through the image, and each byte of the file lies where the extents
say.

## Main definitions

* `BootExtents.IsTiling` — regions that follow one another through an image, none of which could be
  part of the one before it.
* `BootExtents.Region.Covers` — a region holds an image unit.
* `BootExtents.Region.diskByte` — where a region puts a byte of the image.
* `BootExtents.Extent.IsLayout` — extents that become regions one by one.
* `BootExtents.Extent.address?` — where extents put a byte of a file.
* `BootExtents.Region.ofExtents` — the regions of extents.
* `BootExtents.RegionBuilder.pushAll` — a builder after some more extents.

## Main results

* `BootExtents.RegionBuilder.regions_pushAll` — the regions that a builder makes of a layout.
* `BootExtents.isTiling_ofExtents` — they tile the image.
* `BootExtents.filter_covers_ofExtents` — each byte lies in one of them, where the extents say.
-/

set_option relaxedAutoImplicit false
set_option autoImplicit false

namespace BootExtents

/-! ### Tilings -/

/-- Regions that start at an image unit and follow one another, `units` in all. None is empty, and
none continues the one before it on the disk. -/
structure IsTiling (start units : Nat) (regions : List Region) : Prop where
  head : ∀ region ∈ regions.head?, region.imageStart.toNat = start
  count_pos : ∀ region ∈ regions, 0 < region.imageCount.toNat
  follows : regions.IsChain fun region next =>
    next.imageStart.toNat = region.imageStart.toNat + region.imageCount.toNat
  apart : regions.IsChain fun region next =>
    region.diskStart.toNat + unitsPerImageUnit * region.imageCount.toNat ≠ next.diskStart.toNat
  total : (regions.map (·.imageCount.toNat)).sum = units

namespace Region

/-- The region holds an image unit. -/
def Covers (region : Region) (unit : Nat) : Prop :=
  region.imageStart.toNat ≤ unit ∧ unit < region.imageStart.toNat + region.imageCount.toNat

/-- Whether a region covers a unit can be decided. -/
instance (region : Region) (unit : Nat) : Decidable (region.Covers unit) :=
  inferInstanceAs (Decidable (_ ∧ _))

/-- The byte of the disk where a region puts a byte of the image. -/
def diskByte (region : Region) (offset : Nat) : Nat :=
  (region.diskStart.toNat +
    (offset / imageUnitSize - region.imageStart.toNat) * unitsPerImageUnit) * diskUnitSize +
    offset % imageUnitSize

/-- The region of an extent that starts at an image unit. -/
def ofExtent (unit : Nat) (extent : Extent) : Region :=
  { imageStart := unit.toUInt32
    imageCount := (ceilDiv extent.size imageUnitSize).toUInt32
    diskStart := (extent.start / diskUnitSize).toUInt64 }

/-- The regions of extents, one for each, from an image unit on. -/
def ofExtents : (unit : Nat) → List Extent → List Region
  | _, [] => []
  | unit, extent :: extents =>
    ofExtent unit extent :: ofExtents (unit + ceilDiv extent.size imageUnitSize) extents

/-- A region starts at the unit that it is given, if this is a number of 32 bits. -/
lemma toNat_imageStart_ofExtent (extent : Extent) {unit : Nat} (hunit : unit < 2 ^ 32) :
    (ofExtent unit extent).imageStart.toNat = unit :=
  UInt32.toNat_ofNat_of_lt hunit

/-- A region has the image units of its extent, if their count is a number of 32 bits. -/
lemma toNat_imageCount_ofExtent (unit : Nat) {extent : Extent}
    (hsize : ceilDiv extent.size imageUnitSize < 2 ^ 32) :
    (ofExtent unit extent).imageCount.toNat = ceilDiv extent.size imageUnitSize :=
  UInt32.toNat_ofNat_of_lt hsize

/-- A region has the disk unit of its extent, if this is a number of 64 bits. -/
lemma toNat_diskStart_ofExtent (unit : Nat) {extent : Extent}
    (hstart : extent.start / diskUnitSize < 2 ^ 64) :
    (ofExtent unit extent).diskStart.toNat = extent.start / diskUnitSize :=
  UInt64.toNat_ofNat_of_lt hstart

/-- The region of an extent holds the image units that the extent needs. -/
lemma covers_ofExtent_iff {unit : Nat} (hunit : unit < 2 ^ 32) {extent : Extent}
    (hsize : ceilDiv extent.size imageUnitSize < 2 ^ 32) {position : Nat} :
    (ofExtent unit extent).Covers position ↔
      unit ≤ position ∧ position < unit + ceilDiv extent.size imageUnitSize := by
  rw [Covers, toNat_imageStart_ofExtent extent hunit, toNat_imageCount_ofExtent unit hsize]

/-- The region of an extent puts a byte as far behind the extent's start as it lies behind the
region's first image unit. -/
lemma diskByte_ofExtent {unit : Nat} (hunit : unit < 2 ^ 32) {extent : Extent}
    (hstart : extent.start / diskUnitSize < 2 ^ 64) (hdvd : diskUnitSize ∣ extent.start)
    (offset : Nat) :
    (ofExtent unit extent).diskByte (unit * imageUnitSize + offset) = extent.start + offset := by
  have hdisk := Nat.div_mul_cancel hdvd
  have hunits :
      (unit * imageUnitSize + offset) / imageUnitSize - unit = offset / imageUnitSize := by
    rw [Nat.mul_comm, Nat.mul_add_div imageUnitSize_pos, Nat.add_sub_cancel_left]
  have hrest : (unit * imageUnitSize + offset) % imageUnitSize = offset % imageUnitSize := by
    rw [Nat.mul_comm, Nat.mul_add_mod]
  have hratio : unitsPerImageUnit * diskUnitSize = imageUnitSize := by decide
  rw [diskByte, toNat_imageStart_ofExtent extent hunit, toNat_diskStart_ofExtent unit hstart,
    hunits, hrest, Nat.add_mul, hdisk, Nat.mul_assoc, hratio, Nat.add_assoc, Nat.mul_comm,
    Nat.div_add_mod]

/-- Each extent gives one region. -/
@[simp] lemma length_ofExtents (unit : Nat) (extents : List Extent) :
    (ofExtents unit extents).length = extents.length := by
  induction extents generalizing unit with
  | nil => rfl
  | cons extent extents ih => simp [ofExtents, ih]

end Region

/-! ### Layouts -/

namespace Extent

/-- The image units that extents need, each for itself. -/
def units (extents : List Extent) : Nat :=
  (extents.map fun extent => ceilDiv extent.size imageUnitSize).sum

/-- The bytes that extents hold. -/
def total (extents : List Extent) : Nat :=
  (extents.map (·.size)).sum

/-- Where extents put a byte of the file that they hold. -/
def address? : List Extent → Nat → Option Nat
  | [], _ => none
  | extent :: extents, offset =>
    if offset < extent.size then some (extent.start + offset)
    else address? extents (offset - extent.size)

/-- Extents that become regions one by one: none is empty, they start between disk units, and one
that another follows is a whole number of image units and does not reach the next one. -/
structure IsLayout (extents : List Extent) : Prop where
  size_pos : ∀ extent ∈ extents, 0 < extent.size
  start_dvd : ∀ extent ∈ extents, diskUnitSize ∣ extent.start
  start_lt : ∀ extent ∈ extents, extent.start / diskUnitSize < 2 ^ 64
  apart : extents.IsChain fun extent next =>
    imageUnitSize ∣ extent.size ∧ extent.start + extent.size ≠ next.start

variable {extent next : Extent} {extents : List Extent}

/-- The image units of a first extent are added to those of the others. -/
lemma units_cons (extent : Extent) (extents : List Extent) : units (extent :: extents) =
    ceilDiv extent.size imageUnitSize + units extents := by
  simp [units]

/-- An extent needs no more image units than all extents together. -/
lemma ceilDiv_le_units (h : extent ∈ extents) :
    ceilDiv extent.size imageUnitSize ≤ units extents :=
  List.single_le_sum (fun _ _ => Nat.zero_le _) _ (List.mem_map_of_mem h)

/-- The bytes of a first extent are added to those of the others. -/
lemma total_cons (extent : Extent) (extents : List Extent) : total (extent :: extents) =
    extent.size + total extents := by
  simp [total]

/-- What follows an extent of a layout is a layout. -/
lemma IsLayout.tail (h : IsLayout (extent :: extents)) : IsLayout extents where
  size_pos member hmember := h.size_pos member (List.mem_cons_of_mem _ hmember)
  start_dvd member hmember := h.start_dvd member (List.mem_cons_of_mem _ hmember)
  start_lt member hmember := h.start_lt member (List.mem_cons_of_mem _ hmember)
  apart := h.apart.tail

/-- An extent of a layout needs at least one image unit. -/
lemma IsLayout.ceilDiv_pos (h : IsLayout (extent :: extents)) :
    0 < ceilDiv extent.size imageUnitSize := by
  rw [lt_ceilDiv imageUnitSize_pos, Nat.zero_mul]
  exact h.size_pos extent (List.mem_cons_self ..)

/-- An extent that another one follows fills its image units. -/
lemma IsLayout.size_eq (h : IsLayout (extent :: next :: extents)) :
    extent.size = ceilDiv extent.size imageUnitSize * imageUnitSize :=
  (ceilDiv_mul_of_dvd imageUnitSize_pos (List.isChain_cons_cons.1 h.apart).1.1).symm

/-- The extents of a layout need no more image units than all their bytes together. -/
lemma IsLayout.units_eq (h : IsLayout extents) :
    units extents = ceilDiv (total extents) imageUnitSize := by
  induction extents with
  | nil => simp [units, total, ceilDiv_zero imageUnitSize_pos]
  | cons extent extents ih =>
    rw [units_cons, ih h.tail, total_cons]
    cases extents with
    | nil => simp [total, ceilDiv_zero imageUnitSize_pos]
    | cons next extents =>
      rw [h.size_eq, ceilDiv_mul_add imageUnitSize_pos, ← h.size_eq]

/-- On the disk, the region of an extent ends where the extent ends. -/
lemma IsLayout.diskEnd_eq (h : IsLayout (extent :: next :: extents)) :
    (extent.start / diskUnitSize + unitsPerImageUnit * ceilDiv extent.size imageUnitSize) *
      diskUnitSize = extent.start + extent.size := by
  have hstart := Nat.div_mul_cancel (h.start_dvd extent (List.mem_cons_self ..))
  rw [Nat.add_mul, hstart]
  conv_rhs => rw [h.size_eq]
  simp only [unitsPerImageUnit, imageUnitSize, diskUnitSize]
  omega

/-- On the disk, the next region starts elsewhere. -/
lemma IsLayout.diskEnd_ne (h : IsLayout (extent :: next :: extents)) :
    extent.start / diskUnitSize + unitsPerImageUnit * ceilDiv extent.size imageUnitSize ≠
      next.start / diskUnitSize := by
  intro heq
  have hnext := Nat.div_mul_cancel (h.start_dvd next (by simp))
  exact (List.isChain_cons_cons.1 h.apart).1.2 (by rw [← h.diskEnd_eq, heq, hnext])

end Extent

/-! ### The regions of a layout -/

section OfExtents

variable {extent next : Extent} {extents : List Extent} {unit : Nat}

/-- The builder after some more extents, in order. -/
def RegionBuilder.pushAll (builder : RegionBuilder) (extents : List Extent) : RegionBuilder :=
  extents.foldl (fun builder extent => builder.push extent.start extent.size) builder

/-- The last of several extents is pushed last. -/
lemma RegionBuilder.pushAll_concat (builder : RegionBuilder) (extents : List Extent)
    (extent : Extent) :
    builder.pushAll (extents ++ [extent]) =
      (builder.pushAll extents).push extent.start extent.size := by
  simp [pushAll]

/-- **The builder** makes one region of each extent of a layout, behind the regions it has, if the
count of a region has room for the image units of each.

**Proof sketch.** Induction on the extents behind the first one, which is the builder's last
region. The next extent starts elsewhere on the disk (`IsLayout.diskEnd_ne`), so it becomes a
region of its own, from the image unit behind the last one. -/
theorem RegionBuilder.pushAll_ofExtent (older : List Region)
    (h : Extent.IsLayout (extent :: extents))
    (hcounts : ∀ member ∈ extent :: extents, ceilDiv member.size imageUnitSize < 2 ^ 32) :
    pushAll ⟨.ofExtent unit extent :: older, unit + ceilDiv extent.size imageUnitSize⟩ extents =
      ⟨(Region.ofExtents unit (extent :: extents)).reverse ++ older,
        unit + Extent.units (extent :: extents)⟩ := by
  induction extents generalizing unit extent older with
  | nil => simp [pushAll, Region.ofExtents, Extent.units]
  | cons next extents ih =>
    have hcount := hcounts extent (List.mem_cons_self ..)
    have hnext := hcounts next (by simp)
    have hpush : push ⟨.ofExtent unit extent :: older, unit + ceilDiv extent.size imageUnitSize⟩
        next.start next.size =
        ⟨.ofExtent (unit + ceilDiv extent.size imageUnitSize) next ::
          .ofExtent unit extent :: older,
          unit + ceilDiv extent.size imageUnitSize + ceilDiv next.size imageUnitSize⟩ := by
      have hne := h.diskEnd_ne
      have hpos := h.size_pos next (by simp)
      rw [Nat.mul_comm] at hne
      simp only [push, if_neg hpos.ne']
      rw [Region.toNat_diskStart_ofExtent _ (h.start_lt extent (by simp)),
        Region.toNat_imageCount_ofExtent _ hcount, if_neg hne]
      simp only [Region.ofExtent, mk.injEq, true_and, Nat.add_left_cancel_iff]
      exact UInt32.toNat_ofNat_of_lt hnext
    rw [pushAll, List.foldl_cons, hpush]
    rw [← pushAll, ih _ h.tail fun member hmember => hcounts member (List.mem_cons_of_mem _ hmember)]
    rw [Extent.units_cons extent, ← Nat.add_assoc]
    simp [Region.ofExtents]

/-- The regions that a builder makes of a layout alone. -/
theorem RegionBuilder.regions_pushAll (h : Extent.IsLayout extents)
    (hcounts : ∀ extent ∈ extents, ceilDiv extent.size imageUnitSize < 2 ^ 32) :
    (empty.pushAll extents).build.regions = Region.ofExtents 0 extents := by
  cases extents with
  | nil => rfl
  | cons extent extents =>
    have hcount := hcounts extent (List.mem_cons_self ..)
    have hpos := h.size_pos extent (List.mem_cons_self ..)
    have hpush : empty.push extent.start extent.size =
        ⟨[.ofExtent 0 extent], 0 + ceilDiv extent.size imageUnitSize⟩ := by
      simp only [push, empty, if_neg hpos.ne', Region.ofExtent, mk.injEq, true_and,
        Nat.add_left_cancel_iff]
      exact UInt32.toNat_ofNat_of_lt hcount
    rw [pushAll, List.foldl_cons, hpush]
    rw [← pushAll, pushAll_ofExtent [] h hcounts]
    simp [build, RegionList.ofRegions]

/-- **The regions of a layout tile the image.** -/
theorem isTiling_ofExtents (h : Extent.IsLayout extents)
    (hunits : unit + Extent.units extents < 2 ^ 32) :
    IsTiling unit (Extent.units extents) (Region.ofExtents unit extents) := by
  induction extents generalizing unit with
  | nil => exact ⟨by simp [Region.ofExtents], by simp [Region.ofExtents], .nil, .nil, rfl⟩
  | cons extent extents ih =>
    rw [Extent.units_cons] at hunits
    have hrest : unit + ceilDiv extent.size imageUnitSize + Extent.units extents < 2 ^ 32 := by
      omega
    have htail := ih h.tail hrest
    have hstart := Region.toNat_imageStart_ofExtent extent (show unit < 2 ^ 32 by omega)
    have hcount := Region.toNat_imageCount_ofExtent unit
      (show ceilDiv extent.size imageUnitSize < 2 ^ 32 by omega)
    have hdisk := Region.toNat_diskStart_ofExtent unit (h.start_lt extent (List.mem_cons_self ..))
    refine ⟨?_, ?_, ?_, ?_, ?_⟩
    · simp only [Region.ofExtents, List.head?_cons, Option.mem_def, Option.some.injEq]
      rintro _ rfl
      exact hstart
    · simp only [Region.ofExtents, List.mem_cons]
      rintro region (rfl | hregion)
      · rw [hcount]
        exact h.ceilDiv_pos
      · exact htail.count_pos region hregion
    · refine List.isChain_cons.2 ⟨fun region hregion => ?_, htail.follows⟩
      rw [htail.head region hregion, hstart, hcount]
    · refine List.isChain_cons.2 ⟨fun region hregion => ?_, htail.apart⟩
      cases extents with
      | nil => simp [Region.ofExtents] at hregion
      | cons next extents =>
        simp only [Region.ofExtents, List.head?_cons, Option.mem_def, Option.some.injEq] at hregion
        subst hregion
        rw [hdisk, hcount, Region.toNat_diskStart_ofExtent _ (h.start_lt next (by simp))]
        exact h.diskEnd_ne
    · simp only [Region.ofExtents, List.map_cons, List.sum_cons, hcount, htail.total,
        Extent.units_cons]

/-- The regions from an image unit on hold no unit before it. -/
lemma not_covers_of_mem_ofExtents (hunits : unit + Extent.units extents < 2 ^ 32) {before : Nat}
    (hbefore : before < unit) {region : Region} (hregion : region ∈ Region.ofExtents unit extents) :
    ¬region.Covers before := by
  induction extents generalizing unit with
  | nil => simp [Region.ofExtents] at hregion
  | cons extent extents ih =>
    rw [Extent.units_cons] at hunits
    simp only [Region.ofExtents, List.mem_cons] at hregion
    rcases hregion with rfl | hregion
    · rw [Region.covers_ofExtent_iff (by omega) (by omega)]
      omega
    · exact ih (by omega) (by omega) hregion

/-- **Each byte of a file lies in exactly one region**, and there where the extents say.

**Proof sketch.** Induction on the extents. A byte of the first extent lies in its units, and the
other regions start behind them (`not_covers_of_mem_ofExtents`). Any other byte lies behind the
first extent, which fills its units (`IsLayout.size_eq`), so its unit counts from there. -/
theorem filter_covers_ofExtents (h : Extent.IsLayout extents)
    (hunits : unit + Extent.units extents < 2 ^ 32) {offset : Nat}
    (hoffset : offset < Extent.total extents) :
    ∃ region, (Region.ofExtents unit extents).filter
        (·.Covers (unit + offset / imageUnitSize)) = [region] ∧
      Extent.address? extents offset =
        some (region.diskByte (unit * imageUnitSize + offset)) := by
  induction extents generalizing unit offset with
  | nil => simp [Extent.total] at hoffset
  | cons extent extents ih =>
    rw [Extent.units_cons] at hunits
    rw [Extent.total_cons] at hoffset
    have hcovers : ∀ position, (Region.ofExtent unit extent).Covers position ↔
        unit ≤ position ∧ position < unit + ceilDiv extent.size imageUnitSize :=
      fun position => Region.covers_ofExtent_iff (by omega) (by omega)
    by_cases hin : offset < extent.size
    · have hlt : offset / imageUnitSize < ceilDiv extent.size imageUnitSize := by
        rw [lt_ceilDiv imageUnitSize_pos]
        exact lt_of_le_of_lt (Nat.div_mul_le_self _ _) hin
      refine ⟨.ofExtent unit extent, ?_, ?_⟩
      · have hfirst := (hcovers (unit + offset / imageUnitSize)).2
          ⟨Nat.le_add_right _ _, Nat.add_lt_add_left hlt unit⟩
        rw [Region.ofExtents, List.filter_cons_of_pos (by simpa using hfirst),
          List.filter_eq_nil_iff.2]
        intro region hregion
        have := not_covers_of_mem_ofExtents (by omega) (Nat.add_lt_add_left hlt unit) hregion
        simpa using this
      · rw [Extent.address?, if_pos hin, Region.diskByte_ofExtent (by omega)
          (h.start_lt extent (List.mem_cons_self ..)) (h.start_dvd extent (List.mem_cons_self ..))]
    · cases extents with
      | nil => simp [Extent.total] at hoffset; omega
      | cons next extents =>
        have hsize := h.size_eq
        have hrest : unit + ceilDiv extent.size imageUnitSize +
            Extent.units (next :: extents) < 2 ^ 32 := by omega
        have hoffset' : offset - extent.size < Extent.total (next :: extents) := by omega
        obtain ⟨region, hfilter, haddress⟩ := ih h.tail hrest hoffset'
        have hunit : unit + ceilDiv extent.size imageUnitSize +
            (offset - extent.size) / imageUnitSize = unit + offset / imageUnitSize := by
          simp only [imageUnitSize] at hsize hin ⊢
          omega
        have hnot : ¬(Region.ofExtent unit extent).Covers (unit + offset / imageUnitSize) := by
          rw [hcovers, ← hunit]
          exact fun hin => absurd hin.2 (Nat.not_lt.2 (Nat.le_add_right _ _))
        have hbyte : (unit + ceilDiv extent.size imageUnitSize) * imageUnitSize +
            (offset - extent.size) = unit * imageUnitSize + offset := by
          rw [Nat.add_mul, ← hsize]
          omega
        refine ⟨region, ?_, ?_⟩
        · rw [Region.ofExtents, List.filter_cons_of_neg (by simpa using hnot), ← hunit, hfilter]
        · rw [Extent.address?, if_neg hin, haddress, hbyte]

end OfExtents

end BootExtents
