import BootExtents.Volume.CaseMap
import Mathlib

/-!
# The stored forms of a case map

A case map is stored as segments: the image of one unit, or the count of a run of units that map to
themselves. The same map has many stored forms, as a run may be written unit by unit, or in parts.
Each of them is decoded to the images that its segments stand for, one after the other, as far as
there are units.

## Main definitions

* `BootExtents.CaseSegment` — one segment.
* `BootExtents.CaseSegment.written` — the units that segments are stored as.
* `BootExtents.CaseSegment.table` — the images that they stand for.
* `BootExtents.CaseSegment.Describes` — segments are a stored form of a mapping.

## Main results

* `BootExtents.CaseMap.exists_decodeFrom_segment` — what decoding does with one segment.
* `BootExtents.CaseMap.toList_decodeFrom` — what it does with any number of them.
* `BootExtents.CaseSegment.exists_describes_iff` — the mappings that have a stored form.
* `BootExtents.decode_any_segments` — decoding finds the map that segments describe.
-/

set_option relaxedAutoImplicit false
set_option autoImplicit false

namespace BootExtents

/-! ### Segments -/

/-- A segment of a stored case map. -/
inductive CaseSegment where
  /-- The image of one unit. The mark of a run is none. -/
  | image (unit : UInt16) (h : unit ≠ CaseMap.runMark)
  /-- A run of units that map to themselves. -/
  | run (count : UInt16)

namespace CaseSegment

/-- The units that a segment is stored as. -/
def units : CaseSegment → List UInt16
  | image unit _ => [unit]
  | run count => [CaseMap.runMark, count]

/-- The units that segments are stored as, one segment after the other. -/
def written (segments : List CaseSegment) : List UInt16 :=
  segments.flatMap units

/-- The images that a segment stands for if it starts at a place of the map. -/
def imagesAt (place : Nat) : CaseSegment → List UInt16
  | image unit _ => [unit]
  | run count => (List.range' place count.toNat).map Nat.toUInt16

/-- The images that segments stand for from a place of the map on. -/
def imagesFrom : (place : Nat) → List CaseSegment → List UInt16
  | _, [] => []
  | place, segment :: segments =>
    segment.imagesAt place ++ imagesFrom (place + (segment.imagesAt place).length) segments

/-- The images that segments stand for, as far as there are units. -/
def table (segments : List CaseSegment) : List UInt16 :=
  (imagesFrom 0 segments).take CaseMap.capacity

/-- Segments are a stored form of a mapping: they stand for the images of the first units, and the
other units map to themselves. -/
structure Describes (segments : List CaseSegment) (mapping : UInt16 → UInt16) : Prop where
  images : ∀ (place : Nat) (h : place < (table segments).length),
    (table segments)[place] = mapping place.toUInt16
  beyond : ∀ unit : UInt16, (table segments).length ≤ unit.toNat → mapping unit = unit

variable {segment : CaseSegment} {segments : List CaseSegment} {mapping : UInt16 → UInt16}

/-- A table of images has no more of them than there are units. -/
lemma length_table_le (segments : List CaseSegment) :
    (table segments).length ≤ CaseMap.capacity :=
  List.length_take_le _ _

/-- What segments stand for at a place is the mark of a run only where that is the place itself.

**Proof sketch.** Induction on the segments. The image of one unit is no mark, and a run stands for
its own places. -/
lemma getElem_imagesFrom_ne {start place : Nat} (h : place < (imagesFrom start segments).length)
    (hne : (start + place).toUInt16 ≠ CaseMap.runMark) :
    (imagesFrom start segments)[place] ≠ CaseMap.runMark := by
  induction segments generalizing start place with
  | nil => simp [imagesFrom] at h
  | cons segment segments ih =>
    simp only [imagesFrom] at h ⊢
    rcases Nat.lt_or_ge place (segment.imagesAt start).length with hin | hbehind
    · rw [List.getElem_append_left hin]
      cases segment with
      | image unit hunit => simpa [imagesAt] using hunit
      | run count => simpa [imagesAt] using hne
    · rw [List.getElem_append_right hbehind]
      refine ih _ ?_
      rwa [Nat.add_assoc, Nat.add_sub_cancel' hbehind]

/-! ### Mappings that have a stored form -/

/-- A segment for the image of the unit at a place. The place whose image is the mark of a run is
written as a run of its own. -/
def ofPlace (mapping : UInt16 → UInt16) (place : Nat) : CaseSegment :=
  if h : mapping place.toUInt16 = CaseMap.runMark then run 1 else image (mapping place.toUInt16) h

/-- The segment of a place tells the image of that place. -/
lemma imagesAt_ofPlace (h : ∀ unit, unit ≠ CaseMap.runMark → mapping unit ≠ CaseMap.runMark)
    (place : Nat) : (ofPlace mapping place).imagesAt place = [mapping place.toUInt16] := by
  unfold ofPlace
  split_ifs with hmark
  · have hplace : place.toUInt16 = CaseMap.runMark := by_contra fun hne => h _ hne hmark
    rw [hmark, ← hplace]
    rfl
  · rfl

/-- The segments of places in a row tell their images, one by one. -/
lemma imagesFrom_ofPlace (h : ∀ unit, unit ≠ CaseMap.runMark → mapping unit ≠ CaseMap.runMark)
    (start count : Nat) :
    imagesFrom start ((List.range' start count).map (ofPlace mapping)) =
      (List.range' start count).map fun place => mapping place.toUInt16 := by
  induction count generalizing start with
  | zero => rfl
  | succ count ih =>
    rw [List.range'_succ, List.map_cons, List.map_cons, imagesFrom, imagesAt_ofPlace h,
      List.length_singleton, ih, List.singleton_append]

/-- The stored form of a mapping that has a segment for every unit. -/
def unitByUnit (mapping : UInt16 → UInt16) : List CaseSegment :=
  (List.range' 0 CaseMap.capacity).map (ofPlace mapping)

/-- Any mapping that keeps the mark of a run free is described unit by unit. -/
lemma describes_unitByUnit (h : ∀ unit, unit ≠ CaseMap.runMark → mapping unit ≠ CaseMap.runMark) :
    Describes (unitByUnit mapping) mapping := by
  have htable : table (unitByUnit mapping) =
      (List.range' 0 CaseMap.capacity).map fun place => mapping place.toUInt16 := by
    rw [table, unitByUnit, imagesFrom_ofPlace h]
    exact List.take_of_length_le (by simp)
  refine ⟨fun place hplace => ?_, fun unit hunit => ?_⟩
  · simp [htable]
  · rw [htable, List.length_map, List.length_range', CaseMap.capacity] at hunit
    exact absurd unit.toNat_lt (Nat.not_lt.2 hunit)

/-- **The mappings that have a stored form** are those that send no other unit to the mark of a
run.

**Proof sketch.** A mapping of this kind can be written unit by unit (`describes_unitByUnit`), the
mark itself as a run of one. Conversely, segments stand for the mark at its own place only
(`getElem_imagesFrom_ne`). -/
theorem exists_describes_iff :
    (∃ segments, Describes segments mapping) ↔
      ∀ unit, unit ≠ CaseMap.runMark → mapping unit ≠ CaseMap.runMark := by
  constructor
  · rintro ⟨segments, himages, hbeyond⟩ unit hne
    rcases Nat.lt_or_ge unit.toNat (table segments).length with hin | hout
    · have himage := himages unit.toNat hin
      rw [Nat.toUInt16_eq, UInt16.ofNat_toNat] at himage
      rw [← himage]
      simp only [table, List.getElem_take]
      exact getElem_imagesFrom_ne _ (by rwa [Nat.zero_add, Nat.toUInt16_eq, UInt16.ofNat_toNat])
    · rwa [hbeyond unit hout]
  · exact fun h => ⟨_, describes_unitByUnit h⟩

/-- Any units are those that some segments are stored as, but for a mark without a count behind
them. -/
theorem exists_written (stored : List UInt16) :
    ∃ segments, stored = written segments ∨ stored = written segments ++ [CaseMap.runMark] := by
  match stored with
  | [] => exact ⟨[], .inl rfl⟩
  | [unit] =>
    by_cases hmark : unit = CaseMap.runMark
    · exact ⟨[], .inr (by rw [hmark]; rfl)⟩
    · exact ⟨[image unit hmark], .inl rfl⟩
  | unit :: next :: rest =>
    by_cases hmark : unit = CaseMap.runMark
    · obtain ⟨segments, hrest⟩ := exists_written rest
      refine ⟨run next :: segments, hrest.imp (fun h => ?_) fun h => ?_⟩ <;> rw [hmark, h] <;> rfl
    · obtain ⟨segments, hrest⟩ := exists_written (next :: rest)
      refine ⟨image unit hmark :: segments, hrest.imp (fun h => ?_) fun h => ?_⟩ <;> rw [h] <;> rfl

end CaseSegment

namespace CaseMap

open CaseSegment

variable {images : Array UInt16} {rest : List UInt16}

/-! ### Decoding -/

/-- A full map takes no more images. -/
lemma decodeFrom_of_full (h : capacity ≤ images.size) (stored : List UInt16) :
    decodeFrom images stored = images := by
  cases stored with
  | nil => rfl
  | cons unit rest =>
    cases rest with
    | nil => rw [decodeFrom, if_pos (.inl h)]
    | cons next rest => rw [decodeFrom, if_pos h]

/-- The image of one unit is appended as it stands. -/
lemma decodeFrom_image {unit : UInt16} (hroom : images.size < capacity) (hunit : unit ≠ runMark)
    (rest : List UInt16) :
    decodeFrom images (unit :: rest) = decodeFrom (images.push unit) rest := by
  cases rest with
  | nil => rw [decodeFrom, decodeFrom, if_neg (by simp [hunit, hroom])]
  | cons next rest => rw [decodeFrom, if_neg (Nat.not_le.2 hroom), if_neg hunit]

/-- A run appends the places from the end of the map on, as far as there are units. -/
lemma toList_pushRun (images : Array UInt16) (count : Nat) :
    (pushRun images count).toList =
      images.toList ++ (List.range' images.size (min count (capacity - images.size))).map
        Nat.toUInt16 := by
  rw [pushRun]
  generalize List.range' images.size (min count (capacity - images.size)) = places
  induction places generalizing images with
  | nil => simp
  | cons place places ih => rw [List.foldl_cons, ih]; simp

/-- **One segment.** Decoding a segment appends the images that it stands for, as far as there are
units, and goes on behind it. -/
lemma exists_decodeFrom_segment (hsize : images.size ≤ capacity) (segment : CaseSegment)
    (rest : List UInt16) :
    ∃ images' : Array UInt16,
      decodeFrom images (segment.units ++ rest) = decodeFrom images' rest ∧
      images'.toList = (images.toList ++ segment.imagesAt images.size).take capacity := by
  rcases hsize.eq_or_lt with hfull | hroom
  · refine ⟨images, ?_, ?_⟩
    · rw [decodeFrom_of_full hfull.ge, decodeFrom_of_full hfull.ge]
    · rw [List.take_left' (by simpa using hfull)]
  · cases segment with
    | image unit hunit =>
      refine ⟨images.push unit, decodeFrom_image hroom hunit rest, ?_⟩
      rw [List.take_of_length_le (by simp [imagesAt]; omega), imagesAt, Array.toList_push]
    | run count =>
      refine ⟨pushRun images count.toNat, ?_, ?_⟩
      · rw [units, List.cons_append, List.singleton_append, decodeFrom,
          if_neg (Nat.not_le.2 hroom), if_pos rfl]
      · have hcut : (List.range' images.size count.toNat).take (capacity - images.size) =
            List.range' images.size (min count.toNat (capacity - images.size)) :=
          List.ext_getElem (by simp [Nat.min_comm]) (by simp)
        rw [toList_pushRun, imagesAt, List.take_append, List.take_of_length_le hsize,
          Array.length_toList, ← List.map_take, hcut]

/-- **Any number of segments.** Decoding them appends the images that they stand for, as far as
there are units, whether or not a mark without a count ends them.

**Proof sketch.** Induction on the segments. As long as a segment ends within the map, the next one
starts where it ends. Otherwise the map is full, and what the others stand for is cut off, wherever
they start. -/
theorem toList_decodeFrom (segments : List CaseSegment) {tail : List UInt16}
    (htail : ∀ images, decodeFrom images tail = images) (hsize : images.size ≤ capacity) :
    (decodeFrom images (written segments ++ tail)).toList =
      (images.toList ++ imagesFrom images.size segments).take capacity := by
  induction segments generalizing images with
  | nil => simpa [written, imagesFrom, htail] using hsize
  | cons segment segments ih =>
    obtain ⟨images', hdecode, himages⟩ :=
      exists_decodeFrom_segment hsize segment (written segments ++ tail)
    have hlength := congrArg List.length himages
    rw [List.length_take, List.length_append, Array.length_toList, Array.length_toList] at hlength
    rw [written, List.flatMap_cons, ← written, List.append_assoc, hdecode, ih (by omega), himages,
      imagesFrom, ← List.append_assoc]
    rcases Nat.le_total (images.size + (segment.imagesAt images.size).length) capacity with
      hwithin | hbeyond
    · have hall : (images.toList ++ segment.imagesAt images.size).take capacity =
          images.toList ++ segment.imagesAt images.size :=
        List.take_of_length_le (by simpa using hwithin)
      rw [hlength, min_eq_right hwithin, hall]
    · have hfull : capacity ≤ (images.toList ++ segment.imagesAt images.size).length := by
        simpa using hbeyond
      rw [List.take_append_of_le_length hfull,
        List.take_left' (by rw [List.length_take, min_eq_left hfull])]

/-- The map that segments describe has the images that they stand for, also with a mark without a
count behind them. -/
lemma toList_images_decode (segments : List CaseSegment) {tail : List UInt16}
    (htail : ∀ images, decodeFrom images tail = images) :
    (decode (written segments ++ tail)).images.toList = table segments :=
  toList_decodeFrom segments htail (Nat.zero_le _)

/-- A mark without a count is passed over. -/
lemma decodeFrom_lone_mark (images : Array UInt16) : decodeFrom images [runMark] = images := by
  rw [decodeFrom, if_pos (.inr rfl)]

end CaseMap

open CaseSegment in
/-- **Decoding undoes every compression.** Any stored units are segments, with or without a mark
behind them that has no count. They are decoded to the images that the segments stand for, no more
than there are units, and a unit is mapped to its image there, or to itself if there is none. So a
mapping is found again from each of its stored forms, which it has if it sends no other unit to the
mark of a run. -/
theorem decode_any_segments :
    (∀ stored, ∃ segments,
      stored = written segments ∨ stored = written segments ++ [CaseMap.runMark]) ∧
    (∀ segments,
      (CaseMap.decode (written segments)).images.toList = table segments ∧
      CaseMap.decode (written segments ++ [CaseMap.runMark]) =
        CaseMap.decode (written segments) ∧
      (table segments).length ≤ CaseMap.capacity ∧
      ∀ unit, (CaseMap.decode (written segments)).upper unit =
        (table segments).getD unit.toNat unit) ∧
    ∀ mapping : UInt16 → UInt16,
      ((∃ segments, Describes segments mapping) ↔
        ∀ unit, unit ≠ CaseMap.runMark → mapping unit ≠ CaseMap.runMark) ∧
      ∀ segments, Describes segments mapping →
        ∀ unit, (CaseMap.decode (written segments)).upper unit = mapping unit := by
  have hdecode (segments : List CaseSegment) :
      (CaseMap.decode (written segments)).images.toList = table segments := by
    simpa using @CaseMap.toList_images_decode segments [] fun _ => rfl
  have hupper (segments : List CaseSegment) (unit : UInt16) :
      (CaseMap.decode (written segments)).upper unit = (table segments).getD unit.toNat unit := by
    rw [CaseMap.upper, ← Array.getElem?_toList, hdecode, List.getD_eq_getElem?_getD]
  refine ⟨exists_written, fun segments => ⟨hdecode segments, ?_, length_table_le segments,
    hupper segments⟩, fun mapping => ⟨exists_describes_iff, fun segments h unit => ?_⟩⟩
  · have hlone := CaseMap.toList_images_decode segments CaseMap.decodeFrom_lone_mark
    rw [← hdecode segments] at hlone
    exact congrArg CaseMap.mk (Array.toList_inj.1 hlone)
  · rw [hupper]
    rcases Nat.lt_or_ge unit.toNat (table segments).length with hin | hout
    · rw [List.getD_eq_getElem _ _ hin, h.images _ hin, Nat.toUInt16_eq, UInt16.ofNat_toNat]
    · rw [List.getD_eq_default _ _ hout, h.beyond unit hout]

/-- Three letters behind a long run, and two stored forms of a run behind them: in one piece, and in
two. -/
theorem decode_any_segments_three_letters :
    (CaseMap.decode [0xFFFF, 0x61, 0x41, 0x42, 0x43, 0xFFFF, 3]).images =
        (CaseMap.decode [0xFFFF, 0x61, 0x41, 0x42, 0x43, 0xFFFF, 1, 0xFFFF, 2, 0xFFFF]).images ∧
      (CaseMap.decode [0xFFFF, 0x61, 0x41, 0x42, 0x43, 0xFFFF, 3]).upper 0x62 = 0x42 ∧
      (CaseMap.decode [0xFFFF, 0x61, 0x41, 0x42, 0x43, 0xFFFF, 3]).upper 0xE9 = 0xE9 := by
  obtain ⟨hone, -, -, hupper⟩ := decode_any_segments.2.1
    [.run 0x61, .image 0x41 (by decide), .image 0x42 (by decide), .image 0x43 (by decide), .run 3]
  obtain ⟨htwo, hlone, -, -⟩ := decode_any_segments.2.1
    [.run 0x61, .image 0x41 (by decide), .image 0x42 (by decide), .image 0x43 (by decide), .run 1,
      .run 2]
  refine ⟨Array.toList_inj.1 (hone.trans ?_), (hupper 0x62).trans (by rfl),
    (hupper 0xE9).trans (by rfl)⟩
  exact Eq.trans (by rfl) (htwo.symm.trans (congrArg (·.images.toList) hlone).symm)

end BootExtents
