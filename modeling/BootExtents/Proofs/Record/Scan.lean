import BootExtents.Proofs.Record.Codec
import BootExtents.Record.Scan
import Mathlib

/-!
# Which records are trusted

A record is trusted at an offset if the 512 bytes from there on are all there, start with the
identity of the boot stage and sum to zero modulo 256. It is then made of these bytes and no others.
A scan finds the trusted record with the lowest offset among the multiples of its stride, as far
as the last one that leaves room for a record.

## Main definitions

* `BootExtents.Record.IsGenuine` — the bytes of a record that is trusted.
* `BootExtents.Record.LiesAt` — a trusted record lies at an offset.
* `BootExtents.Record.IsFirstAt` — and no multiple of a stride below that offset has one.

## Main results

* `BootExtents.Record.isValidBytes_iff`, `isValid_iff` — the check is for these bytes.
* `BootExtents.Record.parse?_drop_eq_some_iff` — reading behind the check.
* `BootExtents.Record.scan_eq_some_iff`, `scan_eq_none_iff` — what a scan finds.
* `BootExtents.Record.scan_first_trusted` — what it depends on.
-/

set_option relaxedAutoImplicit false
set_option autoImplicit false

namespace BootExtents

/-- The sum of all bytes, as a number. -/
theorem Checksum.toNat_byteSum (bytes : List UInt8) :
    (byteSum bytes).toNat = (bytes.map UInt8.toNat).sum % 256 := by
  induction bytes with
  | nil => rfl
  | cons byte rest ih =>
    rw [byteSum_cons, UInt8.toNat_add, ih, List.map_cons, List.sum_cons, Nat.add_mod_mod]

namespace Record

variable {bytes : List UInt8} {record : Record} {offset stride : Nat}

/-! ### Trusted bytes -/

/-- The bytes of a record that is trusted. -/
structure IsGenuine (raw : List UInt8) : Prop where
  length : raw.length = 512
  identity : raw.take 16 = bootIdentity.toList
  sum : (raw.map UInt8.toNat).sum % 256 = 0

/-- The record lies at `offset`, and is trusted. -/
structure LiesAt (record : Record) (bytes : List UInt8) (offset : Nat) : Prop where
  genuine : IsGenuine (Bytes.slice bytes offset 512)
  bytes_eq : record.toBytes = Bytes.slice bytes offset 512

/-- A record lies within the bytes. -/
lemma LiesAt.le_length (h : record.LiesAt bytes offset) : offset + 512 ≤ bytes.length := by
  have hlength := h.genuine.length
  rw [Bytes.length_slice] at hlength
  omega

/-- Bytes are accepted if the first 512 of them are those of a trusted record. -/
theorem isValidBytes_iff : isValidBytes bytes = true ↔ IsGenuine (bytes.take 512) := by
  have hidentity : bootIdentity.toList <+: bytes ↔
      (bytes.take 512).take 16 = bootIdentity.toList := by
    rw [List.take_take, List.prefix_iff_eq_take, eq_comm, Vector.length_toList]
    rfl
  have hsum : Checksum.byteSum (bytes.take 512) = 0 ↔
      ((bytes.take 512).map UInt8.toNat).sum % 256 = 0 := by
    rw [← UInt8.toNat_inj, Checksum.toNat_byteSum]
    rfl
  rw [isValidBytes, Bool.and_eq_true, Bool.and_eq_true, List.isPrefixOf_iff_prefix, beq_iff_eq,
    beq_iff_eq, hidentity]
  constructor
  · rintro ⟨⟨hfront, hlength⟩, hzero⟩
    exact ⟨hlength, hfront, hsum.1 hzero⟩
  · rintro ⟨hlength, hfront, hzero⟩
    exact ⟨⟨hfront, hlength⟩, hsum.2 hzero⟩

/-- A record is genuine if its bytes are those of a trusted record. -/
theorem isValid_iff : record.isValid = true ↔ IsGenuine record.toBytes := by
  rw [isValid, isValidBytes_iff, List.take_of_length_le record.length_toBytes.le]

/-- A record that is trusted where it lies is genuine. -/
theorem LiesAt.isValid (h : record.LiesAt bytes offset) : record.isValid = true :=
  isValid_iff.2 (h.bytes_eq ▸ h.genuine)

/-- What is read at an offset is the trusted record that lies there.

**Proof sketch.** A record that was read has the bytes that it was read from, and these bytes are
read as the record that has them. -/
theorem parse?_drop_eq_some_iff :
    parse? (bytes.drop offset) = some record ↔ record.LiesAt bytes offset := by
  rw [parse?, Option.ite_none_right_eq_some, isValidBytes_iff]
  constructor
  · rintro ⟨hgenuine, hread⟩
    exact ⟨hgenuine, toBytes_of_ofBytes?_eq_some hread⟩
  · rintro ⟨hgenuine, hbytes⟩
    refine ⟨hgenuine, ?_⟩
    have hsplit : bytes.drop offset = record.toBytes ++ (bytes.drop offset).drop 512 := by
      rw [hbytes, Bytes.slice, List.take_append_drop]
    rw [hsplit, ofBytes?_toBytes_append]

/-- Nothing is read where no trusted record lies. -/
theorem parse?_drop_eq_none_iff :
    parse? (bytes.drop offset) = none ↔ ¬IsGenuine (Bytes.slice bytes offset 512) := by
  rw [parse?, Bytes.slice, ← isValidBytes_iff]
  by_cases hvalid : isValidBytes (bytes.drop offset) = true
  · have hlength := (isValidBytes_iff.1 hvalid).length
    have hraw : Bytes.slice? (bytes.drop offset) 0 byteCount ≠ none := by
      rw [Bytes.slice?_eq_some]
      · exact Option.some_ne_none _
      · rw [List.length_take] at hlength
        rw [byteCount]
        omega
    simp [hvalid, ofBytes?, hraw]
  · simp [hvalid]

/-! ### Scanning -/

/-- The record lies at `offset`, and it is the first one at a multiple of `stride`. -/
structure IsFirstAt (record : Record) (bytes : List UInt8) (stride offset : Nat) : Prop where
  multiple : stride ∣ offset
  lies : record.LiesAt bytes offset
  first : ∀ earlier < offset, stride ∣ earlier → ¬IsGenuine (Bytes.slice bytes earlier 512)

/-- A scan goes on in steps until something can be read.

**Proof sketch.** Induction on the steps of the scan. A scan that reads nothing where it stands
finds what the rest of it finds, one step further. -/
lemma scanFrom_eq_some_iff (gap start : Nat) (bytes : List UInt8) (offset : Nat)
    (record : Record) :
    scanFrom gap start bytes = some (offset, record) ↔
      ∃ steps, offset = start + steps * (gap + 1) ∧
        parse? (bytes.drop (steps * (gap + 1))) = some record ∧
        ∀ earlier < steps, parse? (bytes.drop (earlier * (gap + 1))) = none := by
  fun_induction scanFrom gap start bytes with
  | case1 start bytes found hfound =>
    constructor
    · intro h
      obtain ⟨rfl, rfl⟩ := Prod.mk.inj (Option.some.inj h)
      exact ⟨0, by simp, by simpa using hfound, by simp⟩
    · rintro ⟨steps, rfl, hread, hearlier⟩
      rcases Nat.eq_zero_or_pos steps with rfl | hpos
      · simp_all
      · simpa [hfound] using hearlier 0 hpos
  | case2 start hnone =>
    simp only [List.drop_nil, hnone, reduceCtorEq, false_and, and_false, exists_false]
  | case3 start byte rest hnone ih =>
    rw [ih]
    have hdrop (steps : Nat) : (rest.drop gap).drop (steps * (gap + 1)) =
        (byte :: rest).drop ((steps + 1) * (gap + 1)) := by
      rw [List.drop_drop, Nat.succ_mul, ← Nat.add_assoc, List.drop_succ_cons, Nat.add_comm]
    constructor
    · rintro ⟨steps, rfl, hread, hearlier⟩
      refine ⟨steps + 1, by ring, hdrop steps ▸ hread, fun earlier hlt => ?_⟩
      cases earlier with
      | zero => simpa using hnone
      | succ earlier => exact hdrop earlier ▸ hearlier earlier (by omega)
    · rintro ⟨steps, rfl, hread, hearlier⟩
      cases steps with
      | zero => simp [hnone] at hread
      | succ steps =>
        refine ⟨steps, by ring, (hdrop steps).symm ▸ hread, fun earlier hlt => ?_⟩
        exact (hdrop earlier).symm ▸ hearlier (earlier + 1) (by omega)

/-- **A scan finds the first trusted record at a multiple of the stride**, where the stride zero
counts as one. -/
theorem scan_eq_some_iff (bytes : List UInt8) (stride offset : Nat) (record : Record) :
    scan bytes stride = some (offset, record) ↔
      record.IsFirstAt bytes (max stride 1) offset := by
  have hgap : stride - 1 + 1 = max stride 1 := by omega
  have hpos : 0 < max stride 1 := by omega
  rw [scan, scanFrom_eq_some_iff, hgap]
  constructor
  · rintro ⟨steps, rfl, hread, hearlier⟩
    rw [Nat.zero_add]
    refine ⟨Dvd.intro_left steps rfl, parse?_drop_eq_some_iff.1 hread, ?_⟩
    rintro earlier hlt ⟨count, rfl⟩
    rw [Nat.mul_comm] at hlt ⊢
    exact parse?_drop_eq_none_iff.1 (hearlier count (Nat.lt_of_mul_lt_mul_right hlt))
  · rintro ⟨⟨steps, rfl⟩, hlies, hfirst⟩
    rw [Nat.mul_comm] at hlies hfirst ⊢
    refine ⟨steps, (Nat.zero_add _).symm, parse?_drop_eq_some_iff.2 hlies, fun earlier hlt => ?_⟩
    exact parse?_drop_eq_none_iff.2
      (hfirst _ (Nat.mul_lt_mul_of_pos_right hlt hpos) (Dvd.intro_left earlier rfl))

/-- What a scan finds, whatever the offset. -/
theorem map_scan_eq_some_iff (bytes : List UInt8) (stride : Nat) (record : Record) :
    (scan bytes stride).map (·.2) = some record ↔
      ∃ offset, record.IsFirstAt bytes (max stride 1) offset := by
  simp only [Option.map_eq_some_iff, Prod.exists, exists_eq_right, scan_eq_some_iff]

/-! ### What the first trusted record depends on -/

/-- Bytes of a trusted record are those of one. -/
lemma exists_liesAt (h : IsGenuine (Bytes.slice bytes offset 512)) :
    ∃ record : Record, record.LiesAt bytes offset := by
  cases hread : parse? (bytes.drop offset) with
  | none => exact absurd h (parse?_drop_eq_none_iff.1 hread)
  | some record => exact ⟨record, parse?_drop_eq_some_iff.1 hread⟩

/-- Where a trusted record lies, it is the first one or comes after it. -/
lemma exists_isFirstAt (hmultiple : stride ∣ offset)
    (h : IsGenuine (Bytes.slice bytes offset 512)) :
    ∃ first ≤ offset, ∃ record : Record, record.IsFirstAt bytes stride first := by
  classical
  have hex : ∃ place, stride ∣ place ∧ IsGenuine (Bytes.slice bytes place 512) :=
    ⟨offset, hmultiple, h⟩
  obtain ⟨hdvd, hgenuine⟩ := Nat.find_spec hex
  obtain ⟨record, hlies⟩ := exists_liesAt hgenuine
  refine ⟨Nat.find hex, Nat.find_min' hex ⟨hmultiple, h⟩, record, hdvd, hlies, ?_⟩
  intro earlier hlt hother hcontra
  exact Nat.find_min hex hlt ⟨hother, hcontra⟩

/-- So a scan finds something there or before. -/
lemma exists_scan_eq_some (hmultiple : max stride 1 ∣ offset)
    (h : IsGenuine (Bytes.slice bytes offset 512)) :
    ∃ first ≤ offset, ∃ record, scan bytes stride = some (first, record) := by
  obtain ⟨first, hle, record, hfirst⟩ := exists_isFirstAt hmultiple h
  exact ⟨first, hle, record, (scan_eq_some_iff ..).2 hfirst⟩

/-- A scan finds nothing if there is no trusted record at a multiple of the stride. -/
theorem scan_eq_none_iff (bytes : List UInt8) (stride : Nat) :
    scan bytes stride = none ↔
      ∀ place, max stride 1 ∣ place → ¬IsGenuine (Bytes.slice bytes place 512) := by
  constructor
  · intro hnone place hdvd hgenuine
    obtain ⟨first, -, record, hscan⟩ := exists_scan_eq_some hdvd hgenuine
    rw [hnone] at hscan
    cases hscan
  · intro hnowhere
    by_contra hsome
    obtain ⟨⟨offset, record⟩, hscan⟩ := Option.ne_none_iff_exists'.1 hsome
    have hfirst := (scan_eq_some_iff ..).1 hscan
    exact hnowhere offset hfirst.multiple hfirst.lies.genuine

/-- The first trusted record is the least place with the bytes of one. -/
lemma isFirstAt_iff_isLeast : record.IsFirstAt bytes stride offset ↔
    IsLeast {place | stride ∣ place ∧ place + 512 ≤ bytes.length ∧
      IsGenuine (Bytes.slice bytes place 512)} offset ∧
    record.toBytes = Bytes.slice bytes offset 512 := by
  constructor
  · intro h
    refine ⟨⟨⟨h.multiple, h.lies.le_length, h.lies.genuine⟩, ?_⟩, h.lies.bytes_eq⟩
    rintro place ⟨hdvd, -, hgenuine⟩
    exact Nat.le_of_not_lt fun hlt => h.first place hlt hdvd hgenuine
  · rintro ⟨⟨⟨hdvd, -, hgenuine⟩, hleast⟩, hbytes⟩
    refine ⟨hdvd, ⟨hgenuine, hbytes⟩, fun earlier hlt hother hcontra => ?_⟩
    obtain ⟨found, hlies⟩ := exists_liesAt hcontra
    exact Nat.not_le.2 hlt (hleast ⟨hother, hlies.le_length, hcontra⟩)

/-- Which record comes first depends on no byte behind it.

**Proof sketch.** The bytes at an earlier place end before those of the record. -/
lemma IsFirstAt.congr {other : List UInt8} (h : record.IsFirstAt bytes stride offset)
    (hsame : other.take (offset + 512) = bytes.take (offset + 512)) :
    record.IsFirstAt other stride offset := by
  have hslice : ∀ place ≤ offset, Bytes.slice other place 512 = Bytes.slice bytes place 512 := by
    intro place hle
    have hfront (list : List UInt8) :
        Bytes.slice list place 512 = Bytes.slice (list.take (offset + 512)) place 512 := by
      have hwhole : Bytes.slice (Bytes.slice list 0 (offset + 512)) place 512 =
          Bytes.slice list (0 + place) 512 := Bytes.slice_slice list 0 (by omega)
      rw [Nat.zero_add] at hwhole
      exact hwhole.symm
    rw [hfront other, hsame, ← hfront bytes]
  have hhere := hslice offset le_rfl
  refine ⟨h.multiple, ⟨hhere ▸ h.lies.genuine, hhere ▸ h.lies.bytes_eq⟩, ?_⟩
  intro earlier hlt hdvd
  rw [hslice earlier hlt.le]
  exact h.first earlier hlt hdvd

/-- **A scan finds the first trusted record, and nothing else.** It finds the least multiple of the
stride, or of one for the stride zero, at which there are 512 bytes that start with the identity and
sum to zero, and a record of exactly these bytes; and it finds nothing if there is no such place. So
a record at the very end is found, unless one in front of it is. What follows the bytes of the
record is without influence, and a finer stride finds something at the same place or in front of
it. -/
theorem scan_first_trusted (bytes : List UInt8) (stride : Nat) :
    (∀ offset record, scan bytes stride = some (offset, record) ↔
      IsLeast {place | max stride 1 ∣ place ∧ place + 512 ≤ bytes.length ∧
        IsGenuine (Bytes.slice bytes place 512)} offset ∧
      record.toBytes = Bytes.slice bytes offset 512) ∧
    (scan bytes stride = none ↔ ∀ place, max stride 1 ∣ place → place + 512 ≤ bytes.length →
      ¬IsGenuine (Bytes.slice bytes place 512)) ∧
    (∀ front record, bytes = front ++ record.toBytes → record.isValid = true →
      max stride 1 ∣ front.length →
      scan bytes stride = some (front.length, record) ∨
        ∃ offset < front.length, ∃ found, scan bytes stride = some (offset, found)) ∧
    (∀ other offset record, other.take (offset + 512) = bytes.take (offset + 512) →
      (scan other stride = some (offset, record) ↔ scan bytes stride = some (offset, record))) ∧
    ∀ finer offset record, 0 < finer → 0 < stride → finer ∣ stride →
      scan bytes stride = some (offset, record) →
      ∃ place ≤ offset, ∃ found, scan bytes finer = some (place, found) := by
  refine ⟨fun offset record => (scan_eq_some_iff ..).trans isFirstAt_iff_isLeast, ?_, ?_, ?_, ?_⟩
  · rw [scan_eq_none_iff]
    refine forall_congr' fun place => forall_congr' fun _ => ⟨fun h _ => h, fun h hgenuine => ?_⟩
    obtain ⟨record, hlies⟩ := exists_liesAt hgenuine
    exact h hlies.le_length hgenuine
  · rintro front record rfl hvalid hdvd
    have hslice : Bytes.slice (front ++ record.toBytes) front.length 512 = record.toBytes := by
      rw [Bytes.slice, List.drop_left, List.take_of_length_le record.length_toBytes.le]
    have hgenuine : IsGenuine (Bytes.slice (front ++ record.toBytes) front.length 512) := by
      rw [hslice]
      exact isValid_iff.1 hvalid
    obtain ⟨first, hle, found, hfirst⟩ := exists_isFirstAt hdvd hgenuine
    rcases hle.eq_or_lt with rfl | hlt
    · exact .inl ((scan_eq_some_iff ..).2 ⟨hdvd, ⟨hgenuine, hslice.symm⟩, hfirst.first⟩)
    · exact .inr ⟨first, hlt, found, (scan_eq_some_iff ..).2 hfirst⟩
  · intro other offset record hsame
    rw [scan_eq_some_iff, scan_eq_some_iff]
    exact ⟨fun h => h.congr hsame.symm, fun h => h.congr hsame⟩
  · intro finer offset record hfiner hstride hdvd hscan
    have hfirst := (scan_eq_some_iff ..).1 hscan
    have hstep : max stride 1 = stride := max_eq_left hstride
    have hmultiple : max finer 1 ∣ offset := by
      rw [max_eq_left (Nat.succ_le_of_lt hfiner)]
      exact hdvd.trans (hstep ▸ hfirst.multiple)
    exact exists_scan_eq_some hmultiple hfirst.lies.genuine

/-- Bytes that start with the identity and do not sum to zero, then a record. A scan in steps of 512
bytes finds the record at the end, and one in steps of 16 finds something there or before. -/
theorem scan_first_trusted_false_start :
    let record := create (Vector.replicate 16 7) 1024 1 .ntfs "/a" 0
    let bytes := (bootIdentity.toList ++ List.replicate 496 0) ++ record.toBytes
    scan bytes 512 = some (512, record) ∧
      ∃ place ≤ 512, ∃ found, scan bytes 16 = some (place, found) := by
  intro record bytes
  have hvalid : record.isValid = true := by
    rw [isValid, ← List.append_nil record.toBytes]
    exact isValidBytes_sealed_append rfl []
  clear_value record
  obtain ⟨hfound, -, hend, -, hfiner⟩ := scan_first_trusted bytes 512
  have hfront : (bootIdentity.toList ++ List.replicate 496 0).length = 512 := by
    rw [List.length_append, Vector.length_toList, List.length_replicate]
  have hsum : ((bootIdentity.toList ++ List.replicate 496 0).map UInt8.toNat).sum % 256 ≠ 0 := by
    simp only [List.map_append, List.sum_append, List.map_replicate, List.sum_replicate_nat]
    decide
  have hscan : scan bytes 512 = some (512, record) := by
    have hlast := hend _ record rfl hvalid
    rw [hfront] at hlast
    refine (hlast (dvd_refl 512)).resolve_right ?_
    rintro ⟨offset, hlt, found, hscan⟩
    obtain ⟨⟨⟨hdvd, -, hgenuine⟩, -⟩, -⟩ := (hfound offset found).1 hscan
    obtain rfl : offset = 0 := Nat.eq_zero_of_dvd_of_lt hdvd hlt
    rw [Bytes.slice_zero_append record.toBytes hfront] at hgenuine
    exact hsum hgenuine.sum
  exact ⟨hscan, hfiner 16 512 record (by decide) (by decide) (by decide) hscan⟩

end Record

end BootExtents
