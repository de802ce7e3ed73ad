import BootExtents.Bytes.Checksum
import Mathlib

/-!
# Checksums of altered bytes

One step of a rotating sum can be undone, if either the byte or the sum before it is known. So sums
that differ stay different over the same bytes, and different bytes after the same sum make it
differ. Hence a byte altered anywhere changes the checksum of the whole, however long it is. The
plain sum tells the same, for the same reasons.

## Main definitions

* `BootExtents.AlteredAtOne` — one byte of a list is another one.

## Main results

* `BootExtents.AlteredAtOne.take_or_drop` — the byte is in front of a place, or behind it.
* `BootExtents.Checksum.rotateAdd_left_cancel`, `rotateAdd_right_cancel` — one step can be undone.
* `BootExtents.Checksum.byteSum_ne_of_altered`, `rotating_ne_of_altered` — checksums tell the
  bytes.
-/

set_option relaxedAutoImplicit false
set_option autoImplicit false

namespace BootExtents

/-! ### One byte -/

/-- One byte of a list is altered, whichever it is, and to whatever other value. -/
def AlteredAtOne (bytes others : List UInt8) : Prop :=
  ∃ (place : Nat) (h : place < bytes.length) (byte : UInt8),
    byte ≠ bytes[place] ∧ others = bytes.set place byte

namespace AlteredAtOne

variable {bytes others : List UInt8}

/-- An altered list has its old length. -/
lemma length_eq (h : AlteredAtOne bytes others) : others.length = bytes.length := by
  obtain ⟨place, hplace, byte, hne, rfl⟩ := h
  exact List.length_set

/-- An altered list is another one. -/
lemma ne (h : AlteredAtOne bytes others) : others ≠ bytes := by
  obtain ⟨place, hplace, byte, hne, rfl⟩ := h
  intro heq
  have hbyte := List.getElem_set_self (l := bytes) (a := byte) (by simpa using hplace)
  simp only [heq] at hbyte
  exact hne hbyte.symm

/-- What stands in front of the byte and behind it is the same. -/
lemma exists_append (h : AlteredAtOne bytes others) :
    ∃ front byte other back, byte ≠ other ∧ bytes = front ++ byte :: back ∧
      others = front ++ other :: back := by
  obtain ⟨place, hplace, byte, hne, rfl⟩ := h
  refine ⟨bytes.take place, bytes[place], byte, bytes.drop (place + 1), hne.symm, ?_, ?_⟩
  · rw [List.getElem_cons_drop, List.take_append_drop]
  · exact List.set_eq_take_append_cons_drop.trans (if_pos hplace)

/-- The byte is among the first `count` ones, or among the others. -/
theorem take_or_drop (h : AlteredAtOne bytes others) (count : Nat) :
    AlteredAtOne (bytes.take count) (others.take count) ∧ others.drop count = bytes.drop count ∨
      others.take count = bytes.take count ∧
        AlteredAtOne (bytes.drop count) (others.drop count) := by
  obtain ⟨place, hplace, byte, hne, rfl⟩ := h
  rcases Nat.lt_or_ge place count with hlt | hge
  · refine .inl ⟨⟨place, by simp; omega, byte, by simpa using hne, List.take_set⟩, ?_⟩
    exact List.drop_set_of_lt hlt
  · refine .inr ⟨List.take_set_of_le hge, place - count, by simp; omega, byte, ?_, ?_⟩
    · simpa [Nat.add_sub_cancel' hge] using hne
    · rw [List.drop_set, if_neg (Nat.not_lt.2 hge)]

/-- Bytes behind an altered list are part of it. -/
lemma append_right (h : AlteredAtOne bytes others) (back : List UInt8) :
    AlteredAtOne (bytes ++ back) (others ++ back) := by
  obtain ⟨place, hplace, byte, hne, rfl⟩ := h
  refine ⟨place, by simp; omega, byte, ?_, (List.set_append_left _ _ hplace).symm⟩
  rwa [List.getElem_append_left hplace]

/-- Bytes in front of an altered list are part of it. -/
lemma append_left (h : AlteredAtOne bytes others) (front : List UInt8) :
    AlteredAtOne (front ++ bytes) (front ++ others) := by
  obtain ⟨place, hplace, byte, hne, rfl⟩ := h
  refine ⟨front.length + place, by simpa using hplace, byte, by simpa using hne, ?_⟩
  rw [List.set_append_right _ _ (Nat.le_add_right ..), Nat.add_sub_cancel_left]

end AlteredAtOne

/-! ### Sums -/

namespace Checksum

variable {bytes others : List UInt8} {half sum other width : Nat} {byte byte' : UInt8}

/-- An altered byte changes the plain sum. -/
theorem byteSum_ne_of_altered (h : AlteredAtOne bytes others) :
    byteSum others ≠ byteSum bytes := by
  obtain ⟨front, byte, other, back, hne, rfl, rfl⟩ := h.exists_append
  rw [byteSum_append, byteSum_append, byteSum_cons, byteSum_cons]
  intro heq
  exact hne.symm (add_right_cancel (add_left_cancel heq))

/-- Turning a sum does not make it wider. -/
lemma turn_lt (h : sum < 2 * half) : sum / 2 + sum % 2 * half < 2 * half := by
  rcases Nat.mod_two_eq_zero_or_one sum with hlow | hlow
  · rw [hlow]
    omega
  · rw [hlow]
    omega

/-- After the same byte, the sum before it can be told. -/
theorem rotateAdd_left_cancel (hsum : sum < 2 * half) (hother : other < 2 * half)
    (h : rotateAdd half sum byte = rotateAdd half other byte) : sum = other := by
  have hturn : sum / 2 + sum % 2 * half = other / 2 + other % 2 * half := by
    have hmod : sum / 2 + sum % 2 * half ≡ other / 2 + other % 2 * half [MOD 2 * half] :=
      Nat.ModEq.add_right_cancel' byte.toNat h
    exact hmod.eq_of_lt_of_lt (turn_lt hsum) (turn_lt hother)
  rcases Nat.mod_two_eq_zero_or_one sum with hlow | hlow <;>
    rcases Nat.mod_two_eq_zero_or_one other with hlow' | hlow' <;>
    rw [hlow, hlow'] at hturn <;> omega

/-- After the same sum, the byte can be told, if the sum is not narrower than a byte. -/
theorem rotateAdd_right_cancel (hhalf : 128 ≤ half)
    (h : rotateAdd half sum byte = rotateAdd half sum byte') : byte = byte' := by
  have hmod : byte.toNat ≡ byte'.toNat [MOD 2 * half] := Nat.ModEq.add_left_cancel' _ h
  have hbyte := byte.toNat_lt
  have hbyte' := byte'.toNat_lt
  exact UInt8.toNat_inj.1 (hmod.eq_of_lt_of_lt (by omega) (by omega))

/-- Over the same bytes, sums that differ stay different.

**Proof sketch.** Induction on the bytes. The sums stay within their width, and each step can be
undone (`rotateAdd_left_cancel`). -/
lemma foldl_rotateAdd_cancel (hsum : sum < 2 * half) (hother : other < 2 * half)
    (h : bytes.foldl (rotateAdd half) sum = bytes.foldl (rotateAdd half) other) :
    sum = other := by
  induction bytes generalizing sum other with
  | nil => exact h
  | cons byte rest ih =>
    have hpos : 0 < half := by omega
    have hstep := ih (rotateAdd_lt hpos sum byte) (rotateAdd_lt hpos other byte) h
    exact rotateAdd_left_cancel hsum hother hstep

/-- **An altered byte changes the rotating sum**, if that is not narrower than a byte.

**Proof sketch.** Up to the byte the sums agree. The byte makes them differ
(`rotateAdd_right_cancel`), and behind it they stay different (`foldl_rotateAdd_cancel`). -/
theorem rotating_ne_of_altered (hwidth : 8 ≤ width) (h : AlteredAtOne bytes others) :
    rotating width others ≠ rotating width bytes := by
  obtain ⟨front, byte, other, back, hne, rfl, rfl⟩ := h.exists_append
  have hhalf : 128 ≤ 1 <<< (width - 1) := by
    have hpow : 2 ^ 7 ≤ 2 ^ (width - 1) := Nat.pow_le_pow_right (by decide) (by omega)
    rwa [Nat.one_shiftLeft]
  intro heq
  rw [rotating_append, rotating_append, List.foldl_cons, List.foldl_cons] at heq
  have hstep := foldl_rotateAdd_cancel (rotateAdd_lt (by omega) _ _) (rotateAdd_lt (by omega) _ _)
    heq
  exact hne (rotateAdd_right_cancel hhalf hstep).symm

end Checksum

end BootExtents
