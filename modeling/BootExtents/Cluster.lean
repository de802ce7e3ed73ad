/-!
# Cluster numbers

A volume's data area is divided into clusters, numbered from 2. A number read from the volume may
be any 32-bit word: an end mark, a bad mark or corruption, which the owner of a chain tells apart.

## Main definitions

* `BootExtents.ClusterId` — the number of a cluster.
* `BootExtents.ceilDiv` — how many units of a size hold a length.

## Main results

* `BootExtents.lt_ceilDiv`, `ceilDiv_le` — counts of units against lengths.
-/

set_option relaxedAutoImplicit false
set_option autoImplicit false

namespace BootExtents

/-- The number of a cluster. -/
abbrev ClusterId := UInt32

/-- The number of the first cluster of the data area. -/
def firstCluster : ClusterId := 2

/-- How many units of `unit` bytes hold `length` bytes; none for a zero unit. -/
def ceilDiv (length unit : Nat) : Nat :=
  (length + unit - 1) / unit

/-- A length needs more than `count` units exactly if `count` units do not hold it. -/
theorem lt_ceilDiv {unit : Nat} (hunit : 0 < unit) (count length : Nat) :
    count < ceilDiv length unit ↔ count * unit < length := by
  rw [ceilDiv, Nat.lt_div_iff_mul_lt hunit]
  omega

/-- A count of units is large enough exactly if its units hold all the length. -/
theorem ceilDiv_le {unit : Nat} (hunit : 0 < unit) (count length : Nat) :
    ceilDiv length unit ≤ count ↔ length ≤ count * unit := by
  rw [← Nat.not_lt, lt_ceilDiv hunit, Nat.not_lt]

/-- No unit is needed for nothing. -/
theorem ceilDiv_zero {unit : Nat} (hunit : 0 < unit) : ceilDiv 0 unit = 0 := by
  rw [← Nat.le_zero, ceilDiv_le hunit]
  exact Nat.zero_le _

/-- The units that hold a length have room for it. -/
theorem le_ceilDiv_mul {unit : Nat} (hunit : 0 < unit) (length : Nat) :
    length ≤ ceilDiv length unit * unit :=
  (ceilDiv_le hunit _ _).1 (Nat.le_refl _)

/-- One unit less has not. -/
theorem ceilDiv_mul_lt {unit : Nat} (hunit : 0 < unit) (length : Nat) :
    ceilDiv length unit * unit < length + unit := by
  have := Nat.div_mul_le_self (length + unit - 1) unit
  rw [ceilDiv]
  omega

/-- The units that hold a length end within any whole number of units that has room for it. -/
theorem ceilDiv_mul_le_of_dvd {unit length room : Nat} (hunit : 0 < unit) (hroom : unit ∣ room)
    (h : length ≤ room) : ceilDiv length unit * unit ≤ room := by
  obtain ⟨count, rfl⟩ := hroom
  rw [Nat.mul_comm unit]
  exact Nat.mul_le_mul_right _ ((ceilDiv_le hunit _ _).2 (by rwa [Nat.mul_comm]))

/-- Whole units in front of a length add up. -/
theorem ceilDiv_mul_add {unit : Nat} (hunit : 0 < unit) (count length : Nat) :
    ceilDiv (count * unit + length) unit = count + ceilDiv length unit := by
  rw [ceilDiv, ceilDiv, Nat.add_assoc, Nat.add_sub_assoc (by omega), Nat.mul_comm,
    Nat.mul_add_div hunit]

/-- A whole number of units fills the units that hold it. -/
theorem ceilDiv_mul_of_dvd {unit length : Nat} (hunit : 0 < unit) (h : unit ∣ length) :
    ceilDiv length unit * unit = length := by
  obtain ⟨count, rfl⟩ := h
  have hcount := ceilDiv_mul_add hunit count 0
  rw [ceilDiv_zero hunit, Nat.add_zero, Nat.add_zero, Nat.mul_comm] at hcount
  rw [hcount, Nat.mul_comm]

end BootExtents
