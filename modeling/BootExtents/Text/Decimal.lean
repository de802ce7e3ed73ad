import BootExtents.Text.Blank

/-!
# Unsigned decimal numbers

The spelling of the numbers in the kernel's files: ASCII digits, perhaps after a plus sign, with
blanks at both ends, and below a bound.

## Main definitions

* `BootExtents.Text.Decimal.limit` — the bound.
* `BootExtents.Text.Decimal.value?` — the number that digits spell, if it is below the bound.
* `BootExtents.Text.Decimal.read?` — the number that a text holds.

## Main results

* `BootExtents.Text.Decimal.valueFrom?_eq_some_iff` — giving up at the first number beyond the
  bound loses none below it.
-/

set_option relaxedAutoImplicit false
set_option autoImplicit false

namespace BootExtents.Text.Decimal

/-- All numbers that are read are below this one. -/
def limit : Nat := UInt64.size

/-- A number with one more digit behind it. -/
def extended (value : Nat) (digit : Char) : Nat :=
  value * 10 + (digit.toNat - '0'.toNat)

/-- The number below the limit that starts with the digits read into `value` and goes on with a
text. -/
def valueFrom? (value : Nat) : List Char → Option Nat
  | [] => some value
  | c :: rest =>
    if c.isDigit && extended value c < limit then valueFrom? (extended value c) rest else none

/-- The number below the limit that a non-empty row of ASCII digits spells. -/
def value? (text : List Char) : Option Nat :=
  if text.isEmpty then none else valueFrom? 0 text

/-- The number that a text spells with at most one plus sign in front. -/
def signed? : List Char → Option Nat
  | '+' :: digits => value? digits
  | digits => value? digits

/-- The number that a text holds between blanks. -/
def read? (text : List Char) : Option UInt64 :=
  (signed? (trimmed text)).map (·.toUInt64)

/-- A longer number is not smaller. -/
theorem le_foldl_extended (value : Nat) (text : List Char) :
    value ≤ text.foldl extended value := by
  induction text generalizing value with
  | nil => exact Nat.le_refl _
  | cons c rest ih =>
    have : value ≤ extended value c := by simp only [extended]; omega
    exact Nat.le_trans this (ih _)

/-- Exactly the rows of digits whose number is below the limit are read, as that number. -/
theorem valueFrom?_eq_some_iff {value number : Nat} {text : List Char} (h : value < limit) :
    valueFrom? value text = some number ↔
      (∀ c ∈ text, c.isDigit = true) ∧ text.foldl extended value = number ∧ number < limit := by
  induction text generalizing value with
  | nil =>
    simp only [valueFrom?, Option.some.injEq, List.not_mem_nil, false_implies, implies_true,
      List.foldl_nil, true_and]
    exact ⟨fun eq => ⟨eq, eq ▸ h⟩, fun both => both.1⟩
  | cons c rest ih =>
    by_cases below : extended value c < limit
    · by_cases digit : c.isDigit = true
      · simp [valueFrom?, digit, below, ih below]
      · simp [valueFrom?, digit]
    · have := le_foldl_extended (extended value c) rest
      simp only [valueFrom?, below, decide_false, Bool.and_false, Bool.false_eq_true, if_false,
        List.foldl_cons, reduceCtorEq, false_iff]
      rintro ⟨-, rfl, small⟩
      omega

end BootExtents.Text.Decimal
