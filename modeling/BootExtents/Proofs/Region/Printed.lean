import BootExtents.Region.LinearTable
import BootExtents.Text.Decimal
import Mathlib

/-!
# Reading a printed table

What is printed of a linear table is text. Read line by line, with numbers read as the kernel's are,
it tells the lines of the table again, in their order, and nothing else. So whoever has the text has
the numbers, and two tables with one text have the same lines.

## Main definitions

* `BootExtents.Text.leadingNumber?` — the number at the front of a text.
* `BootExtents.LinearTable.Row.ofText?` — the line at the front of a text.
* `BootExtents.LinearTable.rowsOfText?` — the lines of a text.

## Main results

* `BootExtents.Text.leadingNumber?_append` — a number in front of anything but a digit is read.
* `BootExtents.LinearTable.Row.ofText?_append` — so is a line, in front of anything.
* `BootExtents.LinearTable.rowsOfText?_text` — what is printed of a table is read as its lines.
-/

set_option relaxedAutoImplicit false
set_option autoImplicit false

namespace BootExtents

/-! ### Numbers in a text -/

namespace Text

/-- The number that the digits at the front of a text spell, and what is behind them. -/
def leadingNumber? (text : List Char) : Option (Nat × List Char) := do
  let number ← Decimal.value? (text.takeWhile Char.isDigit)
  return (number, text.dropWhile Char.isDigit)

/-- The number that is printed is the one that its digits spell. -/
lemma foldl_extended_toDigits (number : Nat) :
    (Nat.toDigits 10 number).foldl Decimal.extended 0 = number := by
  have hextended : Decimal.extended =
      fun value digit => 10 * value + (digit.toNat - '0'.toNat) := by
    funext value digit
    rw [Decimal.extended, Nat.mul_comm]
  rw [hextended, ← Nat.ofDigitChars_eq_foldl, Nat.ofDigitChars_ten_toDigits]

/-- What is printed of a number below the limit is read as that number. -/
lemma value?_toDigits {number : Nat} (h : number < Decimal.limit) :
    Decimal.value? (Nat.toDigits 10 number) = some number := by
  have hne : (Nat.toDigits 10 number).isEmpty = false := by
    rw [List.isEmpty_eq_false_iff]
    exact Nat.toDigits_ne_nil
  rw [Decimal.value?, hne, if_neg Bool.false_ne_true,
    Decimal.valueFrom?_eq_some_iff (by decide)]
  refine ⟨fun c hc => ?_, foldl_extended_toDigits number, h⟩
  exact Nat.isDigit_of_mem_toDigits (by decide) (by decide) hc

/-- **A printed number is read**, in front of anything but a digit. -/
theorem leadingNumber?_append {number : Nat} (h : number < Decimal.limit) {rest : List Char}
    (hrest : ∀ c ∈ rest.head?, c.isDigit = false) :
    leadingNumber? ((toString number).toList ++ rest) = some (number, rest) := by
  have hdigits : ∀ c ∈ Nat.toDigits 10 number, c.isDigit = true := fun c hc =>
    Nat.isDigit_of_mem_toDigits (by decide) (by decide) hc
  have hbehind : rest.takeWhile Char.isDigit = [] ∧ rest.dropWhile Char.isDigit = rest := by
    cases rest with
    | nil => exact ⟨rfl, rfl⟩
    | cons c rest =>
      have hc := hrest c rfl
      exact ⟨List.takeWhile_cons_of_neg (by simp [hc]), List.dropWhile_cons_of_neg (by simp [hc])⟩
  rw [leadingNumber?, Nat.toString_eq_ofList_toDigits, String.toList_ofList,
    List.takeWhile_append_of_pos hdigits, List.dropWhile_append_of_pos hdigits, hbehind.1,
    hbehind.2, List.append_nil, value?_toDigits h]
  rfl

/-- A number is read from some of the text. -/
lemma length_le_of_leadingNumber? {text rest : List Char} {number : Nat}
    (h : leadingNumber? text = some (number, rest)) : rest.length ≤ text.length := by
  obtain ⟨_, -, hrest⟩ := Option.bind_eq_some_iff.1 h
  obtain ⟨-, rfl⟩ := Prod.mk.inj (Option.some.inj hrest)
  exact (List.dropWhile_sublist _).length_le

/-- A text in front of another one is taken off. -/
lemma dropPrefix?_append (literal : String) (rest : List Char) :
    (literal.toList ++ rest).dropPrefix? literal.toList = some rest :=
  List.dropPrefix?_append_of_beq rest (beq_self_eq_true _)

/-- What is taken off a text is part of its length. -/
lemma length_of_dropPrefix? {text front rest : List Char} (h : text.dropPrefix? front = some rest) :
    text.length = front.length + rest.length := by
  obtain ⟨front', rfl, hfront⟩ := List.dropPrefix?_eq_some_iff.1 h
  rw [List.length_append, eq_of_beq hfront]

end Text

/-! ### Lines of a text -/

namespace LinearTable

open Text (leadingNumber?)

/-- The line at the front of a text, and what is behind it: where it starts and how many units it
maps, each in front of a blank, the kind of the mapping, the device and where it starts there. -/
def Row.ofText? (device : String) (text : List Char) : Option (Row × List Char) := do
  let (start, text) ← leadingNumber? text
  let text ← text.dropPrefix? " ".toList
  let (count, text) ← leadingNumber? text
  let text ← text.dropPrefix? (" linear " ++ device ++ " ").toList
  let (offset, text) ← leadingNumber? text
  let text ← text.dropPrefix? "\n".toList
  return (⟨start, count, offset⟩, text)

/-- A line takes some of the text. -/
lemma Row.length_lt_of_ofText? {device : String} {text rest : List Char} {row : Row}
    (h : Row.ofText? device text = some (row, rest)) : rest.length < text.length := by
  simp only [Row.ofText?, Option.bind_eq_bind, Option.bind_eq_some_iff, Prod.exists] at h
  obtain ⟨start, text₁, hstart, text₂, h₂, count, text₃, hcount, text₄, h₄, offset, text₅, hoffset,
    text₆, h₆, hend⟩ := h
  obtain ⟨-, rfl⟩ := Prod.mk.inj (Option.some.inj hend)
  have h₁ := Text.length_le_of_leadingNumber? hstart
  have h₃ := Text.length_le_of_leadingNumber? hcount
  have h₅ := Text.length_le_of_leadingNumber? hoffset
  have := Text.length_of_dropPrefix? h₂
  have := Text.length_of_dropPrefix? h₄
  have hlast : text₅.length = 1 + text₆.length := Text.length_of_dropPrefix? h₆
  omega

/-- The lines of a text, one behind the other, if it consists of such lines. -/
def rowsOfText? (device : String) (text : List Char) : Option (List Row) :=
  if text = [] then
    some []
  else
    match _h : Row.ofText? device text with
    | none => none
    | some (row, rest) => (rowsOfText? device rest).map (row :: ·)
termination_by text.length
decreasing_by exact Row.length_lt_of_ofText? ‹_›

variable {row : Row} {table : LinearTable}

/-- The lines of a text are the line at its front and those of what is behind it. -/
lemma rowsOfText?_of_ofText? {device : String} {text rest : List Char}
    (h : Row.ofText? device text = some (row, rest)) :
    rowsOfText? device text = (rowsOfText? device rest).map (row :: ·) := by
  have hne : text ≠ [] := by
    rintro rfl
    exact absurd (Row.length_lt_of_ofText? h) (Nat.not_lt_zero _)
  rw [rowsOfText?, if_neg hne]
  split
  · next hnone => rw [h] at hnone; cases hnone
  · next row' rest' hsome =>
    rw [h] at hsome
    obtain ⟨rfl, rfl⟩ := Prod.mk.inj (Option.some.inj hsome)
    rfl

/-- The numbers of a line are below the limit of those that are read. -/
structure Row.IsReadable (row : Row) : Prop where
  start_lt : row.start < Text.Decimal.limit
  count_lt : row.count < Text.Decimal.limit
  offset_lt : row.offset < Text.Decimal.limit

/-- The lines of every table are readable: their numbers are products of two numbers of 32 bits, and
disk units. -/
lemma isReadable_of_mem_rows (h : row ∈ table.rows) : row.IsReadable := by
  obtain ⟨region, -, rfl⟩ := List.mem_map.1 h
  have hratio : table.list.unitRatio < 2 ^ 32 :=
    (Nat.div_le_self _ _).trans_lt table.list.imageUnit.toNat_lt
  have hlimit : Text.Decimal.limit = 2 ^ 32 * 2 ^ 32 := by decide
  refine ⟨?_, ?_, ?_⟩
  · rw [hlimit]
    exact Nat.mul_lt_mul'' region.imageStart.toNat_lt hratio
  · rw [hlimit]
    exact Nat.mul_lt_mul'' region.imageCount.toNat_lt hratio
  · exact (Nat.sub_le _ _).trans_lt region.diskStart.toNat_lt

/-- **A printed line is read**, in front of anything. -/
theorem Row.ofText?_append (h : row.IsReadable) (device : String) (rest : List Char) :
    Row.ofText? device ((row.text device).toList ++ rest) = some (row, rest) := by
  have hself : ∀ text : String, toString text = text := fun _ => rfl
  have htext : (row.text device).toList ++ rest =
      (toString row.start).toList ++ (" ".toList ++ ((toString row.count).toList ++
        ((" linear " ++ device ++ " ").toList ++ ((toString row.offset).toList ++
          ("\n".toList ++ rest))))) := by
    simp only [Row.text, hself, String.toList_append, List.append_assoc]
  -- Behind each number there is a blank or the end of the line.
  have hblank : ∀ rest : List Char, ∀ c ∈ (" ".toList ++ rest).head?, c.isDigit = false := by
    rintro rest c ⟨⟩
    rfl
  have hkind : ∀ rest : List Char,
      ∀ c ∈ ((" linear " ++ device ++ " ").toList ++ rest).head?, c.isDigit = false := by
    intro rest
    rw [String.toList_append, String.toList_append]
    rintro c ⟨⟩
    rfl
  have hend : ∀ c ∈ ("\n".toList ++ rest).head?, c.isDigit = false := by
    rintro c ⟨⟩
    rfl
  simp only [htext, Row.ofText?, Text.leadingNumber?_append h.start_lt (hblank _),
    Text.leadingNumber?_append h.count_lt (hkind _), Text.leadingNumber?_append h.offset_lt hend,
    Text.dropPrefix?_append, Option.bind_eq_bind, Option.bind_some]
  rfl

example : Row.ofText? "sda" "8 4 linear sda 100\n0".toList = some (⟨8, 4, 100⟩, ['0']) := by
  decide

/-- **What is printed of lines is read as these lines**, in their order.

**Proof sketch.** Induction on the lines, each of which is read in front of those behind it. -/
theorem rowsOfText?_flatMap {rows : List Row} (h : ∀ row ∈ rows, row.IsReadable)
    (device : String) :
    rowsOfText? device (rows.flatMap fun row => (row.text device).toList) = some rows := by
  induction rows with
  | nil =>
    rw [List.flatMap_nil, rowsOfText?]
    rfl
  | cons row rows ih =>
    have hrow := Row.ofText?_append (h row (List.mem_cons_self ..)) device
      (rows.flatMap fun row => (row.text device).toList)
    rw [List.flatMap_cons, rowsOfText?_of_ofText? hrow,
      ih fun other hother => h other (List.mem_cons_of_mem _ hother)]
    rfl

/-- **What is printed of a table is read as its lines.** -/
theorem rowsOfText?_text (table : LinearTable) :
    rowsOfText? table.device table.text.toList = some table.rows := by
  have htext : table.text.toList =
      table.rows.flatMap fun row => (row.text table.device).toList := by
    rw [text, String.toList_join, List.flatMap_map]
  rw [htext]
  exact rowsOfText?_flatMap (fun _ hrow => isReadable_of_mem_rows hrow) _

end LinearTable

end BootExtents
