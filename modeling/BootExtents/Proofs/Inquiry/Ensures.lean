import BootExtents.Inquiry.Lemmas
import Mathlib

/-!
# What holds of every value at the end

An inquiry may ensure a property of the value it ends with, whatever it is answered. What follows it
needs to be right only for values with this property. So where an inquiry stands for an interpreted
one, it need do so only for such values.

## Main definitions

* `BootExtents.Inquiry.Ensures` — every value at the end has a property.

## Main results

* `BootExtents.Inquiry.Ensures.bind` — a property at the end of two inquiries.
* `BootExtents.Inquiry.Ensures.bind_congr` — what follows need only agree for such values.
* `BootExtents.Inquiry.Ensures.interpret` — an interpreted inquiry ends with the same values.
* `BootExtents.Inquiry.Ensures.then_eq_interpret` — an interpreted inquiry, in two parts.
* `BootExtents.Inquiry.interpret_mapM`, `interpret_mapError` — composed inquiries, interpreted.
-/

set_option relaxedAutoImplicit false
set_option autoImplicit false

namespace BootExtents.Inquiry

variable {I J : Interface} {ε ε' α β : Type}

/-- Whatever an inquiry is answered, a value that it ends with has a property. -/
def Ensures (property : α → Prop) : Inquiry I ε α → Prop
  | done value => property value
  | fail _ => True
  | warn _ rest => rest.Ensures property
  | ask _ rest => ∀ answer, (rest answer).Ensures property

/-- Every value is some value. -/
lemma ensures_true (inquiry : Inquiry I ε α) : inquiry.Ensures fun _ => True := by
  induction inquiry with
  | done value => exact trivial
  | fail error => exact trivial
  | warn warning rest ih => exact ih
  | ask question rest ih => exact ih

namespace Ensures

variable {property : α → Prop} {inquiry : Inquiry I ε α}

/-- What the second inquiry ensures need hold only behind values of the first one. -/
theorem bind {property' : β → Prop} {next : α → Inquiry I ε β} (h : inquiry.Ensures property)
    (hnext : ∀ value, property value → (next value).Ensures property') :
    (inquiry.bind next).Ensures property' := by
  induction inquiry with
  | done value => exact hnext value h
  | fail error => exact trivial
  | warn warning rest ih => exact ih h
  | ask question rest ih => exact fun answer => ih answer (h answer)

/-- Programs that agree for such values may follow for one another. -/
theorem bind_congr {next other : α → Inquiry I ε β} (h : inquiry.Ensures property)
    (hnext : ∀ value, property value → next value = other value) :
    inquiry.bind next = inquiry.bind other := by
  induction inquiry with
  | done value => exact hnext value h
  | fail error => rfl
  | warn warning rest ih => rw [warn_bind, warn_bind, ih h]
  | ask question rest ih =>
    rw [ask_bind, ask_bind]
    exact congrArg _ (funext fun answer => ih answer (h answer))

/-- What answers the questions changes nothing about the values at the end. -/
theorem interpret (h : inquiry.Ensures property)
    (stead : (question : I.Question) → Inquiry J ε (I.Answer question)) :
    (inquiry.interpret stead).Ensures property := by
  induction inquiry with
  | done value => exact h
  | fail error => exact trivial
  | warn warning rest ih => exact ih h
  | ask question rest ih =>
    exact (ensures_true (stead question)).bind fun answer _ => ih answer (h answer)

/-- What is interpreted in both of its parts, in the second one at least behind values with the
property, is interpreted as a whole. -/
theorem then_eq_interpret {stead : (question : I.Question) → Inquiry J ε (I.Answer question)}
    (h : (inquiry.interpret stead).Ensures property) {first : Inquiry J ε α}
    {next : α → Inquiry J ε β} {last : α → Inquiry I ε β}
    (hfirst : first = inquiry.interpret stead)
    (hnext : ∀ value, property value → next value = (last value).interpret stead) :
    (first >>= next) = (inquiry >>= last).interpret stead := by
  rw [bind_eq, bind_eq, interpret_bind, hfirst]
  exact h.bind_congr hnext

end Ensures

/-! ### Composed and interpreted inquiries -/

/-- What follows a value at hand gets this value. -/
lemma done_then (value : α) (next : α → Inquiry I ε β) :
    (done value : Inquiry I ε α) >>= next = next value :=
  rfl

/-- Inquiries about the items of a list are interpreted one by one. -/
theorem interpret_mapM (stead : (question : I.Question) → Inquiry J ε (I.Answer question))
    (step : α → Inquiry I ε β) (items : List α) :
    (items.mapM step).interpret stead = items.mapM fun item => (step item).interpret stead := by
  induction items with
  | nil => rfl
  | cons item items ih =>
    rw [List.mapM_cons, List.mapM_cons]
    refine (then_eq_interpret stead rfl fun value => ?_).symm
    exact then_eq_interpret stead ih.symm fun values => rfl

/-- The errors of two inquiries are renamed one by one. -/
lemma mapError_bind (rename : ε → ε') (inquiry : Inquiry I ε α) (next : α → Inquiry I ε β) :
    (inquiry.bind next).mapError rename =
      (inquiry.mapError rename).bind fun value => (next value).mapError rename := by
  induction inquiry with
  | done value => rfl
  | fail error => rfl
  | warn warning rest ih => exact congrArg (warn warning) ih
  | ask question rest ih => exact congrArg (ask question) (funext ih)

/-- Errors may be renamed before or after. -/
theorem interpret_mapError {rename : ε → ε'}
    {stead : (question : I.Question) → Inquiry J ε (I.Answer question)}
    {stead' : (question : I.Question) → Inquiry J ε' (I.Answer question)}
    (h : ∀ question, stead' question = (stead question).mapError rename)
    (inquiry : Inquiry I ε α) :
    (inquiry.mapError rename).interpret stead' = (inquiry.interpret stead).mapError rename := by
  induction inquiry with
  | done value => rfl
  | fail error => rfl
  | warn warning rest ih => exact congrArg (warn warning) ih
  | ask question rest ih =>
    rw [interpret, mapError_bind, ← h, ← funext ih]
    rfl

/-- Inquiries that agree about the items of a list agree about the list. -/
lemma mapM_congr {step other : α → Inquiry I ε β} {items : List α}
    (h : ∀ item ∈ items, step item = other item) : items.mapM step = items.mapM other := by
  induction items with
  | nil => rfl
  | cons item items ih =>
    rw [List.mapM_cons, List.mapM_cons, h item (List.mem_cons_self ..),
      ih fun later hlater => h later (List.mem_cons_of_mem _ hlater)]

end BootExtents.Inquiry
