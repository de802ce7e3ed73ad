import BootExtents.Extent.Extract
import BootExtents.Inquiry.Lemmas
import Mathlib

/-!
# Inquiries that ask nothing

An inquiry that asks nothing ends the same way whoever would answer. If a chain tells its clusters and
their places without asking, its regions are found without asking.

## Main definitions

* `BootExtents.Inquiry.AsksNothing` — there is no question in an inquiry.

## Main results

* `BootExtents.Inquiry.AsksNothing.result_eq`, `asked_eq_nil` — what a run with no question shows.
* `BootExtents.asksNothing_extract` — the regions of a chain that asks nothing.
-/

set_option relaxedAutoImplicit false
set_option autoImplicit false

namespace BootExtents

namespace Inquiry

variable {I : Interface} {ε ε' α β : Type}

/-- There is no question in an inquiry. -/
def AsksNothing : Inquiry I ε α → Prop
  | done _ => True
  | fail _ => True
  | warn _ rest => rest.AsksNothing
  | ask _ _ => False

namespace AsksNothing

variable {inquiry : Inquiry I ε α}

/-- Two steps that ask nothing ask nothing together. -/
lemma bind {next : α → Inquiry I ε β} (h : inquiry.AsksNothing)
    (hnext : ∀ value, (next value).AsksNothing) : (inquiry.bind next).AsksNothing := by
  induction inquiry with
  | done value => exact hnext value
  | fail error => exact trivial
  | warn warning rest ih => exact ih h
  | ask question rest => exact h.elim

/-- Many steps of a kind that asks nothing ask nothing. -/
lemma iterate {step : α → Inquiry I ε α} (h : ∀ state, (step state).AsksNothing)
    (count : Nat) (state : α) : (Inquiry.iterate step count state).AsksNothing := by
  induction count generalizing state with
  | zero => exact trivial
  | succ count ih =>
    rw [iterate_succ]
    exact (h state).bind ih

/-- Without a question, it does not matter who answers. -/
theorem result_eq (h : inquiry.AsksNothing) (answer other : Respondent I ε) :
    inquiry.result answer = inquiry.result other := by
  induction inquiry with
  | done value => rfl
  | fail error => rfl
  | warn warning rest ih => exact ih h
  | ask question rest => exact h.elim

/-- Without a question, none is asked. -/
theorem asked_eq_nil (h : inquiry.AsksNothing) (answer : Respondent I ε) :
    inquiry.asked answer = [] := by
  induction inquiry with
  | done value => rfl
  | fail error => rfl
  | warn warning rest ih => exact ih h
  | ask question rest => exact h.elim

end AsksNothing

end Inquiry

variable {I : Interface} {chain : ClusterChain I}

/-- A step asks nothing if the chain does not. -/
lemma ChainWalk.asksNothing_advance (hnext : ∀ cluster, (chain.next cluster).AsksNothing)
    (hoffset : ∀ cluster, (chain.offset cluster).AsksNothing) (base : Nat) (walk : ChainWalk) :
    (walk.advance chain base).AsksNothing := by
  refine (hnext _).bind fun cluster => ?_
  split
  · refine (hoffset _).bind fun offset => ?_
    split <;> exact trivial
  · exact trivial

/-- **The regions of a chain that asks nothing** are found without asking. -/
theorem asksNothing_extract (hfirst : chain.first.AsksNothing)
    (hnext : ∀ cluster, (chain.next cluster).AsksNothing)
    (hoffset : ∀ cluster, (chain.offset cluster).AsksNothing) (length base : Nat) :
    (extract chain length base).AsksNothing := by
  unfold extract
  split
  · exact trivial
  · refine hfirst.bind fun cluster => ?_
    split
    · split
      · exact trivial
      · refine (hoffset _).bind fun offset => ?_
        exact (Inquiry.AsksNothing.iterate (ChainWalk.asksNothing_advance hnext hoffset base) _ _).bind
          fun walk => trivial
    · exact trivial

end BootExtents
