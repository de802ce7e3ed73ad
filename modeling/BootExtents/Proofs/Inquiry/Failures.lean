import BootExtents.Inquiry.Lemmas
import Mathlib

/-!
# Runs with refused answers

If some answers are refused, a run goes on as before until it asks for the first of them, and ends
there. So a refusal is either not noticed at all, or it is what the run ends with. Whether an error
at the end is a refusal can be told from it alone, if the inquiry does not make up such errors
itself.

## Main definitions

* `BootExtents.Inquiry.Respondent.failing` — a respondent who refuses some answers.
* `BootExtents.Inquiry.OwnErrors` — the errors that an inquiry makes up itself.
* `BootExtents.Inquiry.ShowsFailures` — refusals end a run, and nothing else changes.

## Main results

* `BootExtents.Inquiry.result_failing`, `asked_failing` — the run with refusals, up to the first.
* `BootExtents.Inquiry.OwnErrors.exists_asked` — an error is made up, or was given for an answer.
* `BootExtents.Inquiry.OwnErrors.showsFailures` — refusals show.
-/

set_option relaxedAutoImplicit false
set_option autoImplicit false

namespace BootExtents.Inquiry

variable {I : Interface} {ε ε' α β : Type}

/-! ### Refusals -/

/-- A respondent who refuses some answers, with an error for each, and gives those of another one
else. -/
def Respondent.failing (answer : Respondent I ε) (failure : I.Question → Option ε) :
    Respondent I ε :=
  fun question =>
    match failure question with
    | some error => .error error
    | none => answer question

section Failing

variable {answer : Respondent I ε} {failure : I.Question → Option ε} {question : I.Question}

/-- Where no failure is put in, the answer is the old one. -/
lemma failing_of_none (h : failure question = none) :
    answer.failing failure question = answer question := by
  rw [Respondent.failing, h]

/-- Where a failure is put in, it is the answer. -/
lemma failing_of_some {error : ε} (h : failure question = some error) :
    answer.failing failure question = .error error := by
  rw [Respondent.failing, h]

/-- **The run with refusals** ends with the first refusal that the run without them would meet, or
as that run does.

**Proof sketch.** Induction on the inquiry. Up to the first refusal, both runs are given the same
answers and so ask the same. -/
theorem result_failing (answer : Respondent I ε) (failure : I.Question → Option ε)
    (inquiry : Inquiry I ε α) :
    inquiry.result (answer.failing failure) =
      match (inquiry.asked answer).findSome? failure with
      | some error => .error error
      | none => inquiry.result answer := by
  induction inquiry with
  | done value => rfl
  | fail error => rfl
  | warn warning rest ih => exact ih
  | ask question rest ih =>
    unfold result asked
    rw [List.findSome?_cons]
    cases hfailure : failure question with
    | some error => rw [failing_of_some hfailure]
    | none =>
      rw [failing_of_none hfailure]
      cases answer question with
      | ok value => exact ih value
      | error error => rfl

/-- It asks what the run without refusals asks, up to the first refusal. -/
theorem asked_failing (answer : Respondent I ε) (failure : I.Question → Option ε)
    (inquiry : Inquiry I ε α) :
    inquiry.asked (answer.failing failure) = (inquiry.asked answer).take
      ((inquiry.asked answer).findIdx (fun question => (failure question).isSome) + 1) := by
  induction inquiry with
  | done value => rfl
  | fail error => rfl
  | warn warning rest ih => exact ih
  | ask question rest ih =>
    unfold asked
    rw [List.findIdx_cons]
    cases hfailure : failure question with
    | some error =>
      rw [failing_of_some hfailure]
      simp
    | none =>
      rw [failing_of_none hfailure]
      cases answer question with
      | ok value => simpa using ih value
      | error error => simp

/-- A run whose first refusal is known asks up to there. -/
lemma asked_failing_of_split {inquiry : Inquiry I ε α} {front back : List I.Question}
    (h : inquiry.asked answer = front ++ question :: back)
    (hfront : ∀ earlier ∈ front, failure earlier = none) {error : ε}
    (hquestion : failure question = some error) :
    inquiry.asked (answer.failing failure) = front ++ [question] := by
  have hindex : (front ++ question :: back).findIdx (fun question => (failure question).isSome) =
      front.length := by
    have hlength : front.findIdx (fun question => (failure question).isSome) = front.length :=
      List.findIdx_eq_length.2 fun earlier hmem => by rw [hfront earlier hmem]; rfl
    rw [List.findIdx_append, hlength, if_neg (Nat.lt_irrefl _), List.findIdx_cons, hquestion]
    simp
  rw [asked_failing, h, hindex, List.take_append]
  simp

end Failing

/-! ### Errors of an inquiry's own -/

/-- The errors that an inquiry makes up itself, whatever it is answered, are of some kind. -/
def OwnErrors (kind : ε → Prop) : Inquiry I ε α → Prop
  | done _ => True
  | fail error => kind error
  | warn _ rest => rest.OwnErrors kind
  | ask _ rest => ∀ answer, (rest answer).OwnErrors kind

namespace OwnErrors

variable {kind : ε → Prop} {inquiry : Inquiry I ε α}

/-- Own errors of one kind are of any wider kind. -/
lemma mono {kind' : ε → Prop} (h : inquiry.OwnErrors kind)
    (hmono : ∀ error, kind error → kind' error) : inquiry.OwnErrors kind' := by
  induction inquiry with
  | done value => exact trivial
  | fail error => exact hmono error h
  | warn warning rest ih => exact ih h
  | ask question rest ih => exact fun answer => ih answer (h answer)

/-- Two steps make up the errors of each. -/
lemma bind {next : α → Inquiry I ε β} (h : inquiry.OwnErrors kind)
    (hnext : ∀ value, (next value).OwnErrors kind) : (inquiry.bind next).OwnErrors kind := by
  induction inquiry with
  | done value => exact hnext value
  | fail error => exact h
  | warn warning rest ih => exact ih h
  | ask question rest ih => exact fun answer => ih answer (h answer)

/-- A ready outcome makes up its error. -/
lemma ofExcept {outcome : Except ε α} (h : ∀ error, outcome = .error error → kind error) :
    (Inquiry.ofExcept outcome : Inquiry I ε α).OwnErrors kind := by
  cases outcome with
  | ok value => exact trivial
  | error error => exact h error rfl

/-- Renamed errors are of the kind that their new names have. -/
lemma mapError {kind : ε' → Prop} {rename : ε → ε'}
    (h : inquiry.OwnErrors fun error => kind (rename error)) :
    (inquiry.mapError rename).OwnErrors kind := by
  induction inquiry with
  | done value => exact trivial
  | fail error => exact h
  | warn warning rest ih => exact ih h
  | ask question rest ih => exact fun answer => ih answer (h answer)

/-- A step for each item makes up the errors of the step. -/
lemma mapM {step : α → Inquiry I ε β} (h : ∀ item, (step item).OwnErrors kind) (items : List α) :
    (items.mapM step).OwnErrors kind := by
  induction items with
  | nil => exact trivial
  | cons item items ih =>
    rw [List.mapM_cons]
    exact (h item).bind fun value => ih.bind fun values => trivial

/-- Many steps make up the errors of one. -/
lemma iterate {step : α → Inquiry I ε α} (h : ∀ state, (step state).OwnErrors kind)
    (count : Nat) (state : α) : (Inquiry.iterate step count state).OwnErrors kind := by
  induction count generalizing state with
  | zero => exact trivial
  | succ count ih =>
    rw [iterate_succ]
    exact (h state).bind ih

/-- **An error at the end** is one that the inquiry makes up, or was given in the place of an
answer. -/
theorem exists_asked (h : inquiry.OwnErrors kind) {answer : Respondent I ε} {error : ε}
    (hresult : inquiry.result answer = .error error) :
    kind error ∨ ∃ question ∈ inquiry.asked answer, answer question = .error error := by
  induction inquiry with
  | done value => cases hresult
  | fail other =>
    obtain rfl := Except.error.inj hresult
    exact .inl h
  | warn warning rest ih => exact ih h hresult
  | ask question rest ih =>
    unfold result at hresult
    unfold asked
    cases hanswer : answer question with
    | error other =>
      rw [hanswer] at hresult
      obtain rfl := Except.error.inj hresult
      exact .inr ⟨question, List.mem_cons_self .., hanswer⟩
    | ok value =>
      rw [hanswer] at hresult
      rcases ih value (h value) hresult with hkind | ⟨other, hother, hrefused⟩
      · exact .inl hkind
      · exact .inr ⟨other, List.mem_cons_of_mem _ hother, hrefused⟩

end OwnErrors

/-! ### Refusals show -/

/-- The refusals of some answers show at the end of a run, and nothing else changes there. -/
structure ShowsFailures (inquiry : Inquiry I ε α) (answer : Respondent I ε)
    (failure : I.Question → Option ε) : Prop where
  /-- The run ends as it does without refusals, or with a refusal. -/
  same_or_failure : inquiry.result (answer.failing failure) = inquiry.result answer ∨
    ∃ question ∈ inquiry.asked answer, ∃ error, failure question = some error ∧
      inquiry.result (answer.failing failure) = .error error
  /-- It ends with the first refusal that the run without refusals would meet. -/
  first_failure : ∀ front question back error, inquiry.asked answer = front ++ question :: back →
    (∀ earlier ∈ front, failure earlier = none) → failure question = some error →
      inquiry.result (answer.failing failure) = .error error
  /-- It breaks off at a refusal exactly if the run without refusals would meet one. -/
  ends_iff : (∃ question error, failure question = some error ∧
      (inquiry.asked (answer.failing failure)).getLast? = some question ∧
      inquiry.result (answer.failing failure) = .error error) ↔
    ∃ question ∈ inquiry.asked answer, (failure question).isSome = true
  /-- The same can be told from the error, if that of a refusal is never given otherwise. -/
  error_iff : (∀ question error, failure question = some error →
      ∀ other, answer other ≠ .error error) →
    ((∃ question error, failure question = some error ∧
        inquiry.result (answer.failing failure) = .error error) ↔
      ∃ question ∈ inquiry.asked answer, (failure question).isSome = true)

/-- **Refusals show**, if they are not of the kind of errors that an inquiry makes up itself.

**Proof sketch.** The run with refusals ends at the first of them, or is the run without
(`result_failing`, `asked_failing`). In the latter case, an error at its end is made up or was given
in the place of an answer (`OwnErrors.exists_asked`), so it is not that of a refusal. -/
theorem OwnErrors.showsFailures {kind : ε → Prop} {inquiry : Inquiry I ε α}
    {failure : I.Question → Option ε} (h : inquiry.OwnErrors kind)
    (hkind : ∀ question error, failure question = some error → ¬kind error)
    (answer : Respondent I ε) : inquiry.ShowsFailures answer failure := by
  have hfirst : ∀ front question back error, inquiry.asked answer = front ++ question :: back →
      (∀ earlier ∈ front, failure earlier = none) → failure question = some error →
        inquiry.result (answer.failing failure) = .error error := by
    intro front question back error hsplit hfront hquestion
    rw [result_failing,
      List.findSome?_eq_some_iff.2 ⟨front, question, back, hsplit, hquestion, hfront⟩]
  cases hfound : (inquiry.asked answer).findSome? failure with
  | none =>
    have hnone := List.findSome?_eq_none_iff.1 hfound
    have hmet : ¬∃ question ∈ inquiry.asked answer, (failure question).isSome = true := by
      rintro ⟨question, hmem, hsome⟩
      rw [hnone question hmem] at hsome
      cases hsome
    have hsame : inquiry.result (answer.failing failure) = inquiry.result answer := by
      rw [result_failing, hfound]
    refine ⟨.inl hsame, hfirst, iff_of_false ?_ hmet, fun hapart => iff_of_false ?_ hmet⟩
    · rintro ⟨question, error, hquestion, hlast, -⟩
      have hasked := List.mem_of_mem_take ((asked_failing answer failure inquiry) ▸
        List.mem_of_getLast? hlast)
      rw [hnone question hasked] at hquestion
      cases hquestion
    · rintro ⟨question, error, hquestion, herror⟩
      rcases h.exists_asked (hsame.symm.trans herror) with hown | ⟨other, -, hother⟩
      · exact hkind question error hquestion hown
      · exact hapart question error hquestion other hother
  | some error =>
    obtain ⟨front, question, back, hsplit, hquestion, hfront⟩ :=
      List.findSome?_eq_some_iff.1 hfound
    have hresult := hfirst front question back error hsplit hfront hquestion
    have hmem : question ∈ inquiry.asked answer := by simp [hsplit]
    have hmet : ∃ question ∈ inquiry.asked answer, (failure question).isSome = true :=
      ⟨question, hmem, by rw [hquestion]; rfl⟩
    have hlast : (inquiry.asked (answer.failing failure)).getLast? = some question := by
      rw [asked_failing_of_split hsplit hfront hquestion, List.getLast?_concat]
    exact ⟨.inr ⟨question, hmem, error, hquestion, hresult⟩, hfirst,
      iff_of_true ⟨question, error, hquestion, hlast, hresult⟩ hmet,
      fun _ => iff_of_true ⟨question, error, hquestion, hresult⟩ hmet⟩

end BootExtents.Inquiry
