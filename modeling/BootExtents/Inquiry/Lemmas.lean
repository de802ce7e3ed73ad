import BootExtents.Inquiry.Basic

/-!
# Runs of composed inquiries

What a run of a composed inquiry ends with, warns of and asks, in terms of its parts.

## Main definitions

* `BootExtents.Inquiry.Respondent.willing` — a respondent who refuses no answer.

## Main results

* `BootExtents.Inquiry.result_bind`, `warnings_bind`, `asked_bind` — one inquiry after another.
* `BootExtents.Inquiry.result_mapM` — an inquiry for each item of a list.
* `BootExtents.Inquiry.result_filterM`, `asked_filterM`, `filterM_ask` — the items that an inquiry
  is for.
* `BootExtents.Inquiry.result_attempt`, `result_attempt_bind` — a failure that is a value.
* `BootExtents.Inquiry.result_mapError` — a failure with another name.
* `BootExtents.Inquiry.result_interpret` — questions answered by inquiries.
* `BootExtents.Inquiry.interpret_bind`, `interpret_iterate`, `interpret_filterM` — the same for
  composed inquiries.
* `BootExtents.Inquiry.then_eq_interpret` — an inquiry that is interpreted part by part.
-/

set_option relaxedAutoImplicit false
set_option autoImplicit false

namespace BootExtents.Inquiry

variable {I J : Interface} {ε ε' α β : Type}

/-! ### One after another -/

/-- The second inquiry decides the end, unless the first one fails. -/
theorem result_bind (answer : Respondent I ε) (inquiry : Inquiry I ε α)
    (next : α → Inquiry I ε β) :
    (inquiry.bind next).result answer =
      match inquiry.result answer with
      | .ok value => (next value).result answer
      | .error error => .error error := by
  induction inquiry with
  | done value => rfl
  | fail error => rfl
  | warn warning rest ih => simpa only [warn_bind, result] using ih
  | ask question rest ih =>
    simp only [ask_bind, result]
    cases answer question with
    | ok value => exact ih value
    | error error => rfl

/-- A value at the end is that of the second inquiry, after a value of the first one. -/
theorem result_bind_eq_ok {answer : Respondent I ε} {inquiry : Inquiry I ε α}
    {next : α → Inquiry I ε β} {value : β} :
    (inquiry.bind next).result answer = .ok value ↔
      ∃ first, inquiry.result answer = .ok first ∧ (next first).result answer = .ok value := by
  rw [result_bind]
  cases inquiry.result answer with
  | ok first => simp
  | error error => simp

/-- The warnings of the first inquiry come before those of the second. -/
theorem warnings_bind (answer : Respondent I ε) (inquiry : Inquiry I ε α)
    (next : α → Inquiry I ε β) :
    (inquiry.bind next).warnings answer =
      inquiry.warnings answer ++
        match inquiry.result answer with
        | .ok value => (next value).warnings answer
        | .error _ => [] := by
  induction inquiry with
  | done value => rfl
  | fail error => rfl
  | warn warning rest ih => simp only [warn_bind, warnings, result, ih, List.cons_append]
  | ask question rest ih =>
    simp only [ask_bind, warnings, result]
    cases answer question with
    | ok value => exact ih value
    | error error => rfl

/-- The questions of the first inquiry come before those of the second. -/
theorem asked_bind (answer : Respondent I ε) (inquiry : Inquiry I ε α)
    (next : α → Inquiry I ε β) :
    (inquiry.bind next).asked answer =
      inquiry.asked answer ++
        match inquiry.result answer with
        | .ok value => (next value).asked answer
        | .error _ => [] := by
  induction inquiry with
  | done value => rfl
  | fail error => rfl
  | warn warning rest ih => simpa only [warn_bind, asked, result] using ih
  | ask question rest ih =>
    simp only [ask_bind, asked, result, List.cons_append, List.cons.injEq, true_and]
    cases answer question with
    | ok value => exact ih value
    | error error => rfl

/-- Inquiries for the items of a list, one after the other, end with their values or the first
failure. -/
theorem result_mapM (answer : Respondent I ε) (inquiry : α → Inquiry I ε β) (items : List α) :
    (items.mapM inquiry).result answer = items.mapM fun item => (inquiry item).result answer := by
  induction items with
  | nil => rfl
  | cons item items ih =>
    rw [List.mapM_cons, List.mapM_cons, bind_eq, result_bind]
    cases (inquiry item).result answer with
    | error error => rfl
    | ok value =>
      dsimp only
      rw [bind_eq, result_bind, ih]
      cases items.mapM fun item => (inquiry item).result answer <;> rfl

section Filter

variable {answer : Respondent I ε} {test : α → Inquiry I ε Bool} {keep : α → Bool}
  {items : List α}

/-- A filter whose tests all succeed keeps the items that they keep, behind those found before. -/
private theorem result_filterAuxM
    (h : ∀ item ∈ items, (test item).result answer = .ok (keep item)) (found : List α) :
    (items.filterAuxM test found).result answer =
      .ok ((items.filter keep).reverse ++ found) := by
  induction items generalizing found with
  | nil => rfl
  | cons item items ih =>
    rw [List.filterAuxM, bind_eq, result_bind, h item (List.mem_cons_self ..)]
    dsimp only
    rw [ih fun other hother => h other (List.mem_cons_of_mem _ hother)]
    cases hkeep : keep item <;> simp [hkeep]

/-- Where an inquiry tells of every item whether to keep it, those items are kept. -/
theorem result_filterM (h : ∀ item ∈ items, (test item).result answer = .ok (keep item)) :
    (items.filterM test).result answer = .ok (items.filter keep) := by
  rw [List.filterM, bind_eq, result_bind, result_filterAuxM h]
  simp [pure_eq, result]

/-- Such a filter asks what the tests ask, item by item. -/
private theorem asked_filterAuxM
    (h : ∀ item ∈ items, (test item).result answer = .ok (keep item)) (found : List α) :
    (items.filterAuxM test found).asked answer =
      items.flatMap fun item => (test item).asked answer := by
  induction items generalizing found with
  | nil => rfl
  | cons item items ih =>
    rw [List.filterAuxM, bind_eq, asked_bind, h item (List.mem_cons_self ..), List.flatMap_cons]
    exact congrArg _ (ih (fun other hother => h other (List.mem_cons_of_mem _ hother)) _)

/-- Every item is asked about, in order. -/
theorem asked_filterM (h : ∀ item ∈ items, (test item).result answer = .ok (keep item)) :
    (items.filterM test).asked answer = items.flatMap fun item => (test item).asked answer := by
  rw [List.filterM, bind_eq, asked_bind, result_filterAuxM h, asked_filterAuxM h]
  simp [pure_eq, asked]

end Filter

/-! ### Single questions -/

/-- A single question has its answer as result. -/
@[simp] theorem result_query (answer : Respondent I ε) (question : I.Question) :
    (query question : Inquiry I ε _).result answer = answer question := by
  simp only [query, result]
  cases answer question <;> rfl

/-- A single question is all that it asks. -/
@[simp] theorem asked_query (answer : Respondent I ε) (question : I.Question) :
    (query question : Inquiry I ε _).asked answer = [question] := by
  simp only [query, asked]
  cases answer question <;> rfl

/-- A respondent who refuses no answer. -/
abbrev Respondent.willing (answer : (question : I.Question) → I.Answer question) : Respondent I ε :=
  fun question => .ok (answer question)

/-- What is asked of a willing respondent is answered, and the answer decides what follows. -/
theorem result_query_bind (answer : (question : I.Question) → I.Answer question)
    (question : I.Question) (next : I.Answer question → Inquiry I ε α) :
    ((query question).bind next).result (.willing answer) =
      (next (answer question)).result (.willing answer) := rfl

/-- Where one question about each item tells whether to keep it, the items that the answer fits are
kept, and the questions are asked in order. -/
theorem filterM_ask {answer : (question : I.Question) → I.Answer question} {about : α → I.Question}
    {fits : (item : α) → I.Answer (about item) → Bool} {test : α → Inquiry I ε Bool}
    (h : ∀ item, test item = .ask (about item) fun given => .done (fits item given))
    (items : List α) :
    (items.filterM test).result (.willing answer) =
        .ok (items.filter fun item => fits item (answer (about item))) ∧
      (items.filterM test).asked (.willing answer) = items.map about := by
  have hkeep : ∀ item ∈ items, (test item).result (.willing answer) =
      .ok (fits item (answer (about item))) := by
    intro item _
    rw [h item]
    rfl
  refine ⟨result_filterM hkeep, ?_⟩
  rw [asked_filterM hkeep, List.map_eq_flatMap]
  refine congrArg (items.flatMap ·) (funext fun item => ?_)
  rw [h item]
  rfl

/-! ### Failures -/

/-- Where every question gets its answer, an attempt ends with the end of the inquiry. -/
theorem result_attempt (answer : (question : I.Question) → I.Answer question)
    (inquiry : Inquiry I ε α) :
    (inquiry.attempt : Inquiry I ε' (Except ε α)).result (.willing answer) =
      .ok (inquiry.result (.willing answer)) := by
  induction inquiry with
  | done value => rfl
  | fail error => rfl
  | warn warning rest ih => exact ih
  | ask question rest ih => exact ih (answer question)

/-- What follows an attempt goes on with the end of the inquiry, be it a failure. -/
theorem result_attempt_bind (answer : (question : I.Question) → I.Answer question)
    (inquiry : Inquiry I ε α) (next : Except ε α → Inquiry I ε' β) :
    (inquiry.attempt.bind next).result (.willing answer) =
      (next (inquiry.result (.willing answer))).result (.willing answer) := by
  rw [result_bind, result_attempt]

/-- A failure that became a value and is raised again is the failure that it was. -/
theorem attempt_bind_ofExcept (inquiry : Inquiry I ε α) :
    (inquiry.attempt : Inquiry I ε (Except ε α)).bind .ofExcept = inquiry := by
  induction inquiry with
  | done value => rfl
  | fail error => rfl
  | warn warning rest ih => exact congrArg (warn warning) ih
  | ask question rest ih => exact congrArg (ask question) (funext ih)

/-- A renamed failure is the failure of the same run, renamed. -/
theorem result_mapError (rename : ε → ε') (answer : Respondent I ε) (inquiry : Inquiry I ε α) :
    (inquiry.mapError rename).result (fun question => (answer question).mapError rename) =
      (inquiry.result answer).mapError rename := by
  induction inquiry with
  | done value => rfl
  | fail error => rfl
  | warn warning rest ih => exact ih
  | ask question rest ih =>
    simp only [mapError, result]
    cases answer question with
    | ok value => exact ih value
    | error error => rfl

/-- A value in spite of the new names of failures is the value that there was. -/
theorem eq_ok_of_mapError_eq_ok {rename : ε → ε'} {outcome : Except ε α} {value : α}
    (h : outcome.mapError rename = .ok value) : outcome = .ok value := by
  cases outcome with
  | error error => cases h
  | ok found => exact congrArg _ (Except.ok.inj h)

/-! ### Questions answered by inquiries -/

/-- An interpreted inquiry ends as the inquiry does when each of its questions is answered by what
the inquiry in its place ends with. -/
theorem result_interpret (answer : Respondent J ε)
    (stead : (question : I.Question) → Inquiry J ε (I.Answer question))
    (inquiry : Inquiry I ε α) :
    (inquiry.interpret stead).result answer =
      inquiry.result fun question => (stead question).result answer := by
  induction inquiry with
  | done value => rfl
  | fail error => rfl
  | warn warning rest ih => exact ih
  | ask question rest ih =>
    simp only [interpret, result, result_bind]
    cases (stead question).result answer with
    | ok value => exact ih value
    | error error => rfl

section Interpret

variable (stead : (question : I.Question) → Inquiry J ε (I.Answer question))

/-- A single question becomes the inquiry in its place. -/
@[simp] theorem interpret_query (question : I.Question) :
    (query question : Inquiry I ε _).interpret stead = stead question :=
  bind_done _

/-- Inquiries are interpreted one after the other. -/
theorem interpret_bind (inquiry : Inquiry I ε α) (next : α → Inquiry I ε β) :
    (inquiry.bind next).interpret stead =
      (inquiry.interpret stead).bind fun value => (next value).interpret stead := by
  induction inquiry with
  | done value => rfl
  | fail error => rfl
  | warn warning rest ih => simp only [warn_bind, interpret, ih]
  | ask question rest ih =>
    simp only [ask_bind, interpret, bind_assoc]
    exact congrArg _ (funext ih)

/-- What is interpreted in both of its parts is interpreted as a whole. -/
theorem then_eq_interpret {first : Inquiry J ε α} {next : α → Inquiry J ε β}
    {inquiry : Inquiry I ε α} {last : α → Inquiry I ε β}
    (hfirst : first = inquiry.interpret stead)
    (hnext : ∀ value, next value = (last value).interpret stead) :
    (first >>= next) = (inquiry >>= last).interpret stead := by
  rw [bind_eq, bind_eq, interpret_bind, hfirst, funext hnext]

/-- A repeated step is interpreted step by step. -/
theorem interpret_iterate (step : α → Inquiry I ε α) (count : Nat) (state : α) :
    (iterate step count state).interpret stead =
      iterate (fun state => (step state).interpret stead) count state := by
  induction count generalizing state with
  | zero => rfl
  | succ count ih =>
    rw [iterate_succ, iterate_succ, interpret_bind]
    exact congrArg _ (funext ih)

/-- A list is filtered item by item. -/
theorem interpret_filterM (test : α → Inquiry I ε Bool) (items : List α) :
    (items.filterM test).interpret stead =
      items.filterM fun item => (test item).interpret stead := by
  have haux : ∀ found, (items.filterAuxM test found).interpret stead =
      items.filterAuxM (fun item => (test item).interpret stead) found := by
    induction items with
    | nil => intro found; rfl
    | cons item items ih =>
      intro found
      rw [List.filterAuxM, List.filterAuxM, bind_eq, bind_eq, interpret_bind]
      congr 1
      funext keep
      exact ih _
  rw [List.filterM, List.filterM, bind_eq, bind_eq, interpret_bind, haux]
  rfl

end Interpret

end BootExtents.Inquiry
