import BootExtents.Warning

/-!
# Inquiries

Everything this library learns from outside, it learns by asking: for a sector of a volume, for a
file of the machine, for the successor of a cluster. An inquiry is a program that asks such
questions one after the other, may warn between them, and ends with a value or an error. What can
be asked is an interface; who answers is left open until the inquiry is run.

An answer may also be refused, which ends the inquiry with the error given in its place. Where an
inquiry shall live on after a failure, the failure is part of the answer.

## Main definitions

* `BootExtents.Interface` — questions, and the type of answer to each.
* `BootExtents.Inquiry` — the programs; they form a monad.
* `BootExtents.Inquiry.iterate` — a step repeated, each time from the state it ended with.
* `BootExtents.Inquiry.result`, `warnings`, `asked` — what a run with given answers ends with, what
  it warns of, and what it asks.
* `BootExtents.Inquiry.run` — all three at once.
* `BootExtents.Inquiry.runM` — a run in another monad, where answering has effects.
* `BootExtents.Inquiry.attempt` — an inquiry whose failure is a value.
* `BootExtents.Inquiry.interpret` — each question answered by an inquiry of another interface.
-/

set_option relaxedAutoImplicit false
set_option autoImplicit false

namespace BootExtents

/-- What can be asked, and what the answer to each question is. -/
structure Interface where
  /-- The questions. -/
  Question : Type
  /-- The type of the answer to a question. -/
  Answer : Question → Type

/-- A program that asks questions of the interface `I`, fails with an `ε` or ends with an `α`. -/
inductive Inquiry (I : Interface) (ε α : Type) where
  /-- The end, with a value. -/
  | done (value : α)
  /-- The end, with an error. -/
  | fail (error : ε)
  /-- A warning, and what follows it. -/
  | warn (warning : Warning) (rest : Inquiry I ε α)
  /-- A question, and what follows each answer. -/
  | ask (question : I.Question) (rest : I.Answer question → Inquiry I ε α)

/-- What a run shows: its end, its warnings and its questions, in order. -/
structure Transcript (I : Interface) (ε α : Type) where
  /-- The value or error at the end. -/
  result : Except ε α
  /-- The warnings, in order. -/
  warnings : List Warning
  /-- The questions asked, in order. -/
  asked : List I.Question

namespace Inquiry

variable {I J : Interface} {ε ε' α β : Type}

/-! ### Putting inquiries together -/

/-- One inquiry, then the one that its value chooses. -/
def bind (inquiry : Inquiry I ε α) (next : α → Inquiry I ε β) : Inquiry I ε β :=
  match inquiry with
  | done value => next value
  | fail error => fail error
  | warn warning rest => warn warning (rest.bind next)
  | ask question rest => ask question fun answer => (rest answer).bind next

/-- Inquiries are written in `do` notation: a value is done, and steps follow one another. -/
instance : Monad (Inquiry I ε) where
  pure := done
  bind := bind

/-- To return a value is to be done with it. -/
@[simp] theorem pure_eq (value : α) : (pure value : Inquiry I ε α) = done value := rfl

/-- Steps of a `do` block follow one another by `bind`. -/
@[simp] theorem bind_eq (inquiry : Inquiry I ε α) (next : α → Inquiry I ε β) :
    inquiry >>= next = inquiry.bind next := rfl

/-- What follows a value starts with it. -/
@[simp] theorem done_bind (value : α) (next : α → Inquiry I ε β) :
    (done value : Inquiry I ε α).bind next = next value := rfl

/-- Nothing follows a failure. -/
@[simp] theorem fail_bind (error : ε) (next : α → Inquiry I ε β) :
    (fail error : Inquiry I ε α).bind next = fail error := rfl

/-- A warning is told before what follows. -/
@[simp] theorem warn_bind (warning : Warning) (rest : Inquiry I ε α) (next : α → Inquiry I ε β) :
    (warn warning rest).bind next = warn warning (rest.bind next) := rfl

/-- A question is asked before what follows. -/
@[simp] theorem ask_bind (question : I.Question) (rest : I.Answer question → Inquiry I ε α)
    (next : α → Inquiry I ε β) :
    (ask question rest).bind next = ask question fun answer => (rest answer).bind next := rfl

/-- An inquiry that only hands on its value is the inquiry. -/
theorem bind_done (inquiry : Inquiry I ε α) : inquiry.bind done = inquiry := by
  induction inquiry with
  | done => rfl
  | fail => rfl
  | warn warning rest ih => rw [warn_bind, ih]
  | ask question rest ih => rw [ask_bind]; exact congrArg _ (funext ih)

/-- It does not matter how steps in a row are bracketed. -/
theorem bind_assoc {γ : Type} (inquiry : Inquiry I ε α) (next : α → Inquiry I ε β)
    (last : β → Inquiry I ε γ) :
    (inquiry.bind next).bind last = inquiry.bind fun value => (next value).bind last := by
  induction inquiry with
  | done => rfl
  | fail => rfl
  | warn warning rest ih => simp only [warn_bind, ih]
  | ask question rest ih => simp only [ask_bind]; exact congrArg _ (funext ih)

/-- The laws of a monad, by `bind_done` and `bind_assoc`. -/
instance : LawfulMonad (Inquiry I ε) :=
  LawfulMonad.mk' (Inquiry I ε)
    (fun inquiry => bind_done inquiry)
    (fun _ _ => rfl)
    (fun inquiry next last => bind_assoc inquiry next last)

/-- A single question. -/
def query (question : I.Question) : Inquiry I ε (I.Answer question) :=
  ask question done

/-- A single warning. -/
def warning (text : Warning) : Inquiry I ε Unit :=
  warn text (done ())

/-- A result that needs no question. -/
def ofExcept : Except ε α → Inquiry I ε α
  | .ok value => done value
  | .error error => fail error

/-- The same inquiry, its failure being a value. -/
def attempt : Inquiry I ε α → Inquiry I ε' (Except ε α)
  | done value => done (.ok value)
  | fail error => done (.error error)
  | warn warning rest => warn warning rest.attempt
  | ask question rest => ask question fun answer => (rest answer).attempt

/-- The same inquiry, its failure renamed. -/
def mapError (rename : ε → ε') : Inquiry I ε α → Inquiry I ε' α
  | done value => done value
  | fail error => fail (rename error)
  | warn warning rest => warn warning (rest.mapError rename)
  | ask question rest => ask question fun answer => (rest answer).mapError rename

/-- A step repeated `count` times, each time from the state that it ended with before. A step that
needs no answer is followed by the next one at once. -/
def iterate (step : α → Inquiry I ε α) : (count : Nat) → α → Inquiry I ε α
  | 0, state => done state
  | count + 1, state =>
    match step state with
    | done state => iterate step count state
    | other => other.bind (iterate step count)

/-- No steps leave the state. -/
@[simp] theorem iterate_zero (step : α → Inquiry I ε α) (state : α) :
    iterate step 0 state = done state := rfl

/-- Many steps are one step and the others. -/
theorem iterate_succ (step : α → Inquiry I ε α) (count : Nat) (state : α) :
    iterate step (count + 1) state = (step state).bind (iterate step count) := by
  rw [iterate]
  cases step state <;> rfl

/-- The inquiry with each question answered by an inquiry of another interface. -/
def interpret (answer : (question : I.Question) → Inquiry J ε (I.Answer question)) :
    Inquiry I ε α → Inquiry J ε α
  | done value => done value
  | fail error => fail error
  | warn warning rest => warn warning (rest.interpret answer)
  | ask question rest => (answer question).bind fun value => (rest value).interpret answer

/-! ### Runs -/

/-- Who answers: each question gets its answer, or an error that ends the inquiry. -/
abbrev Respondent (I : Interface) (ε : Type) :=
  (question : I.Question) → Except ε (I.Answer question)

/-- What a run ends with. -/
def result (answer : Respondent I ε) : Inquiry I ε α → Except ε α
  | done value => .ok value
  | fail error => .error error
  | warn _ rest => rest.result answer
  | ask question rest =>
    match answer question with
    | .ok value => (rest value).result answer
    | .error error => .error error

/-- What a run warns of, in order. -/
def warnings (answer : Respondent I ε) : Inquiry I ε α → List Warning
  | done _ => []
  | fail _ => []
  | warn warning rest => warning :: rest.warnings answer
  | ask question rest =>
    match answer question with
    | .ok value => (rest value).warnings answer
    | .error _ => []

/-- What a run asks, in order, with the question whose answer was refused as the last. -/
def asked (answer : Respondent I ε) : Inquiry I ε α → List I.Question
  | done _ => []
  | fail _ => []
  | warn _ rest => rest.asked answer
  | ask question rest =>
    question :: match answer question with
      | .ok value => (rest value).asked answer
      | .error _ => []

/-- A run whose earlier warnings and questions are given, newest first. -/
def runFrom (answer : Respondent I ε) (told : List Warning) (put : List I.Question) :
    Inquiry I ε α → Transcript I ε α
  | done value => ⟨.ok value, told.reverse, put.reverse⟩
  | fail error => ⟨.error error, told.reverse, put.reverse⟩
  | warn warning rest => runFrom answer (warning :: told) put rest
  | ask question rest =>
    match answer question with
    | .ok value => runFrom answer told (question :: put) (rest value)
    | .error error => ⟨.error error, told.reverse, (question :: put).reverse⟩

/-- A run: its end, its warnings and its questions. -/
def run (answer : Respondent I ε) (inquiry : Inquiry I ε α) : Transcript I ε α :=
  runFrom answer [] [] inquiry

/-- A run in another monad, which answers and takes note of warnings there. -/
def runM {m : Type → Type} [Monad m] (answer : (question : I.Question) → m (I.Answer question))
    (tell : Warning → m Unit) : Inquiry I ε α → m (Except ε α)
  | done value => pure (.ok value)
  | fail error => pure (.error error)
  | warn warning rest => do
    tell warning
    rest.runM answer tell
  | ask question rest => do
    let value ← answer question
    (rest value).runM answer tell

/-- A run that has told warnings and put questions before has these in front of its own. -/
theorem runFrom_eq (answer : Respondent I ε) (told : List Warning) (put : List I.Question)
    (inquiry : Inquiry I ε α) :
    runFrom answer told put inquiry =
      ⟨inquiry.result answer, told.reverse ++ inquiry.warnings answer,
        put.reverse ++ inquiry.asked answer⟩ := by
  induction inquiry generalizing told put with
  | done value => simp [runFrom, result, warnings, asked]
  | fail error => simp [runFrom, result, warnings, asked]
  | warn warning rest ih => simp [runFrom, result, warnings, asked, ih]
  | ask question rest ih =>
    simp only [runFrom, result, warnings, asked]
    cases answer question with
    | ok value => simp [ih]
    | error error => simp

/-- A run shows the inquiry's end, warnings and questions. -/
theorem run_eq (answer : Respondent I ε) (inquiry : Inquiry I ε α) :
    inquiry.run answer =
      ⟨inquiry.result answer, inquiry.warnings answer, inquiry.asked answer⟩ := by
  simp [run, runFrom_eq]

end Inquiry

end BootExtents
