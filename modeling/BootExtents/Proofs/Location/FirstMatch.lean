import BootExtents.Inquiry.Lemmas
import BootExtents.Location.Basic
import Mathlib

/-!
# The first list that counts

The ways to find the regions of an image are tried one after the other. What becomes of one of them
is either a list of the boot stage, which ends the search, or nothing, or a failure, which is kept
until a later one takes its place. So the search ends with the first list of the boot stage, and
without such a list with the last failure.

## Main definitions

* `BootExtents.LocationSource.outcome` — what a way ends with.
* `BootExtents.LocationSource.offer?` — the list of the boot stage that it gives.
* `BootExtents.LocationSource.failure?` — its failure, a foreign list being one.

## Main results

* `BootExtents.result_locateImageFrom_cons` — one way more.
* `BootExtents.result_locateImageFrom` — all ways.
* `BootExtents.result_locateImage_of_offer` — the first list of the boot stage is found.
* `BootExtents.exists_source_of_locateImage` — a list that is found comes from one of them.
-/

set_option relaxedAutoImplicit false
set_option autoImplicit false

namespace BootExtents

variable {I : Interface}

/-! ### One way -/

namespace LocationSource

section Outcome

variable (source : LocationSource I) (answer : (question : I.Question) → I.Answer question)
  (record : Record)

/-- What a way to find regions ends with. -/
def outcome : Except Error (Option RegionList) :=
  (source.find record).result (.willing answer)

/-- The list of the boot stage that a way gives, if it gives one. -/
def offer? : Option RegionList :=
  match source.outcome answer record with
  | .ok (some list) => if list.isGenuine then some list else none
  | .ok none => none
  | .error _ => none

/-- The failure of a way, if it fails. To give a list of somebody else is a failure. -/
def failure? : Option Error :=
  match source.outcome answer record with
  | .ok (some list) => if list.isGenuine then none else some (.corrupted .imageLocation)
  | .ok none => none
  | .error error => some error

end Outcome

variable {source : LocationSource I} {answer : (question : I.Question) → I.Answer question}
  {record : Record} {list : RegionList} {error : Error}

/-- A source offers a list exactly if it finds the list and the list is one of the boot stage. -/
lemma offer?_eq_some_iff : source.offer? answer record = some list ↔
    source.outcome answer record = .ok (some list) ∧ list.isGenuine = true := by
  rw [offer?]
  constructor
  · intro h
    split at h
    · split_ifs at h with hgenuine
      obtain rfl := Option.some.inj h
      exact ⟨‹_›, hgenuine⟩
    · cases h
    · cases h
  · rintro ⟨houtcome, hgenuine⟩
    rw [houtcome]
    exact if_pos hgenuine

/-- A way gives no list of the boot stage if it does not apply, fails, or gives a list of somebody
else. -/
lemma offer?_eq_none_iff : source.offer? answer record = none ↔
    source.outcome answer record = .ok none ∨
      (∃ error, source.outcome answer record = .error error) ∨
      ∃ list, source.outcome answer record = .ok (some list) ∧ list.isGenuine = false := by
  rw [offer?]
  rcases source.outcome answer record with error | _ | list
  · simp
  · simp
  · simp

/-- A source that finds nothing offers nothing. -/
lemma offer?_of_nothing (h : source.outcome answer record = .ok none) :
    source.offer? answer record = none :=
  offer?_eq_none_iff.2 (.inl h)

/-- A source that fails offers nothing. -/
lemma offer?_of_error (h : source.outcome answer record = .error error) :
    source.offer? answer record = none :=
  offer?_eq_none_iff.2 (.inr (.inl ⟨error, h⟩))

/-- A source that fails tells its error. -/
lemma failure?_of_error (h : source.outcome answer record = .error error) :
    source.failure? answer record = some error := by
  rw [failure?, h]

end LocationSource

/-! ### All ways -/

variable {sources others : List (LocationSource I)} {source : LocationSource I}
  {answer : (question : I.Question) → I.Answer question} {record : Record} {list : RegionList}

/-- **One way more.** Its list ends the search, if it is of the boot stage. If not, the others are
tried, and its failure is the one to remember. -/
theorem result_locateImageFrom_cons (source : LocationSource I)
    (others : List (LocationSource I)) (last : Option Error) :
    (locateImageFrom record last (source :: others)).result (.willing answer) =
      match source.offer? answer record with
      | some list => .ok list
      | none => (locateImageFrom record ((source.failure? answer record).or last) others).result
          (.willing answer) := by
  rw [locateImageFrom, Inquiry.bind_eq, Inquiry.result_attempt_bind,
    LocationSource.offer?, LocationSource.failure?, LocationSource.outcome]
  rcases (source.find record).result (.willing answer) with error | _ | list
  · rfl
  · rfl
  · dsimp only
    by_cases hgenuine : list.isGenuine = true
    · rw [if_pos hgenuine, if_pos hgenuine]
      rfl
    · rw [if_neg hgenuine, if_neg hgenuine, if_neg hgenuine]
      rfl

/-- **All ways.** The search ends with the first list of the boot stage. Without one, it ends with
the last failure, be it that of a way or the one remembered from before.

**Proof sketch.** Induction on the ways; `result_locateImageFrom_cons` is the step. -/
theorem result_locateImageFrom (record : Record) (sources : List (LocationSource I))
    (last : Option Error) :
    (locateImageFrom record last sources).result (.willing answer) =
      match sources.findSome? (·.offer? answer record) with
      | some list => .ok list
      | none => .error
          (((sources.filterMap (·.failure? answer record)).getLast?.or last).getD
            .locationNotFound) := by
  induction sources generalizing last with
  | nil => rfl
  | cons source others ih =>
    rw [result_locateImageFrom_cons, List.findSome?_cons]
    cases source.offer? answer record with
    | some list => rfl
    | none =>
      dsimp only
      rw [ih, List.filterMap_cons]
      cases others.findSome? (·.offer? answer record) with
      | some list => rfl
      | none =>
        cases source.failure? answer record with
        | none => rfl
        | some error =>
          dsimp only
          rw [List.getLast?_cons]
          cases (others.filterMap (·.failure? answer record)).getLast? <;> rfl

/-- Without a failure before the first way, only those of the ways count. -/
lemma result_locateImage (record : Record) (sources : List (LocationSource I)) :
    (locateImage sources record).result (.willing answer) =
      match sources.findSome? (·.offer? answer record) with
      | some list => .ok list
      | none => .error
          ((sources.filterMap (·.failure? answer record)).getLast?.getD .locationNotFound) := by
  rw [locateImage, result_locateImageFrom]
  simp only [Option.or_none]

/-- **The first list of the boot stage is found**, if none of the ways before it gives one. -/
theorem result_locateImage_of_offer (front back : List (LocationSource I))
    (hfront : ∀ earlier ∈ front, earlier.offer? answer record = none)
    (hoffer : source.offer? answer record = some list) :
    (locateImage (front ++ source :: back) record).result (.willing answer) = .ok list := by
  rw [result_locateImage, List.findSome?_append, List.findSome?_eq_none_iff.2 hfront,
    Option.none_or, List.findSome?_cons, hoffer]

/-- **A list that is found comes from one of the ways**, unchanged, and is of the boot stage. -/
theorem exists_source_of_locateImage
    (h : (locateImage sources record).result (.willing answer) = .ok list) :
    list.isGenuine = true ∧ ∃ source ∈ sources, source.outcome answer record = .ok (some list) := by
  rw [result_locateImage] at h
  cases hfound : sources.findSome? (·.offer? answer record) with
  | none => rw [hfound] at h; cases h
  | some found =>
    rw [hfound] at h
    obtain rfl := Except.ok.inj h
    obtain ⟨source, hsource, hoffer⟩ := List.exists_of_findSome?_eq_some hfound
    obtain ⟨houtcome, hgenuine⟩ := LocationSource.offer?_eq_some_iff.1 hoffer
    exact ⟨hgenuine, source, hsource, houtcome⟩

end BootExtents
