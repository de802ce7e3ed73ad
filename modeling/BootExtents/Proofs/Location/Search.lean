import BootExtents.Proofs.Location.FirstMatch
import BootExtents.Sector.Basic
import Mathlib

/-!
# What a search tries, and what it warns of

A search tries the ways to find the regions of an image in order, none of them after the first list
of the boot stage. To see which ways it tries, they are put behind an interface of their own: the
search is the same inquiry with the ways called there, and each call answered by what the way ends
with. What the search warns of by itself are the failures of the ways that it tries, one by one.

## Main definitions

* `BootExtents.SourceCalls` — the interface of calls to ways to find regions.
* `BootExtents.LocationSource.remote`, `call` — a way behind the interface, and its answer.
* `BootExtents.LocationSource.complaint?` — what a search warns of when it tries a way.
* `BootExtents.searchCalls`, `searchWarnings` — what a search calls, and what it warns of.

## Main results

* `BootExtents.locateImage_eq_interpret` — the calls are all that the ways are used for.
* `BootExtents.exists_locateImageFrom_append` — ways without a list of the boot stage, in front of
  others.
* `BootExtents.first_offer_or_last_failure` — the end of a search, its calls and its warnings.
-/

set_option relaxedAutoImplicit false
set_option autoImplicit false

namespace BootExtents

variable {I : Interface}

namespace Inquiry

variable {ε ε' α : Type}

/-- An attempt asks what the inquiry asks. -/
lemma asked_attempt (answer : (question : I.Question) → I.Answer question)
    (inquiry : Inquiry I ε α) :
    (inquiry.attempt : Inquiry I ε' (Except ε α)).asked (.willing answer) =
      inquiry.asked (.willing answer) := by
  induction inquiry with
  | done value => rfl
  | fail error => rfl
  | warn warning rest ih => exact ih
  | ask question rest ih => exact congrArg (question :: ·) (ih (answer question))

/-- An attempt warns of what the inquiry warns of. -/
lemma warnings_attempt (answer : (question : I.Question) → I.Answer question)
    (inquiry : Inquiry I ε α) :
    (inquiry.attempt : Inquiry I ε' (Except ε α)).warnings (.willing answer) =
      inquiry.warnings (.willing answer) := by
  induction inquiry with
  | done value => rfl
  | fail error => rfl
  | warn warning rest ih => exact congrArg (warning :: ·) ih
  | ask question rest ih => exact ih (answer question)

/-- To attempt what has ended is to know the end. -/
lemma attempt_ofExcept (outcome : Except ε α) :
    (ofExcept outcome : Inquiry I ε α).attempt = (done outcome : Inquiry I ε' _) := by
  cases outcome <;> rfl

/-- A ready outcome is the result, whatever is answered. -/
@[simp] lemma result_ofExcept (answer : Respondent I ε) (outcome : Except ε α) :
    (ofExcept outcome : Inquiry I ε α).result answer = outcome := by
  cases outcome <;> rfl

/-- A ready outcome asks for nothing. -/
@[simp] lemma asked_ofExcept (answer : Respondent I ε) (outcome : Except ε α) :
    (ofExcept outcome : Inquiry I ε α).asked answer = [] := by
  cases outcome <;> rfl

/-- A ready outcome warns of nothing. -/
@[simp] lemma warnings_ofExcept (answer : Respondent I ε) (outcome : Except ε α) :
    (ofExcept outcome : Inquiry I ε α).warnings answer = [] := by
  cases outcome <;> rfl

end Inquiry

/-! ### One way -/

namespace LocationSource

section Complaint

variable (source : LocationSource I) (answer : (question : I.Question) → I.Answer question)
  (record : Record)

/-- What a search warns of when it tries a way: a failure, or a list of somebody else. -/
def complaint? : Option Warning :=
  match source.outcome answer record with
  | .ok (some list) => if list.isGenuine then none else some (.foreignLocation source.name)
  | .ok none => none
  | .error error => some (.locationSource source.name error)

/-- All warnings while a way is tried: those of the way, and that of the search. -/
def allWarnings : List Warning :=
  (source.find record).warnings (.willing answer) ++ (source.complaint? answer record).toList

/-- The search warns once of each failure, and of nothing else. -/
lemma isSome_complaint? :
    (source.complaint? answer record).isSome = (source.failure? answer record).isSome := by
  rw [complaint?, failure?]
  rcases source.outcome answer record with error | _ | list
  · rfl
  · rfl
  · dsimp only
    split <;> rfl

end Complaint

/-- The search does not warn of a list of the boot stage. -/
lemma complaint?_of_offer {source : LocationSource I}
    {answer : (question : I.Question) → I.Answer question} {record : Record} {list : RegionList}
    (h : source.offer? answer record = some list) : source.complaint? answer record = none := by
  obtain ⟨houtcome, hgenuine⟩ := offer?_eq_some_iff.1 h
  rw [complaint?, houtcome]
  exact if_pos hgenuine

end LocationSource

/-! ### Ways in front of others -/

section Append

variable {answer : (question : I.Question) → I.Answer question} {record : Record}

/-- What is asked when a way is tried comes first, and if it gives no list of the boot stage, what
is asked when the others are tried comes next. -/
lemma asked_locateImageFrom_cons (source : LocationSource I) (others : List (LocationSource I))
    (last : Option Error) :
    (locateImageFrom record last (source :: others)).asked (.willing answer) =
      (source.find record).asked (.willing answer) ++
        match source.offer? answer record with
        | some _ => []
        | none => (locateImageFrom record ((source.failure? answer record).or last) others).asked
            (.willing answer) := by
  rw [locateImageFrom, Inquiry.bind_eq, Inquiry.asked_bind, Inquiry.asked_attempt,
    Inquiry.result_attempt, LocationSource.offer?, LocationSource.failure?, LocationSource.outcome]
  rcases (source.find record).result (.willing answer) with error | _ | list
  · rfl
  · rfl
  · dsimp only
    by_cases hgenuine : list.isGenuine = true
    · rw [if_pos hgenuine, if_pos hgenuine]
      rfl
    · rw [if_neg hgenuine, if_neg hgenuine, if_neg hgenuine]
      rfl

/-- Warnings come in the same order, that of the search about a way behind those of the way. -/
lemma warnings_locateImageFrom_cons (source : LocationSource I) (others : List (LocationSource I))
    (last : Option Error) :
    (locateImageFrom record last (source :: others)).warnings (.willing answer) =
      source.allWarnings answer record ++
        match source.offer? answer record with
        | some _ => []
        | none => (locateImageFrom record ((source.failure? answer record).or last) others).warnings
            (.willing answer) := by
  rw [locateImageFrom, Inquiry.bind_eq, Inquiry.warnings_bind, Inquiry.warnings_attempt,
    Inquiry.result_attempt, LocationSource.allWarnings, LocationSource.complaint?,
    LocationSource.offer?, LocationSource.failure?, LocationSource.outcome, List.append_assoc]
  congr 1
  rcases (source.find record).result (.willing answer) with error | _ | list
  · rfl
  · rfl
  · dsimp only
    by_cases hgenuine : list.isGenuine = true
    · rw [if_pos hgenuine, if_pos hgenuine, if_pos hgenuine]
      rfl
    · rw [if_neg hgenuine, if_neg hgenuine, if_neg hgenuine, if_neg hgenuine]
      rfl

/-- **Ways in front of others** that give no list of the boot stage are all tried, and then the
others, with some other failure to remember.

**Proof sketch.** Induction on the ways in front; one of them is `asked_locateImageFrom_cons` and
`warnings_locateImageFrom_cons`. -/
theorem exists_locateImageFrom_append {front : List (LocationSource I)}
    (hfront : ∀ earlier ∈ front, earlier.offer? answer record = none)
    (others : List (LocationSource I)) (last : Option Error) :
    ∃ last', (locateImageFrom record last (front ++ others)).asked (.willing answer) =
        front.flatMap (fun source => (source.find record).asked (.willing answer)) ++
          (locateImageFrom record last' others).asked (.willing answer) ∧
      (locateImageFrom record last (front ++ others)).warnings (.willing answer) =
        front.flatMap (·.allWarnings answer record) ++
          (locateImageFrom record last' others).warnings (.willing answer) := by
  induction front generalizing last with
  | nil => exact ⟨last, rfl, rfl⟩
  | cons source front ih =>
    obtain ⟨hnone, hrest⟩ := List.forall_mem_cons.1 hfront
    obtain ⟨last', hasked, hwarnings⟩ := ih hrest ((source.failure? answer record).or last)
    refine ⟨last', ?_, ?_⟩
    · rw [List.cons_append, asked_locateImageFrom_cons, hnone, List.flatMap_cons,
        List.append_assoc, ← hasked]
    · rw [List.cons_append, warnings_locateImageFrom_cons, hnone, List.flatMap_cons,
        List.append_assoc, ← hwarnings]

variable {sources front : List (LocationSource I)} {source : LocationSource I}
  {list : RegionList}

/-- A search that finds a list tries the way that gives it and those before it. -/
lemma shown_locateImage_of_offer (hfront : ∀ earlier ∈ front, earlier.offer? answer record = none)
    (hoffer : source.offer? answer record = some list) (back : List (LocationSource I)) :
    (locateImage (front ++ source :: back) record).asked (.willing answer) =
        (front ++ [source]).flatMap (fun tried => (tried.find record).asked (.willing answer)) ∧
      (locateImage (front ++ source :: back) record).warnings (.willing answer) =
        (front ++ [source]).flatMap (·.allWarnings answer record) := by
  obtain ⟨last', hasked, hwarnings⟩ := exists_locateImageFrom_append hfront (source :: back) none
  rw [asked_locateImageFrom_cons, hoffer] at hasked
  rw [warnings_locateImageFrom_cons, hoffer] at hwarnings
  rw [locateImage, hasked, hwarnings, List.flatMap_append, List.flatMap_append]
  simp

/-- A search that finds no list tries all ways. -/
lemma shown_locateImage_of_none (h : ∀ source ∈ sources, source.offer? answer record = none) :
    (locateImage sources record).asked (.willing answer) =
        sources.flatMap (fun tried => (tried.find record).asked (.willing answer)) ∧
      (locateImage sources record).warnings (.willing answer) =
        sources.flatMap (·.allWarnings answer record) := by
  obtain ⟨last', hasked, hwarnings⟩ := exists_locateImageFrom_append h [] none
  rw [List.append_nil] at hasked hwarnings
  rw [locateImage, hasked, hwarnings]
  exact ⟨List.append_nil _, List.append_nil _⟩

end Append

/-! ### Calls to ways -/

/-- Calls to ways to find regions; the answer is what the way ends with. -/
abbrev SourceCalls (I : Interface) : Interface where
  Question := LocationSource I
  Answer _ := Except Error (Option RegionList)

namespace LocationSource

/-- A way of which only the name is known at hand. -/
def remote (source : LocationSource I) : LocationSource (SourceCalls I) where
  name := source.name
  find _ := .ask (I := SourceCalls I) source .ofExcept

/-- How a call to a way is answered. -/
def call (record : Record) (source : LocationSource I) :
    Inquiry I Error (Except Error (Option RegionList)) :=
  (source.find record).attempt

/-- To attempt a call is to be told what the way ends with. -/
lemma attempt_remote (source : LocationSource I) (record : Record) :
    ((source.remote.find record).attempt : Inquiry (SourceCalls I) Error _) =
      Inquiry.query (I := SourceCalls I) source :=
  congrArg (Inquiry.ask (I := SourceCalls I) source) (funext Inquiry.attempt_ofExcept)

section Remote

variable (source : LocationSource I) (answer : (question : I.Question) → I.Answer question)
  (record : Record)

/-- What a call is answered when the questions of the ways are. -/
abbrev told (source : LocationSource I) : Except Error (Option RegionList) :=
  source.outcome answer record

/-- A way behind the interface ends as the way does. -/
lemma outcome_remote :
    source.remote.outcome (I := SourceCalls I) (told answer record) record =
      source.outcome answer record :=
  Inquiry.result_ofExcept _ (told answer record source)

/-- A source that is asked from afar offers what it offers. -/
lemma offer?_remote : source.remote.offer? (I := SourceCalls I) (told answer record) record =
    source.offer? answer record := by
  rw [offer?, offer?, outcome_remote]

/-- A way behind the interface is called once. -/
lemma asked_remote : (source.remote.find record).asked
    (.willing (told answer record) : Inquiry.Respondent (SourceCalls I) Error) = [source] :=
  congrArg (source :: ·) (Inquiry.asked_ofExcept _ (told answer record source))

/-- All warnings about a way behind the interface are those of the search. -/
lemma allWarnings_remote :
    source.remote.allWarnings (I := SourceCalls I) (told answer record) record =
      (source.complaint? answer record).toList := by
  have hown : (source.remote.find record).warnings
      (.willing (told answer record) : Inquiry.Respondent (SourceCalls I) Error) = [] :=
    Inquiry.warnings_ofExcept _ (told answer record source)
  rw [allWarnings, hown, complaint?, complaint?, outcome_remote]
  rfl

end Remote

end LocationSource

/-- **A search is its calls, answered by the ways.** -/
theorem locateImage_eq_interpret (sources : List (LocationSource I)) (record : Record) :
    locateImage sources record =
      (locateImage (sources.map (·.remote)) record).interpret (LocationSource.call record) := by
  have hfrom : ∀ last, locateImageFrom record last sources =
      (locateImageFrom record last (sources.map (·.remote))).interpret
        (LocationSource.call record) := by
    induction sources with
    | nil => intro last; rfl
    | cons source others ih =>
      intro last
      rw [List.map_cons, locateImageFrom, locateImageFrom, Inquiry.bind_eq, Inquiry.bind_eq,
        LocationSource.attempt_remote, Inquiry.interpret_bind, Inquiry.interpret_query]
      refine congrArg _ (funext fun outcome => ?_)
      rcases outcome with error | _ | list
      · exact congrArg _ (ih _)
      · exact ih _
      · dsimp only
        split
        · rfl
        · exact congrArg _ (ih _)
  exact hfrom none

section Calls

variable (sources : List (LocationSource I)) (answer : (question : I.Question) → I.Answer question)
  (record : Record)

/-- The ways that a search calls, in order. -/
def searchCalls : List (LocationSource I) :=
  (locateImage (sources.map (·.remote)) record).asked
    (.willing (LocationSource.told answer record) : Inquiry.Respondent (SourceCalls I) Error)

/-- What a search warns of by itself, in order. -/
def searchWarnings : List Warning :=
  (locateImage (sources.map (·.remote)) record).warnings
    (.willing (LocationSource.told answer record) : Inquiry.Respondent (SourceCalls I) Error)

variable {sources answer record} {front : List (LocationSource I)}
  {source : LocationSource I} {list : RegionList}

/-- Sources that offer nothing offer nothing when asked from afar. -/
private lemma offer?_of_mem_map_remote
    (h : ∀ source ∈ sources, source.offer? answer record = none) :
    ∀ source ∈ sources.map (·.remote),
      source.offer? (I := SourceCalls I) (LocationSource.told answer record) record = none := by
  intro source hsource
  obtain ⟨other, hother, rfl⟩ := List.mem_map.1 hsource
  rw [LocationSource.offer?_remote, h other hother]

/-- Ways behind the interface that are tried are called, and warned of. -/
lemma flatMap_remote (answer : (question : I.Question) → I.Answer question) (record : Record)
    (tried : List (LocationSource I)) :
    ((tried.map (·.remote)).flatMap fun source => (source.find record).asked
        (.willing (LocationSource.told answer record) :
          Inquiry.Respondent (SourceCalls I) Error)) = tried ∧
      (tried.map (·.remote)).flatMap
          (·.allWarnings (I := SourceCalls I) (LocationSource.told answer record) record) =
        tried.filterMap (·.complaint? answer record) := by
  rw [List.flatMap_map, List.flatMap_map, List.filterMap_eq_flatMap_toList]
  simp only [LocationSource.asked_remote, LocationSource.allWarnings_remote,
    List.flatMap_singleton', and_self]

/-- A search that finds a list calls no way behind the one that gives it. -/
lemma calls_of_offer (hfront : ∀ earlier ∈ front, earlier.offer? answer record = none)
    (hoffer : source.offer? answer record = some list) (back : List (LocationSource I)) :
    searchCalls (front ++ source :: back) answer record = front ++ [source] ∧
      searchWarnings (front ++ source :: back) answer record =
        front.filterMap (·.complaint? answer record) := by
  have hshown := shown_locateImage_of_offer (offer?_of_mem_map_remote hfront)
    ((source.offer?_remote answer record).trans hoffer) (back.map (·.remote))
  have htried : front.map (·.remote) ++ [source.remote] = (front ++ [source]).map (·.remote) := by
    rw [List.map_append, List.map_singleton]
  obtain ⟨hasked, hwarnings⟩ := flatMap_remote answer record (front ++ [source])
  rw [htried, hasked, hwarnings, List.filterMap_append] at hshown
  rw [searchCalls, searchWarnings, List.map_append, List.map_cons]
  refine ⟨hshown.1, hshown.2.trans ?_⟩
  simp [LocationSource.complaint?_of_offer hoffer]

/-- A search that finds no list calls every way. -/
lemma calls_of_none (h : ∀ source ∈ sources, source.offer? answer record = none) :
    searchCalls sources answer record = sources ∧
      searchWarnings sources answer record = sources.filterMap (·.complaint? answer record) := by
  have hshown := shown_locateImage_of_none (offer?_of_mem_map_remote h)
  obtain ⟨hasked, hwarnings⟩ := flatMap_remote answer record sources
  exact ⟨hshown.1.trans hasked, hshown.2.trans hwarnings⟩

end Calls

/-! ### The end of a search -/

section End

variable {sources : List (LocationSource I)} {answer : (question : I.Question) → I.Answer question}
  {record : Record} {error : Error}

/-- The last failure is that of a way behind which no other one fails. -/
lemma getLast?_failures_eq_some_iff :
    (sources.filterMap (·.failure? answer record)).getLast? = some error ↔
      ∃ front source back, sources = front ++ source :: back ∧
        source.failure? answer record = some error ∧
        ∀ later ∈ back, later.failure? answer record = none := by
  rw [List.getLast?_filterMap, List.findSome?_eq_some_iff]
  constructor
  · rintro ⟨back, source, front, hsplit, hfailure, hlater⟩
    rw [List.reverse_eq_iff, List.reverse_append, List.reverse_cons, List.append_assoc] at hsplit
    exact ⟨front.reverse, source, back.reverse, hsplit, hfailure,
      fun later hmem => hlater later (List.mem_reverse.1 hmem)⟩
  · rintro ⟨front, source, back, rfl, hfailure, hlater⟩
    exact ⟨back.reverse, source, front.reverse, by simp, hfailure,
      fun later hmem => hlater later (List.mem_reverse.1 hmem)⟩

/-- Without a list of the boot stage, the search ends with the last failure, or with one of its own
if there is none. -/
lemma result_locateImage_of_none (h : ∀ source ∈ sources, source.offer? answer record = none) :
    (locateImage sources record).result (.willing answer) = .error error ↔
      (∃ front source back, sources = front ++ source :: back ∧
        source.failure? answer record = some error ∧
        ∀ later ∈ back, later.failure? answer record = none) ∨
      error = .locationNotFound ∧ ∀ source ∈ sources, source.failure? answer record = none := by
  rw [result_locateImage, List.findSome?_eq_none_iff.2 h, ← getLast?_failures_eq_some_iff,
    ← List.filterMap_eq_nil_iff, ← List.getLast?_eq_none_iff]
  dsimp only
  rw [Except.error.injEq]
  cases (sources.filterMap (·.failure? answer record)).getLast? with
  | none => simp [eq_comm]
  | some last => simp

end End

/-- **The first list of the boot stage, or the last failure.** A search is made of calls to the
ways, each answered by what the way ends with.

If a way gives a list of the boot stage and no way before it does, the search ends with this list.
The ways before it and the way itself are called, each once and in order, and no way behind it; the
search warns of the failures before it, one by one. If no way gives such a list, all ways are
called, each once and in order, and the search warns of all failures. It then ends with the failure
of the last way that fails, a foreign list being one, and says that it found no location if no way
fails; it says so only then, unless a way fails with these words. It never ends with a foreign list.

**Proof sketch.** The ways in front of others are tried before them
(`exists_locateImageFrom_append`), so all that is shown is that of the ways up to the first list, or
of all ways. The calls are what the ways show behind their interface (`flatMap_remote`). The end is
the first list or the last failure (`result_locateImage`). -/
theorem first_offer_or_last_failure (sources : List (LocationSource I)) (record : Record)
    (answer : (question : I.Question) → I.Answer question) :
    locateImage sources record =
        (locateImage (sources.map (·.remote)) record).interpret (LocationSource.call record) ∧
      (∀ source : LocationSource I, (source.complaint? answer record).isSome =
        (source.failure? answer record).isSome) ∧
      (∀ front source back list, sources = front ++ source :: back →
        (∀ earlier ∈ front, earlier.offer? answer record = none) →
        source.offer? answer record = some list →
        (locateImage sources record).result (.willing answer) = .ok list ∧
        searchCalls sources answer record = front ++ [source] ∧
        searchWarnings sources answer record = front.filterMap (·.complaint? answer record) ∧
        (locateImage sources record).warnings (.willing answer) =
          (front ++ [source]).flatMap (·.allWarnings answer record)) ∧
      ((∀ source ∈ sources, source.offer? answer record = none) →
        (∀ error, (locateImage sources record).result (.willing answer) = .error error ↔
          (∃ front source back, sources = front ++ source :: back ∧
            source.failure? answer record = some error ∧
            ∀ later ∈ back, later.failure? answer record = none) ∨
          error = .locationNotFound ∧
            ∀ source ∈ sources, source.failure? answer record = none) ∧
        ((∀ source ∈ sources, source.failure? answer record ≠ some .locationNotFound) →
          ((locateImage sources record).result (.willing answer) = .error .locationNotFound ↔
            ∀ source ∈ sources, source.failure? answer record = none)) ∧
        searchCalls sources answer record = sources ∧
        searchWarnings sources answer record = sources.filterMap (·.complaint? answer record) ∧
        (locateImage sources record).warnings (.willing answer) =
          sources.flatMap (·.allWarnings answer record)) ∧
      ∀ list, (locateImage sources record).result (.willing answer) = .ok list →
        list.isGenuine = true := by
  refine ⟨locateImage_eq_interpret sources record, fun source => source.isSome_complaint? ..,
    ?_, fun hnone => ⟨fun error => result_locateImage_of_none hnone, fun hother => ?_, ?_⟩,
    fun list hlist => (exists_source_of_locateImage hlist).1⟩
  · rintro front source back list rfl hfront hoffer
    obtain ⟨hcalls, hwarnings⟩ := calls_of_offer hfront hoffer back
    exact ⟨result_locateImage_of_offer front back hfront hoffer, hcalls, hwarnings,
      (shown_locateImage_of_offer hfront hoffer back).2⟩
  · rw [result_locateImage_of_none hnone]
    constructor
    · rintro (⟨front, source, back, rfl, hfailure, -⟩ | ⟨-, hall⟩)
      · exact absurd hfailure (hother source (by simp))
      · exact hall
    · exact fun hall => .inr ⟨rfl, hall⟩
  · obtain ⟨hcalls, hwarnings⟩ := calls_of_none hnone
    exact ⟨hcalls, hwarnings, (shown_locateImage_of_none hnone).2⟩

/-- Ways that fail, do not apply, give a foreign list and give one of the boot stage: with a list in
the fourth place, without one, and without a failure. -/
theorem first_offer_or_last_failure_four_ways :
    let list := RegionList.ofRegions [⟨0, 1, 8⟩]
    let foreign : RegionList := { list with identity := Vector.replicate 16 0 }
    let way (name : String) (outcome : Except Error (Option RegionList)) :
        LocationSource Sectors := ⟨name, fun _ => .ofExcept outcome⟩
    let broken := way "broken" (.error (.io .endOfFile))
    let absent := way "absent" (.ok none)
    let strange := way "strange" (.ok (some foreign))
    let own := way "own" (.ok (some list))
    let record := Record.create (Vector.replicate 16 7) 1024 1 .exfat "a" 5
    let answer : (question : Sectors.Question) → Sectors.Answer question := fun _ => .empty
    let located (sources : List (LocationSource Sectors)) :=
      (locateImage sources record).result (.willing answer)
    located [broken, absent, strange, own, broken] = .ok list ∧
      searchCalls [broken, absent, strange, own, broken] answer record =
        [broken, absent, strange, own] ∧
      searchWarnings [broken, absent, strange, own, broken] answer record =
        [.locationSource "broken" (.io .endOfFile), .foreignLocation "strange"] ∧
      located [strange, broken, absent] = .error (.io .endOfFile) ∧
      searchCalls [strange, broken, absent] answer record = [strange, broken, absent] ∧
      located [absent, absent] = .error .locationNotFound := by
  intro list foreign way broken absent strange own record answer located
  have hbroken : broken.offer? answer record = none := LocationSource.offer?_of_error rfl
  have habsent : absent.offer? answer record = none := LocationSource.offer?_of_nothing rfl
  have hstrange : strange.offer? answer record = none := by decide
  have hown : own.offer? answer record = some list := by decide
  have hfound := (first_offer_or_last_failure [broken, absent, strange, own, broken] record
    answer).2.2.1 [broken, absent, strange] own [broken] list rfl
      (by simp [hbroken, habsent, hstrange]) hown
  have hlost := (first_offer_or_last_failure [strange, broken, absent] record answer).2.2.2.1
    (by simp [hbroken, habsent, hstrange])
  have hnothing := (first_offer_or_last_failure [absent, absent] record answer).2.2.2.1
    (by simp [habsent])
  refine ⟨hfound.1, hfound.2.1, hfound.2.2.1.trans (by decide), ?_, hlost.2.2.1, ?_⟩
  · exact (hlost.1 _).2 (.inl ⟨[strange], broken, [absent], rfl, by decide, by decide⟩)
  · exact (hnothing.2.1 (by decide)).2 (by decide)

end BootExtents
