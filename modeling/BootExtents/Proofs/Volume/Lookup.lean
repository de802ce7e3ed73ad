import BootExtents.Proofs.Volume.Directory
import BootExtents.Proofs.Volume.Failures
import Mathlib

/-!
# Looking up paths

A path is a row of names, with slashes between them; how many slashes there are does not matter, nor
are names told apart that the case map of the volume makes equal. The lookup goes from directory to
directory, each time to the first node that goes by the next name, and says that there is none only
if it has read the whole directory where a name is missing.

## Main definitions

* `BootExtents.Volume.Spells` — how names are written as a path.
* `BootExtents.Volume.GoesBy` — a node goes by a name.
* `BootExtents.Volume.Reaches` — names lead from one node to another.
* `BootExtents.Volume.Misses` — a node that a name leads nowhere from.

## Main results

* `BootExtents.Volume.components_eq_iff` — the components of a path are the names it spells.
* `BootExtents.Volume.descend_congr` — names that are compared as equal lead the same way.
* `BootExtents.Volume.result_descend_eq_ok_iff`, `result_descend_eq_error_iff` — what names lead to.
* `BootExtents.lookup_by_names` — what the lookup of a path gives.
-/

set_option relaxedAutoImplicit false
set_option autoImplicit false

namespace BootExtents

/-! ### Paths -/

section SplitOn

open String

/-- Splitting a text at slashes goes on behind any part of it.

**Proof sketch.** Induction on the part of the text that is still to come. `front` is what was split
off, with its slash, and `name` the start of the next piece. -/
private lemma splitOnAux_slash (front name rest : List Char) (done : List String) :
    splitOnAux (ofList (front ++ name ++ rest)) "/" ⟨utf8Len front⟩ ⟨utf8Len (front ++ name)⟩ 0
      done = done.reverse ++ (List.splitOnPPrepend (· == '/') rest name.reverse).map ofList := by
  induction rest generalizing front name done with
  | nil =>
    have hend := (atEnd_of_valid (front ++ name) []).2 rfl
    have hname := extract_of_valid front name []
    rw [splitOnAux, if_pos hend, utf8Len_append, hname]
    simp
  | cons char rest ih =>
    have hend := mt (atEnd_of_valid (front ++ name) (char :: rest)).1 (List.cons_ne_nil _ _)
    have hget := get_of_valid (front ++ name) (char :: rest)
    have hnext := next_of_valid (front ++ name) char rest
    have hname := extract_of_valid front name (char :: rest)
    have hslash : Pos.Raw.get "/" 0 = '/' := rfl
    rw [splitOnAux, if_neg hend, hget, hslash, List.headD_cons]
    by_cases hchar : char = '/'
    · subst hchar
      have hstop : (⟨utf8Len (front ++ name) + '/'.utf8Size⟩ : Pos.Raw).unoffsetBy
          (Pos.Raw.next "/" 0) = ⟨utf8Len front + utf8Len name⟩ := by
        rw [utf8Len_append]
        rfl
      have hafter := ih (front ++ name ++ ['/']) [] (ofList name :: done)
      rw [if_pos (beq_self_eq_true _), hnext]
      dsimp only
      rw [if_pos (by decide), hstop, hname]
      simpa [List.splitOnPPrepend_cons_eq_if, Nat.add_assoc] using hafter
    · have hsame : (⟨utf8Len (front ++ name)⟩ : Pos.Raw).unoffsetBy 0 =
          ⟨utf8Len (front ++ name)⟩ := rfl
      have hafter := ih front (name ++ [char]) done
      rw [if_neg (by simpa using hchar), hsame, hnext]
      simpa [List.splitOnPPrepend_cons_eq_if, hchar, Nat.add_assoc] using hafter

/-- A text is split at slashes like the list of its characters. -/
lemma splitOn_slash (text : String) :
    text.splitOn "/" = (text.toList.splitOn '/').map ofList := by
  have h := splitOnAux_slash [] [] text.toList []
  rw [List.nil_append, List.nil_append, ofList_toList] at h
  rw [splitOn, if_neg (by decide), List.splitOn_eq_splitOnP, List.splitOnP_eq_splitOnPPrepend]
  exact h

end SplitOn

namespace Volume

/-- How names are written as a path. None of them is empty or has a slash in it, at least one slash
stands between two names, and any number of them before and behind all. -/
inductive Spells : (text : List Char) → (names : List String) → Prop where
  | nothing : Spells [] []
  | slash {text : List Char} {names : List String} (h : Spells text names) :
      Spells ('/' :: text) names
  | last {name : List Char} (hne : name ≠ []) (hname : '/' ∉ name) :
      Spells name [.ofList name]
  | name {name text : List Char} {names : List String} (hne : name ≠ []) (hname : '/' ∉ name)
      (h : Spells text names) : Spells (name ++ '/' :: text) (.ofList name :: names)

section Spells

variable {text : List Char} {names : List String}

/-- The pieces between slashes that are not empty. -/
private def pieces (text : List Char) : List String :=
  ((text.splitOn '/').filter (· ≠ [])).map .ofList

/-- The components of a path are the pieces of its characters. -/
private lemma components_eq_pieces (path : String) : components path = pieces path.toList := by
  have hempty : ((fun piece : String => decide (piece ≠ "")) ∘ String.ofList) =
      fun piece => decide (piece ≠ []) := by
    funext piece
    simp
  rw [components, splitOn_slash, List.filter_map, hempty, pieces]

/-- A text that spells names has these as its pieces. -/
private lemma Spells.pieces_eq (h : Spells text names) : pieces text = names := by
  induction h with
  | nothing => rfl
  | @slash text names _ ih =>
    have hsplit := List.splitOn_append_cons_self [] (a := '/') text
    rw [List.nil_append, List.splitOn_nil] at hsplit
    rw [pieces, hsplit, List.filter_append, List.map_append]
    exact ih
  | last hne hname =>
    rw [pieces, List.splitOn_eq_singleton hname, List.filter_cons_of_pos (by simpa using hne)]
    rfl
  | name hne hname _ ih =>
    rw [pieces, List.splitOn_append_cons_self_of_not_mem hname,
      List.filter_cons_of_pos (by simpa using hne), List.map_cons]
    exact congrArg _ ih

/-- Every text spells its pieces.

**Proof sketch.** Induction on the length of the text. What stands before the first slash is a name,
unless it is empty. -/
private lemma spells_pieces (text : List Char) : Spells text (pieces text) := by
  by_cases hmem : '/' ∈ text
  · obtain ⟨front, back, rfl, hfront⟩ := List.eq_append_cons_of_mem hmem
    have hback := spells_pieces back
    rcases List.eq_nil_or_concat front with rfl | hne
    · have hslash := Spells.slash hback
      rwa [← hslash.pieces_eq] at hslash
    · have hname := Spells.name (fun h => by simp [h] at hne) hfront hback
      rwa [← hname.pieces_eq] at hname
  · rcases text with _ | ⟨char, text⟩
    · exact .nothing
    · have hlast := Spells.last (List.cons_ne_nil char text) hmem
      rwa [← hlast.pieces_eq] at hlast
termination_by text.length

/-- **The components of a path** are the names that it spells. -/
theorem components_eq_iff (path : String) (names : List String) :
    components path = names ↔ Spells path.toList names := by
  rw [components_eq_pieces]
  exact ⟨fun h => h ▸ spells_pieces _, Spells.pieces_eq⟩

end Spells

/-! ### From directory to directory -/

variable (volume : Volume) (answer : Inquiry.Respondent Sectors VolumeError)

/-- A node goes by a name if the case map of the volume makes the name equal to its own. -/
def GoesBy (node : Node) (name : String) : Prop :=
  volume.caseMap.upperName node.name = volume.caseMap.upperName name

/-- Whether a node goes by a name can be decided. -/
instance (node : Node) (name : String) : Decidable (volume.GoesBy node name) :=
  inferInstanceAs (Decidable (_ = _))

/-- Names lead from one node to another. Each is that of a node in a directory whose entries can be
told, and it is the first node there that goes by the name. -/
inductive Reaches : (node : Node) → (names : List String) → (found : Node) → Prop where
  | here (node : Node) : Reaches node [] node
  | through {node child found : Node} {name : String} {names : List String}
      {before after : List Node} (hdirectory : node.isDirectory = true)
      (hentries : (volume.entries node).result answer = .ok (before ++ child :: after))
      (hbefore : ∀ other ∈ before, ¬volume.GoesBy other name)
      (hchild : volume.GoesBy child name) (hrest : Reaches child names found) :
      Reaches node (name :: names) found

/-- No name leads from a node that is no directory, and a name leads nowhere from a directory if no
node there goes by it. -/
def Misses (node : Node) (name : String) : Prop :=
  node.isDirectory = false ∨
    ∃ nodes, (volume.entries node).result answer = .ok nodes ∧
      ∀ other ∈ nodes, ¬volume.GoesBy other name

variable {volume answer} {node found : Node} {name : String} {names : List String}

/-- Names are compared unit by unit: each unit has the image that the table of the case map gives
it, and is its own image behind the end of the table. -/
lemma upperName_eq_iff (map : CaseMap) (name other : String) :
    map.upperName name = map.upperName other ↔
      List.Forall₂ (fun unit unit' =>
        map.images[unit.toNat]?.getD unit = map.images[unit'.toNat]?.getD unit')
        (Text.Utf16.encode name) (Text.Utf16.encode other) := by
  rw [CaseMap.upperName, CaseMap.upperName, ← List.forall₂_eq_eq_eq, List.forall₂_map_left_iff,
    List.forall₂_map_right_iff]
  rfl

/-- The first node that goes by a name is named by it. -/
lemma named?_eq_some_iff {nodes : List Node} :
    volume.named? name nodes = some found ↔ ∃ before after, nodes = before ++ found :: after ∧
      (∀ other ∈ before, ¬volume.GoesBy other name) ∧ volume.GoesBy found name := by
  rw [named?, List.find?_eq_some_iff_append]
  simp only [decide_eq_true_eq, Bool.not_eq_true', decide_eq_false_iff_not]
  constructor
  · rintro ⟨hfound, before, after, rfl, hbefore⟩
    exact ⟨before, after, rfl, hbefore, hfound⟩
  · rintro ⟨before, after, rfl, hbefore, hfound⟩
    exact ⟨hfound, before, after, rfl, hbefore⟩

/-- A name names nothing if no node goes by it. -/
lemma named?_eq_none_iff {nodes : List Node} :
    volume.named? name nodes = none ↔ ∀ other ∈ nodes, ¬volume.GoesBy other name := by
  rw [named?, List.find?_eq_none]
  simp only [decide_eq_true_eq]
  rfl

/-- Names that are compared as equal name the same node. -/
lemma named?_congr {other : String}
    (h : volume.caseMap.upperName name = volume.caseMap.upperName other) (nodes : List Node) :
    volume.named? name nodes = volume.named? other nodes := by
  rw [named?, named?, h]

/-- **Names that are compared as equal lead the same way**: to the same node, or the same error,
with the same warnings, over the same sectors.

**Proof sketch.** Induction on the names, both lists at once. -/
theorem descend_congr {others : List String}
    (h : List.Forall₂ (fun name other =>
      volume.caseMap.upperName name = volume.caseMap.upperName other) names others)
    (node : Node) : volume.descend node names = volume.descend node others := by
  induction h generalizing node with
  | nil => rfl
  | cons hname hrest ih =>
    rw [descend, descend]
    split_ifs
    · refine congrArg _ (funext fun nodes => ?_)
      rw [named?_congr hname]
      cases volume.named? _ nodes with
      | none => rfl
      | some found => exact ih found
    · rfl

/-- One step of a descent. -/
lemma result_descend_cons (node : Node) (name : String) (names : List String) :
    (volume.descend node (name :: names)).result answer =
      if node.isDirectory then
        match (volume.entries node).result answer with
        | .error error => .error error
        | .ok nodes =>
          match volume.named? name nodes with
          | some child => (volume.descend child names).result answer
          | none => .error .notFound
      else
        .error .notFound := by
  rw [descend]
  split_ifs
  · rw [Inquiry.bind_eq, Inquiry.result_bind]
    cases (volume.entries node).result answer with
    | error error => rfl
    | ok nodes =>
      dsimp only
      cases volume.named? name nodes <;> rfl
  · rfl

/-- **Where a descent ends.**

**Proof sketch.** Induction on the names; `result_descend_cons` is the step. -/
theorem result_descend_eq_ok_iff :
    (volume.descend node names).result answer = .ok found ↔
      volume.Reaches answer node names found := by
  constructor
  · intro h
    induction names generalizing node with
    | nil =>
      obtain rfl := Except.ok.inj h
      exact .here node
    | cons name names ih =>
      rw [result_descend_cons] at h
      split at h
      next hdirectory =>
        cases hentries : (volume.entries node).result answer with
        | error error =>
          rw [hentries] at h
          cases h
        | ok nodes =>
          rw [hentries] at h
          dsimp only at h
          cases hnamed : volume.named? name nodes with
          | none =>
            rw [hnamed] at h
            cases h
          | some child =>
            rw [hnamed] at h
            obtain ⟨before, after, rfl, hbefore, hchild⟩ := named?_eq_some_iff.1 hnamed
            exact .through hdirectory hentries hbefore hchild (ih h)
      next => cases h
  · intro h
    induction h with
    | here node => rfl
    | @through node child found name names before after hdirectory hentries hbefore hchild _ ih =>
      have hnamed := named?_eq_some_iff.2 ⟨before, after, rfl, hbefore, hchild⟩
      rw [result_descend_cons, if_pos hdirectory, hentries]
      dsimp only
      rw [hnamed]
      exact ih

/-- From a node that is reached, the descent goes on with the names that are left. -/
lemma Reaches.result_descend_append (h : volume.Reaches answer node names found)
    (rest : List String) :
    (volume.descend node (names ++ rest)).result answer =
      (volume.descend found rest).result answer := by
  induction h with
  | here node => rfl
  | @through node child found name names before after hdirectory hentries hbefore hchild _ ih =>
    have hnamed := named?_eq_some_iff.2 ⟨before, after, rfl, hbefore, hchild⟩
    rw [List.cons_append, result_descend_cons, if_pos hdirectory, hentries]
    dsimp only
    rw [hnamed]
    exact ih

/-- A name that leads nowhere ends the descent. -/
lemma Misses.result_descend (h : volume.Misses answer node name) (names : List String) :
    (volume.descend node (name :: names)).result answer = .error .notFound := by
  rw [result_descend_cons]
  rcases h with hfile | ⟨nodes, hentries, hnone⟩
  · rw [hfile]
    rfl
  · split_ifs
    · rw [hentries]
      dsimp only
      rw [named?_eq_none_iff.2 hnone]
    · rfl

/-- **How a descent fails.** It stops where a name leads nowhere, or where the entries of a
directory cannot be told.

**Proof sketch.** Induction on the names; `result_descend_cons` is the step. -/
theorem exists_of_result_descend_eq_error {error : VolumeError}
    (h : (volume.descend node names).result answer = .error error) :
    ∃ front name back reached, names = front ++ name :: back ∧
      volume.Reaches answer node front reached ∧
        (error = .notFound ∧ volume.Misses answer reached name ∨
          reached.isDirectory = true ∧ (volume.entries reached).result answer = .error error) := by
  induction names generalizing node with
  | nil => cases h
  | cons name names ih =>
    rw [result_descend_cons] at h
    split at h
    next hdirectory =>
      cases hentries : (volume.entries node).result answer with
      | error other =>
        rw [hentries] at h
        obtain rfl := Except.error.inj h
        exact ⟨[], name, names, node, rfl, .here node, .inr ⟨hdirectory, hentries⟩⟩
      | ok nodes =>
        rw [hentries] at h
        dsimp only at h
        cases hnamed : volume.named? name nodes with
        | none =>
          rw [hnamed] at h
          obtain rfl := Except.error.inj h
          exact ⟨[], name, names, node, rfl, .here node,
            .inl ⟨rfl, .inr ⟨nodes, hentries, named?_eq_none_iff.1 hnamed⟩⟩⟩
        | some child =>
          rw [hnamed] at h
          obtain ⟨before, after, rfl, hbefore, hchild⟩ := named?_eq_some_iff.1 hnamed
          obtain ⟨front, other, back, reached, rfl, hreached, hstop⟩ := ih h
          exact ⟨name :: front, other, back, reached, rfl,
            .through hdirectory hentries hbefore hchild hreached, hstop⟩
    next hfile =>
      obtain rfl := Except.error.inj h
      exact ⟨[], name, names, node, rfl, .here node, .inl ⟨rfl, .inl (by simpa using hfile)⟩⟩

/-! ### Devices -/

/-- A device whose sectors can be read, or fail to be. -/
def device (read : SectorAddress → Except IoError ByteArray) :
    Inquiry.Respondent Sectors VolumeError :=
  fun address => (read address).mapError .io

/-- The entries of a directory on a device are told, cannot be read, or are broken. -/
lemma entries_ne_notFound (volume : Volume) (read : SectorAddress → Except IoError ByteArray)
    (directory : Node) :
    (volume.entries directory).result (device read) ≠ .error .notFound := by
  intro h
  rcases (volume.ownErrors_entries directory).exists_asked h with
    hbroken | ⟨address, -, hrefused⟩
  · rcases hbroken with hchain | hmetadata
    · cases hchain
    · cases hmetadata
  · rw [device] at hrefused
    cases hread : read address with
    | ok bytes =>
      rw [hread] at hrefused
      cases hrefused
    | error cause =>
      rw [hread] at hrefused
      cases hrefused

end Volume

/-- **Paths are looked up by their names.** The components of a path are the names that it spells.
They are compared unit by unit, through the table of the volume's case map. Paths whose components
are compared as equal are looked up in the same way. The lookup gives the node
that the components lead to, each to the first node that goes by it. It finds nothing exactly if the
components lead to a node from which the next one leads nowhere; and it fails with another error
exactly if they lead to a directory whose entries fail with it.

**Proof sketch.** A descent ends where names lead (`Volume.result_descend_eq_ok_iff`), or stops at
one of them (`Volume.exists_of_result_descend_eq_error`). Entries never say that nothing was found
(`Volume.entries_ne_notFound`), so the error tells why it stopped. -/
theorem lookup_by_names (volume : Volume) :
    (∀ path names, Volume.components path = names ↔ Volume.Spells path.toList names) ∧
    (∀ name other, volume.caseMap.upperName name = volume.caseMap.upperName other ↔
      List.Forall₂ (fun unit unit' =>
        volume.caseMap.images[unit.toNat]?.getD unit =
          volume.caseMap.images[unit'.toNat]?.getD unit')
        (Text.Utf16.encode name) (Text.Utf16.encode other)) ∧
    (∀ path other, List.Forall₂ (fun name other =>
        volume.caseMap.upperName name = volume.caseMap.upperName other)
        (Volume.components path) (Volume.components other) →
      volume.lookup path = volume.lookup other) ∧
    ∀ (read : SectorAddress → Except IoError ByteArray) (path : String),
      let answer := Volume.device read
      (∀ found, (volume.lookup path).result answer = .ok found ↔
        volume.Reaches answer volume.root (Volume.components path) found) ∧
      ((volume.lookup path).result answer = .error .notFound ↔
        ∃ front name back node, Volume.components path = front ++ name :: back ∧
          volume.Reaches answer volume.root front node ∧ volume.Misses answer node name) ∧
      ∀ error, error ≠ .notFound → ((volume.lookup path).result answer = .error error ↔
        ∃ front name back node, Volume.components path = front ++ name :: back ∧
          volume.Reaches answer volume.root front node ∧ node.isDirectory = true ∧
            (volume.entries node).result answer = .error error) := by
  refine ⟨Volume.components_eq_iff, Volume.upperName_eq_iff volume.caseMap,
    fun path other h => Volume.descend_congr h volume.root,
    fun read path => ⟨fun found => Volume.result_descend_eq_ok_iff, ⟨fun h => ?_, ?_⟩, ?_⟩⟩
  · obtain ⟨front, name, back, node, hpath, hreached, hstop⟩ :=
      Volume.exists_of_result_descend_eq_error h
    rcases hstop with ⟨-, hmisses⟩ | ⟨-, hentries⟩
    · exact ⟨front, name, back, node, hpath, hreached, hmisses⟩
    · exact absurd hentries (volume.entries_ne_notFound read node)
  · rintro ⟨front, name, back, node, hpath, hreached, hmisses⟩
    rw [Volume.lookup, hpath, hreached.result_descend_append]
    exact hmisses.result_descend back
  · refine fun error herror => ⟨fun h => ?_, ?_⟩
    · obtain ⟨front, name, back, node, hpath, hreached, hstop⟩ :=
        Volume.exists_of_result_descend_eq_error h
      rcases hstop with ⟨hnotFound, -⟩ | ⟨hdirectory, hentries⟩
      · exact absurd hnotFound herror
      · exact ⟨front, name, back, node, hpath, hreached, hdirectory, hentries⟩
    · rintro ⟨front, name, back, node, hpath, hreached, hdirectory, hentries⟩
      rw [Volume.lookup, hpath, hreached.result_descend_append, Volume.result_descend_cons,
        if_pos hdirectory, hentries]

/-- The bytes of a directory with two files: `a`, and behind it one by the name of `B`. -/
def twoFileDirectory : ByteArray :=
  let zeros (count : Nat) : List UInt8 := List.replicate count 0
  fileDirectory ++ ⟨([0x85, 2, 0xEE, 0x17] ++ zeros 28 ++
    ([0xC0, 1, 0, 1] ++ zeros 16 ++ [4, 0, 0, 0, 7, 0, 0, 0, 0, 0, 0, 0]) ++
    ([0xC1, 0, 0x42] ++ zeros 29)).toArray⟩

/-- A volume whose root directory has the files `a` and `B`, and whose case map is that of the
letters. The second file is found behind the first one, and a third one is not. -/
theorem lookup_by_names_small_volume :
    let letters : CaseMap := ⟨(Array.range 128).map fun unit =>
      if 0x61 ≤ unit ∧ unit ≤ 0x7A then (unit - 0x20).toUInt16 else unit.toUInt16⟩
    let volume : Volume := ⟨⟨9, 0, 1, 1, 2, 2, 2, by decide, by decide⟩, letters⟩
    let zeros (count : Nat) : ByteArray := ⟨(List.replicate count 0).toArray⟩
    let read : SectorAddress → Except IoError ByteArray := fun address =>
      .ok (if address.number = 2 then twoFileDirectory ++ zeros 288
        else zeros 8 ++ ⟨(List.replicate 8 0xFF).toArray⟩ ++ zeros 496)
    volume.lookup "/ISO//a/" = volume.lookup "iso/A" ∧
    (volume.lookup "//A/").result (Volume.device read) = .ok ⟨"a", 3, 5, 0, false, false⟩ ∧
    (volume.lookup "b").result (Volume.device read) = .ok ⟨"B", 4, 7, 0, false, false⟩ ∧
    (volume.lookup "c").result (Volume.device read) = .error .notFound ∧
    (volume.lookup "a/b").result (Volume.device read) = .error .notFound := by
  intro letters volume zeros read
  let first : Node := ⟨"a", 3, 5, 0, false, false⟩
  let second : Node := ⟨"B", 4, 7, 0, false, false⟩
  obtain ⟨-, -, hsame, hlookup⟩ := lookup_by_names volume
  have hentries : (volume.entries volume.root).result (Volume.device read) =
      .ok ([] ++ first :: [second]) :=
    eq_ok_of_toOption_eq_some (by decide +kernel)
  have hbehind : (volume.entries volume.root).result (Volume.device read) =
      .ok ([first] ++ second :: []) := hentries
  have hcomponents : ∀ path names, Volume.pieces path.toList = names →
      Volume.components path = names := fun path _ h => (Volume.components_eq_pieces path).trans h
  have hfirst : volume.Reaches (Volume.device read) volume.root ["a"] first :=
    .through rfl hentries (by simp) (by decide +kernel) (.here _)
  refine ⟨hsame _ _ ?_, ((hlookup read "//A/").1 _).2 ?_, ((hlookup read "b").1 _).2 ?_,
    (hlookup read "c").2.1.2 ?_, (hlookup read "a/b").2.1.2 ?_⟩
  · rw [hcomponents "/ISO//a/" ["ISO", "a"] (by decide +kernel),
      hcomponents "iso/A" ["iso", "A"] (by decide +kernel)]
    exact .cons (by decide +kernel) (.cons (by decide +kernel) .nil)
  · rw [hcomponents "//A/" ["A"] (by decide +kernel)]
    exact .through rfl hentries (by simp) (by decide +kernel) (.here _)
  · rw [hcomponents "b" ["b"] (by decide +kernel)]
    exact .through rfl hbehind (by decide +kernel) (by decide +kernel) (.here _)
  · exact ⟨[], "c", [], volume.root, hcomponents _ _ (by decide +kernel), .here _,
      .inr ⟨_, hentries, by decide +kernel⟩⟩
  · exact ⟨["a"], "b", [], first, hcomponents _ _ (by decide +kernel), hfirst, .inl rfl⟩

end BootExtents
