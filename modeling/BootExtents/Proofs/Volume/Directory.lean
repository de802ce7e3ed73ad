import BootExtents.Proofs.Volume.Reading
import Mathlib

/-!
# The grammar of directories

The entries of a directory are a text. It is made of items: an entry that is passed over, or a set
of entries that describes a node. The text ends behind the last entry, or before an item whose
first byte is zero. Listing a directory gives the nodes of its text's sets, and fails where the
entries are no such text.

## Main definitions

* `BootExtents.DirectoryEntry.IsPassed` — an entry that is an item of its own.
* `BootExtents.EntrySet` — a set of entries that describes a node.
* `BootExtents.EntrySet.node` — the node.
* `BootExtents.DirectoryItem` — an item; `entries` and `node?` are what it is made of and its node.
* `BootExtents.Listing` — entries that start with given items, and end behind them.

## Main results

* `BootExtents.Node.result_ofSet` — a set gives its node.
* `BootExtents.Node.exists_set_or_error` — entries that are no set are an error.
* `BootExtents.Listing.unique` — there is one way to read a text as items.
* `BootExtents.Node.result_listFrom` — items are listed.
* `BootExtents.Node.exists_listing_or_error` — entries that are no items are an error.
* `BootExtents.entries_eq_ok_iff_listing` — listing a directory reads exactly this grammar.
-/

set_option relaxedAutoImplicit false
set_option autoImplicit false

namespace BootExtents

/-! ### Kinds of entries -/

/-- The kind of a code is the one that has it. -/
lemma EntryKind.ofCode?_eq_some_iff {value : UInt8} {kind : EntryKind} :
    ofCode? value = some kind ↔ kind.code = value := by
  constructor
  · intro h
    simpa using List.find?_some h
  · rintro rfl
    exact ofCode?_code kind

namespace DirectoryEntry

variable {entry : DirectoryEntry} {kind : EntryKind}

/-- An entry that is an item of its own: it does not start a set, and is not in use or of a known
kind. -/
structure IsPassed (entry : DirectoryEntry) : Prop where
  type_ne_zero : entry.type ≠ 0
  type_ne_file : entry.type ≠ 0x85
  idle_or_known : entry.type < 0x80 ∨ ∃ kind : EntryKind, kind.code = entry.type &&& 0x7F

/-- The units of a name that an entry holds, behind its first two bytes. -/
def units (entry : DirectoryEntry) : List UInt16 :=
  (List.range 15).map fun place => Bytes.u16At entry.bytes (2 + 2 * place)

/-- An entry in use and of a kind has the kind's code with the highest bit set. -/
lemma is_iff : entry.is kind = true ↔ entry.type = 0x80 ||| kind.code := by
  have hbits : ∀ type : BitVec 8, (0x80 ≤ type ∧ kind.code.toBitVec = type &&& 0x7F) ↔
      type = 0x80 ||| kind.code.toBitVec := by
    cases kind <;> decide +kernel
  rw [is, Bool.and_eq_true, isInUse, kind?, decide_eq_true_iff, decide_eq_true_iff,
    EntryKind.ofCode?_eq_some_iff, UInt8.le_iff_toBitVec_le, ← UInt8.toBitVec_inj,
    ← UInt8.toBitVec_inj]
  exact hbits entry.type.toBitVec

/-- An entry has a known kind exactly if the low seven bits of its type are the code of one. -/
lemma isSome_kind?_iff : entry.kind?.isNone = false ↔
    ∃ kind : EntryKind, kind.code = entry.type &&& 0x7F := by
  rw [Option.isNone_eq_false_iff, Option.isSome_iff_exists]
  exact exists_congr fun kind => EntryKind.ofCode?_eq_some_iff

/-- The listing passes over exactly the entries that are items of their own. -/
lemma isPassed_iff : entry.IsPassed ↔ ¬entry.isEnd = true ∧ ¬entry.is .file = true ∧
    ¬(entry.isInUse && entry.kind?.isNone) = true := by
  have hend : entry.isEnd = true ↔ entry.type = 0 := decide_eq_true_iff
  have hfile : entry.is .file = true ↔ entry.type = 0x85 := is_iff
  have hknown : (entry.isInUse && entry.kind?.isNone) = true ↔
      ¬entry.type < 0x80 ∧ ¬∃ kind : EntryKind, kind.code = entry.type &&& 0x7F := by
    rw [Bool.and_eq_true, isInUse, decide_eq_true_iff, UInt8.not_lt, ← isSome_kind?_iff,
      Bool.not_eq_false]
  rw [hend, hfile, hknown]
  constructor
  · intro h
    exact ⟨h.type_ne_zero, h.type_ne_file, fun hneither => h.idle_or_known.elim hneither.1 hneither.2⟩
  · rintro ⟨hzero, hfile, hneither⟩
    exact ⟨hzero, hfile, by tauto⟩

/-- The units of a name entry are the numbers behind its first one. -/
lemma drop_u16s (entry : DirectoryEntry) : (Packed.u16s entry.block).drop 1 = entry.units := by
  have hlength : (Packed.u16s entry.block).length = 16 := by
    rw [Packed.length_u16s, entry.size_block]
    rfl
  refine List.ext_getElem (by simp [units, hlength]) fun index h h' => ?_
  have hindex : 2 * (index + 1) = 2 + 2 * index := by omega
  simp [Packed.u16s, units, Packed.u16At_eq, bytes, hindex]

end DirectoryEntry

/-! ### Sets of entries -/

/-- The units that the entries of a name hold, from the first of them on. -/
def unitsOfRun (entries : List DirectoryEntry) : List UInt16 :=
  (entries.takeWhile (·.type = 0xC1)).flatMap DirectoryEntry.units

/-- A set of entries that describes a node: one for the file, one for the stream of its data, and
others, which start with those of the name. The first one counts the others and has the checksum of
all, and the second one tells how many units the name has. -/
structure EntrySet where
  /-- The entry of the file. -/
  file : DirectoryEntry
  /-- The entry of the stream. -/
  stream : DirectoryEntry
  /-- The entries behind these. -/
  others : List DirectoryEntry
  file_type : file.type = 0x85
  two_le_count : 2 ≤ (file.byteAt 1).toNat
  count_eq : (file.byteAt 1).toNat = others.length + 1
  checksum_eq : (Bytes.u16At file.bytes 2).toNat = setChecksum (file :: stream :: others)
  stream_type : stream.type = 0xC0
  name_le : (stream.byteAt 3).toNat ≤ (unitsOfRun others).length

namespace EntrySet

/-- The entries of a set, in order. -/
def entries (set : EntrySet) : List DirectoryEntry :=
  set.file :: set.stream :: set.others

/-- The byte that counts the units of a name is in an entry. -/
lemma three_lt_entrySize : 3 < entrySize := by decide

/-- The byte of the flags of a stream is in an entry. -/
lemma one_lt_entrySize : 1 < entrySize := by decide

/-- The units of the name. -/
def nameUnits (set : EntrySet) : List UInt16 :=
  (unitsOfRun set.others).take (set.stream.byteAt 3 three_lt_entrySize).toNat

/-- The node that a set describes. -/
def node (set : EntrySet) : Node where
  name := Text.Utf16.decode set.nameUnits
  firstCluster := Bytes.u32At set.stream.bytes 20
  dataLength := Bytes.u64At set.stream.bytes 24
  validDataLength := Bytes.u64At set.stream.bytes 8
  isDirectory := (Bytes.u16At set.file.bytes 4).toNat.testBit 4
  isContiguous := (set.stream.byteAt 1 one_lt_entrySize).toNat.testBit 1

end EntrySet

namespace Node

variable {I : Interface} (map : CaseMap) (answer : Inquiry.Respondent I VolumeError)

/-- The units of a run of name entries are those found for a set. -/
lemma nameUnits_eq (entries : List DirectoryEntry) : nameUnits entries = unitsOfRun entries := by
  have hname : ∀ entry : DirectoryEntry, entry.is .name = decide (entry.type = 0xC1) := by
    intro entry
    rw [Bool.eq_iff_iff, DirectoryEntry.is_iff, decide_eq_true_iff]
    rfl
  simp only [nameUnits, unitsOfRun, hname, DirectoryEntry.drop_u16s]

/-- **A set gives its node**, whether or not the hash of its name is right. -/
theorem result_ofSet (members : EntrySet) :
    (ofSet map members.entries).result answer = .ok members.node := by
  obtain ⟨file, stream, others, hfile, hcount, hlength, hchecksum, hstream, hname⟩ := members
  cases others with
  | nil => simp at hlength; omega
  | cons third others =>
    have hsum : (Packed.u16At file.block 2).toNat =
        setChecksum (file :: stream :: third :: others) := by
      rw [Packed.u16At_eq]
      exact hchecksum
    rw [EntrySet.entries, ofSet, if_neg (not_not.2 hsum),
      if_pos (DirectoryEntry.is_iff.2 hstream), nameUnits_eq, if_neg (Nat.not_lt.2 hname),
      Packed.u32At_eq, Packed.u64At_eq, Packed.u64At_eq, Packed.u16At_eq]
    split <;> rfl

/-- **Entries that are no set are an error.** A set has one entry more than its first one counts.

**Proof sketch.** Each check that fails is one of the conditions for a set; if none fails, the
entries are one. -/
theorem exists_set_or_error {file : DirectoryEntry} {members : List DirectoryEntry}
    (hfile : file.type = 0x85) (hcount : (file.byteAt 1).toNat = members.length) :
    (∃ set : EntrySet, set.entries = file :: members) ∨
      (ofSet map (file :: members)).result answer = .error .metadata := by
  match members with
  | [] => exact .inr rfl
  | [_] => exact .inr rfl
  | stream :: third :: others =>
    rw [ofSet]
    by_cases hsum : (Packed.u16At file.block 2).toNat ≠
        setChecksum (file :: stream :: third :: others)
    · rw [if_pos hsum]
      exact .inr rfl
    by_cases hstream : stream.is .stream = true
    · by_cases hname : (nameUnits (third :: others)).length < (stream.byteAt 3).toNat
      · rw [if_neg hsum, if_pos hstream, if_pos hname]
        exact .inr rfl
      · refine .inl ⟨⟨file, stream, third :: others, hfile, ?_, hcount, ?_, ?_, ?_⟩, rfl⟩
        · rw [hcount, List.length_cons, List.length_cons]
          omega
        · rw [← not_not.1 hsum, Packed.u16At_eq]
          rfl
        · exact DirectoryEntry.is_iff.1 hstream
        · rw [← nameUnits_eq]
          exact Nat.not_lt.1 hname
    · rw [if_neg hsum, if_neg hstream]
      exact .inr rfl

end Node

/-! ### Items -/

/-- An item of a directory. -/
inductive DirectoryItem where
  /-- An entry that is passed over. -/
  | passed (entry : DirectoryEntry) (h : entry.IsPassed)
  /-- A set of entries that describes a node. -/
  | set (members : EntrySet)

namespace DirectoryItem

/-- The entries of an item. -/
def entries : DirectoryItem → List DirectoryEntry
  | passed entry _ => [entry]
  | set members => members.entries

/-- The node of an item, if it is a set. -/
def node? : DirectoryItem → Option Node
  | passed _ _ => none
  | set members => some members.node

end DirectoryItem

/-- Entries start with the given items, and end behind them, or the next one ends the directory. -/
def Listing (text : List DirectoryEntry) (items : List DirectoryItem) : Prop :=
  ∃ rest, text = items.flatMap DirectoryItem.entries ++ rest ∧
    ∀ entry ∈ rest.head?, entry.type = 0

section Listing

variable {text : List DirectoryEntry} {items : List DirectoryItem}

/-- A text that is at its end has no items. -/
lemma Listing.nil (hend : ∀ entry ∈ text.head?, entry.type = 0) : Listing text [] :=
  ⟨text, rfl, hend⟩

/-- An item in front of a text of items is the first of them. -/
lemma Listing.cons (item : DirectoryItem) (h : Listing text items) :
    Listing (item.entries ++ text) (item :: items) := by
  obtain ⟨rest, rfl, hend⟩ := h
  exact ⟨rest, by simp, hend⟩

/-- Sets that entries start with are the same, as the first entry tells where the set ends. -/
lemma EntrySet.eq_of_append_eq {members others : EntrySet} {rest rest' : List DirectoryEntry}
    (h : members.entries ++ rest = others.entries ++ rest') : members = others ∧ rest = rest' := by
  obtain ⟨file, stream, behind, _, _, hcount, _, _, _⟩ := members
  obtain ⟨file', stream', behind', _, _, hcount', _, _, _⟩ := others
  simp only [entries, List.cons_append, List.cons.injEq] at h
  obtain ⟨rfl, rfl, happend⟩ := h
  have hlength : behind.length = behind'.length := by omega
  obtain ⟨rfl, rfl⟩ := List.append_inj happend hlength
  exact ⟨rfl, rfl⟩

/-- Items that entries start with are the same. -/
lemma DirectoryItem.eq_of_append_eq {item other : DirectoryItem} {rest rest' : List DirectoryEntry}
    (h : item.entries ++ rest = other.entries ++ rest') : item = other ∧ rest = rest' := by
  cases item with
  | passed entry hpassed =>
    cases other with
    | passed entry' hpassed' =>
      obtain ⟨rfl, rfl⟩ := List.cons.inj h
      exact ⟨rfl, rfl⟩
    | set members =>
      obtain ⟨rfl, -⟩ := List.cons.inj h
      exact absurd members.file_type hpassed.type_ne_file
  | set members =>
    cases other with
    | passed entry' hpassed' =>
      obtain ⟨hfile, -⟩ := List.cons.inj h
      exact absurd (hfile ▸ members.file_type) hpassed'.type_ne_file
    | set members' =>
      obtain ⟨rfl, rfl⟩ := EntrySet.eq_of_append_eq h
      exact ⟨rfl, rfl⟩

/-- No item starts where a directory ends. -/
lemma DirectoryItem.not_end (item : DirectoryItem) (rest : List DirectoryEntry) :
    ¬∀ entry ∈ (item.entries ++ rest).head?, entry.type = 0 := by
  intro hend
  cases item with
  | passed entry hpassed => exact hpassed.type_ne_zero (hend entry rfl)
  | set members =>
    have hfile := members.file_type
    rw [hend members.file rfl] at hfile
    cases hfile

/-- **The grammar is unambiguous**: entries have at most one listing.

**Proof sketch.** Induction on the items of one listing. The first items of both are the same, and
where one listing ends, no item of the other one starts. -/
theorem Listing.unique {others : List DirectoryItem} (h : Listing text items)
    (h' : Listing text others) : items = others := by
  obtain ⟨rest, rfl, hend⟩ := h
  obtain ⟨rest', htext, hend'⟩ := h'
  induction items generalizing others with
  | nil =>
    cases others with
    | nil => rfl
    | cons other others =>
      rw [List.flatMap_nil, List.nil_append, List.flatMap_cons, List.append_assoc] at htext
      exact absurd (htext ▸ hend) (other.not_end _)
  | cons item items ih =>
    rw [List.flatMap_cons, List.append_assoc] at htext
    cases others with
    | nil =>
      rw [List.flatMap_nil, List.nil_append] at htext
      exact absurd (htext ▸ hend') (item.not_end _)
    | cons other others =>
      rw [List.flatMap_cons, List.append_assoc] at htext
      obtain ⟨rfl, htail⟩ := DirectoryItem.eq_of_append_eq htext
      rw [ih htail]

end Listing

namespace Node

variable {I : Interface} (map : CaseMap) (answer : Inquiry.Respondent I VolumeError)

/-- Where a directory ends, the listing does. -/
lemma result_listFrom_end (found : List Node) {text : List DirectoryEntry}
    (hend : ∀ entry ∈ text.head?, entry.type = 0) :
    (listFrom map found text).result answer = .ok found.reverse := by
  cases text with
  | nil =>
    rw [listFrom]
    rfl
  | cons entry rest =>
    have hzero : entry.isEnd = true := decide_eq_true (hend entry rfl)
    rw [listFrom, if_pos hzero]
    rfl

/-- An entry that is passed over does not change what is listed. -/
lemma listFrom_passed (found : List Node) {entry : DirectoryEntry} (h : entry.IsPassed)
    (text : List DirectoryEntry) :
    (listFrom (I := I) map found (entry :: text)) = listFrom map found text := by
  obtain ⟨hend, hfile, hknown⟩ := DirectoryEntry.isPassed_iff.1 h
  rw [listFrom, if_neg hend, if_neg hfile, if_neg hknown]

/-- A set adds its node. -/
lemma result_listFrom_set (found : List Node) (members : EntrySet) (text : List DirectoryEntry) :
    (listFrom map found (members.entries ++ text)).result answer =
      (listFrom map (members.node :: found) text).result answer := by
  have hnode := result_ofSet map answer members
  obtain ⟨file, stream, others, hfile, _, hcount, _, _, _⟩ := members
  have hend : ¬file.isEnd = true := fun hzero => by
    have := of_decide_eq_true hzero
    rw [hfile] at this
    cases this
  have hlength : (file.byteAt 1).toNat = (stream :: others).length := hcount
  have htake : (stream :: others ++ text).take (file.byteAt 1).toNat = stream :: others :=
    List.take_left' hlength.symm
  have hdrop : (stream :: others ++ text).drop (file.byteAt 1).toNat = text :=
    List.drop_left' hlength.symm
  dsimp only [EntrySet.entries] at hnode ⊢
  rw [List.cons_append, listFrom, if_neg hend, if_pos (DirectoryEntry.is_iff.2 hfile)]
  dsimp only
  rw [htake, if_neg (by omega), hdrop, Inquiry.bind_eq, Inquiry.result_bind, hnode]

/-- **Items are listed**: the nodes of the sets among them, in order.

**Proof sketch.** Induction on the items. An entry that is passed over changes nothing
(`listFrom_passed`), a set adds its node (`result_listFrom_set`), and behind the items the directory
ends. -/
theorem result_listFrom (found : List Node) {text : List DirectoryEntry}
    {items : List DirectoryItem} (h : Listing text items) :
    (listFrom map found text).result answer =
      .ok (found.reverse ++ items.filterMap DirectoryItem.node?) := by
  obtain ⟨rest, rfl, hend⟩ := h
  induction items generalizing found with
  | nil => simpa using result_listFrom_end map answer found hend
  | cons item items ih =>
    rw [List.flatMap_cons, List.append_assoc]
    cases item with
    | passed entry hpassed =>
      rw [DirectoryItem.entries, List.singleton_append, listFrom_passed map found hpassed, ih]
      rfl
    | set members =>
      rw [DirectoryItem.entries, result_listFrom_set, ih]
      simp [DirectoryItem.node?]

/-- **Entries that are no items are an error.**

**Proof sketch.** Induction along the listing. At the end there are no items. A set that lacks
entries, or whose checks fail (`exists_set_or_error`), and an entry in use of no known kind end the
listing with the error. Otherwise a set or a passed entry stands before the items of what
follows. -/
theorem exists_listing_or_error (found : List Node) (text : List DirectoryEntry) :
    (∃ items, Listing text items) ∨
      (listFrom map found text).result answer = .error .metadata := by
  induction found, text using listFrom.induct with
  | case1 found => exact .inl ⟨[], .nil (by simp)⟩
  | case2 found entry rest hend =>
    exact .inl ⟨[], .nil (by simpa using of_decide_eq_true hend)⟩
  | case3 found entry rest hend hfile count hshort =>
    rw [listFrom, if_neg hend, if_pos hfile, if_pos hshort]
    exact .inr rfl
  | case4 found entry rest hend hfile count hwhole ih =>
    have hcount : (entry.byteAt 1).toNat = (rest.take count).length := by
      have := List.length_take_le count rest
      exact le_antisymm (Nat.not_lt.1 hwhole) this
    rw [listFrom, if_neg hend, if_pos hfile, if_neg hwhole, Inquiry.bind_eq, Inquiry.result_bind]
    rcases exists_set_or_error map answer (DirectoryEntry.is_iff.1 hfile) hcount with
      ⟨members, hmembers⟩ | herror
    · rw [← hmembers, result_ofSet]
      rcases ih members.node with ⟨items, hitems⟩ | herror
      · have hlisting := hitems.cons (.set members)
        rw [DirectoryItem.entries, hmembers, List.cons_append, List.take_append_drop] at hlisting
        exact .inl ⟨_, hlisting⟩
      · exact .inr herror
    · rw [herror]
      exact .inr rfl
  | case5 found entry rest hend hfile hunknown =>
    rw [listFrom, if_neg hend, if_neg hfile, if_pos hunknown]
    exact .inr rfl
  | case6 found entry rest hend hfile hknown ih =>
    have hpassed : entry.IsPassed := DirectoryEntry.isPassed_iff.2 ⟨hend, hfile, hknown⟩
    rw [listFrom_passed map found hpassed]
    rcases ih with ⟨items, hitems⟩ | herror
    · exact .inl ⟨_, hitems.cons (.passed entry hpassed)⟩
    · exact .inr herror

end Node

/-! ### Directories -/

/-- **Listing a directory reads exactly the grammar.** The entries that were read have nodes exactly
if they are a text of items, and these are the nodes of its sets, in order. There is one way to read
a text as items; if there is none, the result is the error of bad metadata. What stands behind the
end of the directory does not matter.

**Proof sketch.** Items are listed (`Node.result_listFrom`), and what is not an error starts with
items (`Node.exists_listing_or_error`). -/
theorem entries_eq_ok_iff_listing {volume : Volume} {directory : Node}
    {answer : Inquiry.Respondent Sectors VolumeError} {text : List DirectoryEntry}
    (hread : (volume.geometry.readDirectory directory).result answer = .ok text) :
    (∀ nodes, (volume.entries directory).result answer = .ok nodes ↔
      ∃ items, Listing text items ∧ nodes = items.filterMap DirectoryItem.node?) ∧
    (∀ items others, Listing text items → Listing text others → items = others) ∧
    ((¬∃ items, Listing text items) →
      (volume.entries directory).result answer = .error .metadata) ∧
    ∀ (items : List DirectoryItem) (marker : DirectoryEntry) (rest : List DirectoryEntry),
      text = items.flatMap DirectoryItem.entries ++ marker :: rest →
      marker.type = 0 →
      (volume.entries directory).result answer = .ok (items.filterMap DirectoryItem.node?) := by
  have hentries : (volume.entries directory).result answer =
      (Node.listFrom volume.caseMap [] text).result answer := by
    rw [Volume.entries, Inquiry.bind_eq, Inquiry.result_bind, hread]
    rfl
  have hlisted : ∀ {items : List DirectoryItem}, Listing text items →
      (volume.entries directory).result answer = .ok (items.filterMap DirectoryItem.node?) := by
    intro items hitems
    rw [hentries, Node.result_listFrom volume.caseMap answer [] hitems]
    rfl
  have hfailed : (¬∃ items, Listing text items) →
      (volume.entries directory).result answer = .error .metadata := by
    intro hnone
    rw [hentries]
    exact (Node.exists_listing_or_error volume.caseMap answer [] text).resolve_left hnone
  refine ⟨fun nodes => ⟨fun hok => ?_, ?_⟩, fun _ _ => Listing.unique, hfailed, ?_⟩
  · by_cases hitems : ∃ items, Listing text items
    · obtain ⟨items, hitems⟩ := hitems
      exact ⟨items, hitems, Except.ok.inj (hok.symm.trans (hlisted hitems))⟩
    · rw [hfailed hitems] at hok
      cases hok
  · rintro ⟨items, hitems, rfl⟩
    exact hlisted hitems
  · intro items marker rest htext hmarker
    exact hlisted ⟨marker :: rest, htext, by simpa using hmarker⟩

/-- The bytes of a directory: an entry for the case map, which is passed over, and the three entries
of a file by the name of `a`. -/
def fileDirectory : ByteArray :=
  let zeros (count : Nat) : List UInt8 := List.replicate count 0
  ⟨([0x82] ++ zeros 31 ++ ([0x85, 2, 0xC6, 0x3A] ++ zeros 28) ++
    ([0xC0, 1, 0, 1, 0x30, 0x80] ++ zeros 14 ++ [3, 0, 0, 0, 5, 0, 0, 0, 0, 0, 0, 0]) ++
    ([0xC1, 0, 0x61] ++ zeros 29)).toArray⟩

/-- The items of this directory, in a cluster of one sector. -/
theorem entries_eq_ok_iff_listing_one_file :
    ∃ items, Listing (DirectoryEntry.ofBytes fileDirectory) items ∧
      [Node.mk "a" 3 5 0 false false] = items.filterMap DirectoryItem.node? := by
  let volume : Volume := ⟨⟨9, 0, 1, 1, 2, 2, 2, by decide, by decide⟩, ⟨#[]⟩⟩
  let directory : Node := ⟨"/", 2, 128, 128, true, true⟩
  let answer : Inquiry.Respondent Sectors VolumeError := fun _ =>
    .ok (fileDirectory ++ ⟨(List.replicate 384 0).toArray⟩)
  have hdata : (volume.geometry.readData 2 true (some 128)).result answer = .ok fileDirectory :=
    eq_ok_of_toOption_eq_some (by decide +kernel)
  have hread : (volume.geometry.readDirectory directory).result answer =
      .ok (DirectoryEntry.ofBytes fileDirectory) := by
    show Inquiry.result answer ((volume.geometry.readData 2 true (some 128)).bind _) = _
    rw [Inquiry.result_bind, hdata]
    rfl
  have hnodes : (volume.entries directory).result answer =
      .ok [⟨"a", 3, 5, 0, false, false⟩] := by
    rw [Volume.entries, Inquiry.bind_eq, Inquiry.result_bind, hread]
    exact eq_ok_of_toOption_eq_some (by decide +kernel)
  exact ((entries_eq_ok_iff_listing hread).1 _).1 hnodes

end BootExtents
