import BootExtents.Proofs.Bytes.Altered
import BootExtents.Proofs.Record.Scan
import BootExtents.Proofs.Volume.Directory
import Mathlib

/-!
# Altered bytes are noticed

A record, a set of directory entries and a case map are each guarded by a checksum. One byte that is
altered, wherever it is, makes the checksum wrong. In a set of entries this includes the two bytes
where the checksum is stored, which it does not cover: then it is the stored number that changes.

## Main results

* `BootExtents.setChecksum_eq`, `u16At_bytes` — the checksum of a set in terms of all its bytes.
* `BootExtents.Node.result_ofSet_of_checksum_ne` — a set with a wrong checksum is refused.
* `BootExtents.Geometry.result_readCaseMap_of_checksum_ne` — and so is a case map.
* `BootExtents.altered_byte_noticed` — an altered byte is noticed in all three.
-/

set_option relaxedAutoImplicit false
set_option autoImplicit false

namespace BootExtents

variable {bytes others : List UInt8}

/-! ### Records -/

/-- A byte that is altered in a genuine record makes it one that is not. -/
lemma Record.isValidBytes_of_altered (hvalid : isValidBytes bytes = true)
    (h : AlteredAtOne (bytes.take byteCount) (others.take byteCount)) :
    isValidBytes others = false := by
  have hsum : Checksum.byteSum (bytes.take byteCount) = 0 := by
    rw [isValidBytes, Bool.and_eq_true, beq_iff_eq] at hvalid
    exact hvalid.2
  have hne := Checksum.byteSum_ne_of_altered h
  rw [hsum] at hne
  rw [isValidBytes, beq_eq_false_iff_ne.2 hne, Bool.and_false]

/-! ### Sets of entries -/

section EntrySets

variable {file file' : DirectoryEntry} {members members' : List DirectoryEntry}

/-- The bytes that the checksum of a set covers, among all bytes of the set. -/
def checksummed (bytes : List UInt8) : List UInt8 :=
  bytes.take 2 ++ bytes.drop 4

/-- The checksum of a set covers all its bytes but the third and the fourth one. -/
lemma setChecksum_eq (file : DirectoryEntry) (members : List DirectoryEntry) :
    setChecksum (file :: members) =
      Checksum.rotating 16 (checksummed ((file :: members).flatMap DirectoryEntry.bytes)) := by
  have hlength : file.bytes.length = 32 := file.length_bytes
  rw [setChecksum, checksummed, List.flatMap_cons, List.take_append_of_le_length (by omega),
    List.drop_append_of_le_length (by omega)]

/-- The third and the fourth byte of a set are those where the checksum is stored. -/
lemma u16At_bytes (file : DirectoryEntry) (members : List DirectoryEntry) :
    Bytes.u16At file.bytes 2 =
      Bytes.u16At ((file :: members).flatMap DirectoryEntry.bytes) 2 := by
  rw [Bytes.u16At, Bytes.u16At, List.flatMap_cons, Bytes.slice_append_left]
  rw [file.length_bytes]
  decide

/-- A byte altered in a number of two bytes changes the number. -/
lemma u16At_ne_of_altered (h : AlteredAtOne (Bytes.slice bytes 2 2) (Bytes.slice others 2 2))
    (hlength : 4 ≤ bytes.length) : Bytes.u16At others 2 ≠ Bytes.u16At bytes 2 := by
  have hothers : 4 ≤ others.length := by
    have heq := h.length_eq
    rw [Bytes.length_slice, Bytes.length_slice] at heq
    omega
  intro heq
  have hfields := congrArg (fun field => LittleEndian.encode 2 field.toNat) heq
  rw [Bytes.encode_u16At hothers, Bytes.encode_u16At hlength] at hfields
  exact h.ne hfields

/-- **A byte altered in checksummed bytes**, with the checksum stored in the third and the fourth of
them.

**Proof sketch.** If the byte is one of these two, the stored checksum changes and the computed one
does not. Otherwise it is the other way round. -/
lemma stored_ne_of_altered (h : AlteredAtOne bytes others) (hlength : 4 ≤ bytes.length)
    (hstored : (Bytes.u16At bytes 2).toNat = Checksum.rotating 16 (checksummed bytes)) :
    (Bytes.u16At others 2).toNat ≠ Checksum.rotating 16 (checksummed others) := by
  have hfield : ∀ list : List UInt8, Bytes.slice list 2 2 = (list.take 4).drop 2 :=
    fun list => (List.drop_take (i := 2) (j := 4) (l := list)).symm
  have hfront : ∀ list : List UInt8, list.take 2 = (list.take 4).take 2 :=
    fun list => (List.take_take (i := 2) (j := 4) (l := list)).symm
  have hcovered (haltered : AlteredAtOne (checksummed bytes) (checksummed others))
      (hsame : Bytes.slice others 2 2 = Bytes.slice bytes 2 2) :
      (Bytes.u16At others 2).toNat ≠ Checksum.rotating 16 (checksummed others) := by
    rw [Bytes.u16At, hsame, ← Bytes.u16At, hstored]
    exact (Checksum.rotating_ne_of_altered (by decide) haltered).symm
  rcases h.take_or_drop 4 with ⟨hhead, htail⟩ | ⟨hhead, htail⟩
  · rcases hhead.take_or_drop 2 with ⟨hbefore, hsame⟩ | ⟨hbefore, hchanged⟩
    · rw [← hfront, ← hfront] at hbefore
      rw [← hfield, ← hfield] at hsame
      refine hcovered ?_ hsame
      rw [checksummed, checksummed, htail]
      exact hbefore.append_right _
    · rw [← hfront, ← hfront] at hbefore
      rw [← hfield, ← hfield] at hchanged
      rw [checksummed, hbefore, htail, ← checksummed, ← hstored]
      exact fun heq => u16At_ne_of_altered hchanged hlength (UInt16.toNat_inj.1 heq)
  · refine hcovered ?_ (by rw [hfield, hfield, hhead])
    rw [checksummed, checksummed, hfront others, hhead, ← hfront]
    exact htail.append_left _

/-- A set with a wrong checksum is refused, whatever else is in it. -/
lemma Node.result_ofSet_of_checksum_ne (map : CaseMap)
    (answer : Inquiry.Respondent Sectors VolumeError)
    (h : (Bytes.u16At file.bytes 2).toNat ≠ setChecksum (file :: members)) :
    (ofSet map (file :: members)).result answer = .error .metadata := by
  match members with
  | [] => rfl
  | [_] => rfl
  | stream :: third :: rest =>
    rw [ofSet, Packed.u16At_eq]
    exact congrArg (Inquiry.result answer) (if_pos h)

/-- A byte that is altered in a set with the right checksum makes it wrong. -/
lemma setChecksum_ne_of_altered
    (hstored : (Bytes.u16At file.bytes 2).toNat = setChecksum (file :: members))
    (h : AlteredAtOne ((file :: members).flatMap DirectoryEntry.bytes)
      ((file' :: members').flatMap DirectoryEntry.bytes)) :
    (Bytes.u16At file'.bytes 2).toNat ≠ setChecksum (file' :: members') := by
  rw [u16At_bytes file members, setChecksum_eq] at hstored
  rw [u16At_bytes file' members', setChecksum_eq]
  refine stored_ne_of_altered h ?_ hstored
  rw [List.flatMap_cons, List.length_append, file.length_bytes]
  exact Nat.le_add_right_of_le (by decide)

end EntrySets

/-! ### Case maps -/

/-- A case map with a wrong checksum is refused. -/
lemma Geometry.result_readCaseMap_of_checksum_ne {geometry : Geometry}
    {answer : Inquiry.Respondent Sectors VolumeError} {root : List DirectoryEntry}
    {entry : DirectoryEntry} {data : ByteArray}
    (hroot : (geometry.readDirectory geometry.rootNode).result answer = .ok root)
    (hentry : caseMapEntry? root = some entry)
    (hdata : (geometry.readData (Bytes.u32At entry.bytes 20) false
      (some (Bytes.u64At entry.bytes 24).toNat)).result answer = .ok data)
    (h : Checksum.rotating 32 data.data.toList ≠ (Bytes.u32At entry.bytes 4).toNat) :
    geometry.readCaseMap.result answer = .error .metadata := by
  rw [readCaseMap, Inquiry.bind_eq, Inquiry.result_bind, hroot]
  dsimp only
  rw [hentry]
  dsimp only
  rw [Inquiry.bind_eq, Inquiry.result_bind, Packed.u32At_eq, Packed.u64At_eq, Packed.u32At_eq]
  dsimp only [DirectoryEntry.bytes] at hdata h
  rw [hdata]
  dsimp only
  rw [if_neg h]
  rfl

/-! ### All three -/

/-- **An altered byte is noticed.** A genuine record is not genuine with one byte altered. A set of
entries with the right checksum has a wrong one with one byte altered, and is refused. Bytes of any
number have another checksum with one byte altered, and the case map is refused if the bytes that
were read are those that its checksum is for, with one byte altered. -/
theorem altered_byte_noticed :
    (∀ bytes others, Record.isValidBytes bytes = true →
      AlteredAtOne (bytes.take 512) (others.take 512) → Record.isValidBytes others = false) ∧
    (∀ (file file' : DirectoryEntry) (members members' : List DirectoryEntry),
      (Bytes.u16At file.bytes 2).toNat = setChecksum (file :: members) →
      AlteredAtOne ((file :: members).flatMap DirectoryEntry.bytes)
        ((file' :: members').flatMap DirectoryEntry.bytes) →
      (Bytes.u16At file'.bytes 2).toNat ≠ setChecksum (file' :: members') ∧
        ∀ map answer, (Node.ofSet map (file' :: members') :
          Inquiry Sectors VolumeError Node).result answer = .error .metadata) ∧
    (∀ bytes others, AlteredAtOne bytes others →
      Checksum.rotating 32 others ≠ Checksum.rotating 32 bytes) ∧
    ∀ (geometry : Geometry) (answer : Inquiry.Respondent Sectors VolumeError)
      (root : List DirectoryEntry) (entry : DirectoryEntry) (data : ByteArray)
      (written : List UInt8),
      (geometry.readDirectory geometry.rootNode).result answer = .ok root →
      Geometry.caseMapEntry? root = some entry →
      (geometry.readData (Bytes.u32At entry.bytes 20) false
        (some (Bytes.u64At entry.bytes 24).toNat)).result answer = .ok data →
      Checksum.rotating 32 written = (Bytes.u32At entry.bytes 4).toNat →
      AlteredAtOne written data.data.toList →
      geometry.readCaseMap.result answer = .error .metadata := by
  refine ⟨fun _ _ hvalid h => Record.isValidBytes_of_altered hvalid h, ?_,
    fun _ _ h => Checksum.rotating_ne_of_altered (by decide) h, ?_⟩
  · intro file file' members members' hstored h
    have hne := setChecksum_ne_of_altered hstored h
    exact ⟨hne, fun map answer => Node.result_ofSet_of_checksum_ne map answer hne⟩
  · intro geometry answer root entry data written hroot hentry hdata hwritten h
    refine Geometry.result_readCaseMap_of_checksum_ne hroot hentry hdata ?_
    rw [← hwritten]
    exact Checksum.rotating_ne_of_altered (by decide) h

/-- Bytes with one of them altered: the last one of a record, the stored checksum of a set, and the
second one of a map whose checksum is in the root directory of a volume. -/
theorem altered_byte_noticed_small :
    let zeros (count : Nat) : List UInt8 := List.replicate count 0
    let record := (Record.create (Vector.replicate 16 7) 1024 1 .ntfs "/a" 0).toBytes
    let file : DirectoryEntry := ⟨⟨([0x85, 2, 0xC6, 0x3A] ++ zeros 28).toArray⟩, rfl⟩
    let file' : DirectoryEntry := ⟨⟨([0x85, 2, 0xC6, 0x3B] ++ zeros 28).toArray⟩, rfl⟩
    let stream : DirectoryEntry := ⟨⟨([0xC0, 1, 0, 1, 0x30, 0x80] ++ zeros 14 ++
      [3, 0, 0, 0, 5, 0, 0, 0, 0, 0, 0, 0]).toArray⟩, rfl⟩
    let name : DirectoryEntry := ⟨⟨([0xC1, 0, 0x61] ++ zeros 29).toArray⟩, rfl⟩
    let mapEntry := [0x82, 0, 0, 0, 0x20, 0, 0, 0x80] ++ zeros 12 ++ [3, 0, 0, 0, 2, 0, 0, 0] ++
      zeros 4
    let sectors : List (List UInt8) := [zeros 8 ++ List.replicate 8 0xFF ++ zeros 496,
      mapEntry ++ zeros 480, [0x41, 1] ++ zeros 510]
    let geometry : Geometry := ⟨9, 0, 1, 1, 2, 2, 2, by decide, by decide⟩
    let answer : Inquiry.Respondent Sectors VolumeError := fun address =>
      .ok ⟨(sectors.getD (address.number - 1) []).toArray⟩
    (Record.isValidBytes record = true ∧ Record.isValidBytes (record.set 511 1) = false) ∧
    ((Bytes.u16At file.bytes 2).toNat = setChecksum [file, stream, name] ∧
      (Node.ofSet ⟨#[]⟩ [file', stream, name] : Inquiry Sectors VolumeError Node).result answer =
        .error .metadata) ∧
    Checksum.rotating 32 [0x41, 1] ≠ Checksum.rotating 32 [0x41, 0] ∧
    geometry.readCaseMap.result answer = .error .metadata := by
  intro zeros record file file' stream name mapEntry sectors geometry answer
  obtain ⟨hrecords, hsets, hlists, hmaps⟩ := altered_byte_noticed
  have hvalid : Record.isValidBytes record = true :=
    (List.append_nil record) ▸ Record.isValidBytes_sealed_append rfl []
  have hstored : (Bytes.u16At file.bytes 2).toNat = setChecksum [file, stream, name] := by
    decide +kernel
  refine ⟨⟨hvalid, hrecords record _ hvalid ?_⟩, ⟨hstored, ?_⟩,
    hlists _ _ ⟨1, by decide, 1, by decide, rfl⟩, ?_⟩
  · exact ⟨511, by simp [record], 1, by decide +kernel, List.take_set⟩
  · exact (hsets file file' [stream, name] [stream, name] hstored
      ⟨3, by decide, 0x3B, by decide, by decide +kernel⟩).2 _ _
  · have hrun : ((do
        let root ← geometry.readDirectory geometry.rootNode
        return Geometry.caseMapEntry? root :
          Inquiry Sectors VolumeError _).result answer).toOption =
        some (some ⟨⟨mapEntry.toArray⟩, rfl⟩) := by decide +kernel
    obtain ⟨root, hroot, hend⟩ := Inquiry.result_bind_eq_ok.1 (eq_ok_of_toOption_eq_some hrun)
    refine hmaps geometry _ root ⟨⟨mapEntry.toArray⟩, rfl⟩ ⟨#[0x41, 1]⟩ [0x41, 0] hroot
      (Except.ok.inj hend) ?_ ?_ ?_
    · exact eq_ok_of_toOption_eq_some (by decide +kernel)
    · decide +kernel
    · exact ⟨1, by decide, 1, by decide, rfl⟩

end BootExtents
