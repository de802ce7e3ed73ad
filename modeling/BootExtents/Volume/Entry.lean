import BootExtents.Bytes.Checksum
import BootExtents.Bytes.Packed

/-!
# Directory entries

A directory is a row of entries of 32 bytes. The first byte tells whether the entry is in use and
of which kind it is; zero ends the directory.

## Main definitions

* `BootExtents.DirectoryEntry` — the 32 bytes.
* `BootExtents.EntryKind` — the kinds, and their codes.
* `BootExtents.DirectoryEntry.ofBytes` — the entries of a directory's bytes.
* `BootExtents.DirectoryEntry.isEnd`, `isInUse`, `kind?`, `is` — what the first byte tells.
* `BootExtents.setChecksum` — the checksum of a set of entries.
* `BootExtents.nameHash` — the hash of a name.
-/

set_option relaxedAutoImplicit false
set_option autoImplicit false

namespace BootExtents

/-- The number of bytes of an entry. -/
abbrev entrySize : Nat := 32

/-- An entry. -/
structure DirectoryEntry where
  /-- The bytes. -/
  block : ByteArray
  /-- There are as many as an entry has. -/
  size_block : block.size = entrySize

/-- Entries of the same bytes are the same. -/
theorem DirectoryEntry.eq_of_data_eq {entry other : DirectoryEntry}
    (h : entry.block.data = other.block.data) : entry = other := by
  cases entry
  cases other
  cases ByteArray.ext h
  rfl

/-- Entries are compared byte by byte. -/
instance : DecidableEq DirectoryEntry := fun _ _ =>
  decidable_of_decidable_of_iff ⟨DirectoryEntry.eq_of_data_eq, fun h => h ▸ rfl⟩

/-- The kinds of entries. -/
inductive EntryKind where
  | allocationBitmap
  | caseMap
  | volumeLabel
  | file
  | volumeGuid
  | texfatPadding
  | stream
  | name
  | vendorExtension
  | vendorAllocation
deriving DecidableEq, Repr, Inhabited

namespace EntryKind

/-- The code of a kind, in the low seven bits of an entry's first byte. -/
def code : EntryKind → UInt8
  | allocationBitmap => 0x01
  | caseMap => 0x02
  | volumeLabel => 0x03
  | file => 0x05
  | volumeGuid => 0x20
  | texfatPadding => 0x21
  | stream => 0x40
  | name => 0x41
  | vendorExtension => 0x60
  | vendorAllocation => 0x61

/-- All kinds. -/
def all : List EntryKind :=
  [allocationBitmap, caseMap, volumeLabel, file, volumeGuid, texfatPadding, stream, name,
    vendorExtension, vendorAllocation]

/-- The kind that has a code. -/
def ofCode? (value : UInt8) : Option EntryKind :=
  all.find? (·.code = value)

/-- The code of a kind tells the kind. -/
@[simp] theorem ofCode?_code (kind : EntryKind) : ofCode? kind.code = some kind := by
  cases kind <;> decide

end EntryKind

namespace DirectoryEntry

/-- The entries of a directory's bytes; an incomplete one at the end is left out. -/
def ofBytes (bytes : ByteArray) : List DirectoryEntry :=
  List.ofFn fun place : Fin (bytes.size / entrySize) =>
    { block := bytes.extract (place * entrySize) (place * entrySize + entrySize)
      size_block := by
        have := Nat.div_mul_le_self bytes.size entrySize
        have := Nat.mul_le_mul_right entrySize (Nat.succ_le_of_lt place.isLt)
        rw [ByteArray.size_extract, Nat.succ_mul] at *
        omega }

/-- The bytes of an entry. -/
def bytes (entry : DirectoryEntry) : List UInt8 :=
  entry.block.data.toList

/-- A byte of an entry, by its place. -/
def byteAt (entry : DirectoryEntry) (place : Nat) (h : place < entrySize := by decide) : UInt8 :=
  have := entry.size_block
  entry.block[place]

/-- The first byte of an entry. -/
def type (entry : DirectoryEntry) : UInt8 :=
  entry.byteAt 0

/-- Every entry has 32 bytes. -/
@[simp] theorem length_bytes (entry : DirectoryEntry) : entry.bytes.length = entrySize := by
  rw [← entry.size_block]
  rfl

/-- Whether the directory ends here. -/
def isEnd (entry : DirectoryEntry) : Bool :=
  entry.type = 0

/-- Whether the entry is in use. -/
def isInUse (entry : DirectoryEntry) : Bool :=
  0x80 ≤ entry.type

/-- The kind of the entry, if it has one. -/
def kind? (entry : DirectoryEntry) : Option EntryKind :=
  EntryKind.ofCode? (entry.type &&& 0x7F)

/-- Whether the entry is in use and of a kind. -/
def is (entry : DirectoryEntry) (kind : EntryKind) : Bool :=
  entry.isInUse && entry.kind? = some kind

end DirectoryEntry

/-- The checksum of a set of entries: the rotating sum of all bytes but the two of the first entry
where the checksum itself is stored. -/
def setChecksum : List DirectoryEntry → Nat
  | [] => 0
  | first :: others =>
    Checksum.rotating 16
      (first.bytes.take 2 ++ (first.bytes.drop 4 ++ others.flatMap DirectoryEntry.bytes))

/-- The hash of the units of a name in upper case: the rotating sum of their bytes. -/
def nameHash (units : List UInt16) : Nat :=
  Checksum.rotating 16 (units.flatMap fun unit => LittleEndian.encode 2 unit.toNat)

end BootExtents
