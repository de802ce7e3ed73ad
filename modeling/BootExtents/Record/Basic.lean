import BootExtents.Bytes.Checksum
import BootExtents.Bytes.LittleEndian
import BootExtents.Filesystem
import BootExtents.Identity
import BootExtents.Text.Utf8

/-!
# The runtime parameter record

The boot stage leaves a packed record of 512 bytes for the system it starts: which disk and which
partition hold the boot image, under which path, and where a copy of the image's location may be
found. A record is trusted if it starts with the identity of the boot stage and all its bytes sum
to zero.

## Main definitions

* `BootExtents.Record` — the fields of a record, in the order of their bytes.
* `BootExtents.Record.toBytes`, `ofBytes?` — the layout.
* `BootExtents.Record.isValidBytes`, `parse?` — the check, and reading behind it.
* `BootExtents.Record.sealed` — the record with the checksum that makes it sum to zero.
* `BootExtents.Record.create`, `withSnapshot` — sealed records.
* `BootExtents.Record.imagePath` — the path of the image, as text.

## Main results

* `BootExtents.Record.length_toBytes` — a record has 512 bytes.
* `BootExtents.Record.byteSum_sealed` — a sealed record sums to zero.
-/

set_option relaxedAutoImplicit false
set_option autoImplicit false

namespace BootExtents

/-- The parameters that the boot stage hands over. -/
structure Record where
  /-- The identity of the boot stage, if the record is genuine. -/
  identity : Identity
  /-- The byte that makes all bytes sum to zero, if the record is sealed. -/
  checksum : UInt8
  /-- The identity of the disk that holds the image. -/
  diskIdentity : Identity
  /-- The size of that disk in bytes. -/
  diskSize : UInt64
  /-- The number of the partition on that disk, from 1. -/
  partitionIndex : UInt16
  /-- The code of the partition's filesystem. -/
  filesystemCode : UInt16
  /-- The path of the image in UTF-8, ended by a zero byte. -/
  path : Vector UInt8 384
  /-- The size of the image in bytes. -/
  imageSize : UInt64
  /-- The physical address of a copy of the image's location, or zero. -/
  snapshotAddress : UInt64
  /-- The length of that copy in bytes, or zero. -/
  snapshotLength : UInt32
  /-- Bytes without meaning, kept as they are. -/
  reserved : Vector UInt8 63
deriving DecidableEq

namespace Record

/-- The number of bytes of a record. -/
def byteCount : Nat := 512

/-! ### Layout -/

/-- The bytes of a record: its fields in order, numbers in little-endian form. -/
def toBytes (record : Record) : List UInt8 :=
  record.identity.toList ++ ([record.checksum] ++ (record.diskIdentity.toList ++
    (LittleEndian.encode 8 record.diskSize.toNat ++
    (LittleEndian.encode 2 record.partitionIndex.toNat ++
    (LittleEndian.encode 2 record.filesystemCode.toNat ++ (record.path.toList ++
    (LittleEndian.encode 8 record.imageSize.toNat ++
    (LittleEndian.encode 8 record.snapshotAddress.toNat ++
    (LittleEndian.encode 4 record.snapshotLength.toNat ++ record.reserved.toList)))))))))

/-- The record that the first 512 bytes stand for, genuine or not. -/
def ofBytes? (bytes : List UInt8) : Option Record :=
  (Bytes.slice? bytes 0 byteCount).map fun raw =>
    { identity := Bytes.blockAt raw 0 16
      checksum := raw.getD 16 0
      diskIdentity := Bytes.blockAt raw 17 16
      diskSize := Bytes.u64At raw 33
      partitionIndex := Bytes.u16At raw 41
      filesystemCode := Bytes.u16At raw 43
      path := Bytes.blockAt raw 45 384
      imageSize := Bytes.u64At raw 429
      snapshotAddress := Bytes.u64At raw 437
      snapshotLength := Bytes.u32At raw 445
      reserved := Bytes.blockAt raw 449 63 }

/-- Every record takes 512 bytes. -/
@[simp] theorem length_toBytes (record : Record) : record.toBytes.length = 512 := by
  simp [toBytes]

/-! ### Trust -/

/-- Whether bytes start with a genuine record: 512 bytes that start with the identity of the boot
stage and sum to zero. -/
def isValidBytes (bytes : List UInt8) : Bool :=
  bootIdentity.toList.isPrefixOf bytes && (bytes.take byteCount).length == byteCount &&
    Checksum.byteSum (bytes.take byteCount) == 0

/-- The genuine record that bytes start with. -/
def parse? (bytes : List UInt8) : Option Record :=
  if isValidBytes bytes then ofBytes? bytes else none

/-- Whether a record is genuine. -/
def isValid (record : Record) : Bool :=
  isValidBytes record.toBytes

/-- The record with the checksum that makes its bytes sum to zero. -/
def sealed (record : Record) : Record :=
  { record with checksum := 0 - Checksum.byteSum { record with checksum := 0 }.toBytes }

/-- All bytes of a sealed record sum to zero. -/
theorem byteSum_sealed (record : Record) : Checksum.byteSum record.sealed.toBytes = 0 := by
  simp only [sealed, toBytes, Checksum.byteSum_append, Checksum.byteSum_cons, Checksum.byteSum_nil]
  generalize Checksum.byteSum record.identity.toList = a
  generalize Checksum.byteSum record.diskIdentity.toList + _ = b
  grind

/-! ### Making records -/

/-- The field that holds a path: at most 383 of its bytes, then zeros. -/
def pathField (path : String) : Vector UInt8 384 :=
  Bytes.blockAt ((Text.Utf8.encode path).take 383) 0 384

/-- A sealed record of an image, without a copy of its location. -/
def create (diskIdentity : Identity) (diskSize : UInt64) (partitionIndex : UInt16)
    (filesystem : FilesystemKind) (path : String) (imageSize : UInt64) : Record :=
  sealed
    { identity := bootIdentity
      checksum := 0
      diskIdentity, diskSize, partitionIndex
      filesystemCode := filesystem.code
      path := pathField path
      imageSize
      snapshotAddress := 0
      snapshotLength := 0
      reserved := Vector.replicate 63 0 }

/-- The sealed record that tells of a copy of the image's location. -/
def withSnapshot (record : Record) (address : UInt64) (length : UInt32) : Record :=
  sealed { record with snapshotAddress := address, snapshotLength := length }

/-! ### Reading fields -/

/-- The kind of the partition's filesystem. -/
def filesystem (record : Record) : FilesystemKind :=
  .ofCode record.filesystemCode

/-- The path of the image: the field up to its first zero byte, what is no UTF-8 replaced. -/
def imagePath (record : Record) : String :=
  Text.Utf8.lossy (record.path.toList.takeWhile (· ≠ 0))

/-- Whether the record tells of a copy of the image's location. -/
def hasSnapshot (record : Record) : Bool :=
  record.snapshotAddress ≠ 0 && record.snapshotLength ≠ 0

end Record

end BootExtents
