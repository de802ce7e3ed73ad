import BootExtents.Proofs.Bytes.Fields
import BootExtents.Record.Basic
import Mathlib

/-!
# The stored form of a record loses nothing

A record that was written is read, whatever follows its 512 bytes, and a record that was read is
written as those bytes. A sealed record with the identity of the boot stage is genuine.

## Main definitions

* `BootExtents.Record.fields` — the bytes of each field.

## Main results

* `BootExtents.Record.ofBytes?_toBytes_append` — what was written is read.
* `BootExtents.Record.toBytes_of_ofBytes?_eq_some` — what was read is written as it stood.
* `BootExtents.Record.isValidBytes_sealed_append` — a sealed record of the boot stage is genuine.
* `BootExtents.Record.parse?_sealed_append` — so it is found where it was written.
-/

set_option relaxedAutoImplicit false
set_option autoImplicit false

namespace BootExtents.Record

/-- The bytes of the fields of a record. -/
def fields (record : Record) : List (List UInt8) :=
  [record.identity.toList, [record.checksum], record.diskIdentity.toList,
    LittleEndian.encode 8 record.diskSize.toNat,
    LittleEndian.encode 2 record.partitionIndex.toNat,
    LittleEndian.encode 2 record.filesystemCode.toNat, record.path.toList,
    LittleEndian.encode 8 record.imageSize.toNat,
    LittleEndian.encode 8 record.snapshotAddress.toNat,
    LittleEndian.encode 4 record.snapshotLength.toNat, record.reserved.toList]

/-- The fields of a record, one behind the other, are its bytes. -/
lemma flatten_fields (record : Record) : record.fields.flatten = record.toBytes := by
  simp [fields, toBytes]

/-- A field lies in the bytes of a record as far behind as the fields before it are long. -/
lemma slice_toBytes {record : Record} {offset size : Nat} {field : List UInt8} (index : Nat)
    (hfield : record.fields[index]? = some field)
    (hoffset : ((record.fields.take index).map List.length).sum = offset)
    (hsize : field.length = size) : Bytes.slice record.toBytes offset size = field := by
  rw [← flatten_fields]
  exact Bytes.slice_flatten hfield hoffset hsize

/-- **What was written is read**, whatever follows it.

**Proof sketch.** Each field lies where the fields before it end. -/
theorem ofBytes?_toBytes_append (record : Record) (rest : List UInt8) :
    ofBytes? (record.toBytes ++ rest) = some record := by
  have hfront : Bytes.slice (record.toBytes ++ rest) 0 byteCount = record.toBytes :=
    Bytes.slice_zero_append rest record.length_toBytes
  have hraw : Bytes.slice? (record.toBytes ++ rest) 0 byteCount = some record.toBytes := by
    rw [Bytes.slice?, hfront, if_pos ⟨record.length_toBytes, Nat.zero_le _⟩]
  have hchecksum : record.toBytes.getD 16 0 = record.checksum := by
    simp [toBytes, List.getD]
  rw [ofBytes?, hraw, Option.map_some, hchecksum,
    Bytes.blockAt_of_slice (slice_toBytes 0 rfl (by simp) (by simp)),
    Bytes.blockAt_of_slice (slice_toBytes 2 rfl (by simp [fields]) (by simp)),
    Bytes.u64At_of_slice (slice_toBytes 3 rfl (by simp [fields]) (by simp)),
    Bytes.u16At_of_slice (slice_toBytes 4 rfl (by simp [fields]) (by simp)),
    Bytes.u16At_of_slice (slice_toBytes 5 rfl (by simp [fields]) (by simp)),
    Bytes.blockAt_of_slice (slice_toBytes 6 rfl (by simp [fields]) (by simp)),
    Bytes.u64At_of_slice (slice_toBytes 7 rfl (by simp [fields]) (by simp)),
    Bytes.u64At_of_slice (slice_toBytes 8 rfl (by simp [fields]) (by simp)),
    Bytes.u32At_of_slice (slice_toBytes 9 rfl (by simp [fields]) (by simp)),
    Bytes.blockAt_of_slice (slice_toBytes 10 rfl (by simp [fields]) (by simp))]

/-- **What was read is written as it stood.**

**Proof sketch.** Each field of the record is written as the slice that it was read from, and the
slices follow one another. -/
theorem toBytes_of_ofBytes?_eq_some {bytes : List UInt8} {record : Record}
    (h : ofBytes? bytes = some record) : record.toBytes = bytes.take byteCount := by
  obtain ⟨raw, hraw, rfl⟩ := Option.map_eq_some_iff.1 h
  rw [Bytes.slice?, Option.ite_none_right_eq_some] at hraw
  obtain ⟨⟨hlength, -⟩, hraw⟩ := hraw
  obtain rfl := Option.some.inj hraw
  have hall : bytes.take byteCount = Bytes.slice (Bytes.slice bytes 0 byteCount) 0
      (16 + (1 + (16 + (8 + (2 + (2 + (384 + (8 + (8 + (4 + 63)))))))))) := by
    rw [Bytes.slice, Bytes.slice, List.drop_zero, List.drop_zero, List.take_take]
    rfl
  replace hlength : (Bytes.slice bytes 0 byteCount).length = 512 := hlength
  rw [toBytes, Bytes.toList_blockAt (by omega), Bytes.singleton_getD (by omega),
    Bytes.toList_blockAt (by omega), Bytes.encode_u64At (by omega), Bytes.encode_u16At (by omega),
    Bytes.encode_u16At (by omega), Bytes.toList_blockAt (by omega), Bytes.encode_u64At (by omega),
    Bytes.encode_u64At (by omega), Bytes.encode_u32At (by omega), Bytes.toList_blockAt (by omega)]
  iterate 10 rw [Bytes.slice_add] at hall
  exact hall.symm

/-- **A sealed record of the boot stage is genuine**, whatever follows it. -/
theorem isValidBytes_sealed_append {record : Record} (h : record.identity = bootIdentity)
    (rest : List UInt8) : isValidBytes (record.sealed.toBytes ++ rest) = true := by
  have htake : (record.sealed.toBytes ++ rest).take byteCount = record.sealed.toBytes :=
    List.take_left' record.sealed.length_toBytes
  have hidentity : bootIdentity.toList <+: record.sealed.toBytes ++ rest := by
    rw [← h]
    exact (List.prefix_append _ _).trans (List.prefix_append _ rest)
  rw [isValidBytes, htake, List.isPrefixOf_iff_prefix.2 hidentity, length_toBytes,
    byteSum_sealed]
  decide

/-- So it is found where it was written. -/
theorem parse?_sealed_append {record : Record} (h : record.identity = bootIdentity)
    (rest : List UInt8) : parse? (record.sealed.toBytes ++ rest) = some record.sealed := by
  rw [parse?, if_pos (isValidBytes_sealed_append h rest), ofBytes?_toBytes_append]

end BootExtents.Record
