import BootExtents.Proofs.Record.Codec
import BootExtents.Proofs.Text.Utf8
import Mathlib

/-!
# The path of an image in a record

A record has room for 383 bytes of a path and ends it with a zero byte. A path is read up to its
first character of code zero. What is longer is cut off, and a character that is cut in two is read
as the replacement.

## Main definitions

* `BootExtents.Record.storable` — the characters of a path that can be stored.

## Main results

* `BootExtents.Record.takeWhile_pathField` — the bytes that a path is read from.
* `BootExtents.Record.imagePath_create` — the path and the other fields of a new record.
-/

set_option relaxedAutoImplicit false
set_option autoImplicit false

namespace BootExtents.Record

open Text.Utf8

/-- The characters of a path up to the first one of code zero. -/
def storable (path : String) : List Char :=
  path.toList.takeWhile (· ≠ '\x00')

/-- The field of a path is read as the bytes of the storable characters, the first 383 of them. The
zeros behind them, and one at least is there, end the path. -/
lemma takeWhile_pathField (path : String) :
    (pathField path).toList.takeWhile (· ≠ 0) =
      ((storable path).flatMap String.utf8EncodeChar).take 383 := by
  have hlength : ((encode path).take 383).length ≤ 383 := List.length_take_le _ _
  obtain ⟨zeros, hzeros⟩ : ∃ zeros, 384 - ((encode path).take 383).length = zeros + 1 :=
    Nat.exists_eq_succ_of_ne_zero (by omega)
  have hfield : (pathField path).toList = (encode path).take 383 ++ 0 :: List.replicate zeros 0 := by
    have hslice : Bytes.slice ((encode path).take 383) 0 384 = (encode path).take 383 :=
      List.take_of_length_le (by rw [List.drop_zero]; omega)
    rw [pathField, Bytes.blockAt, Vector.toList_mk, hslice, hzeros, List.replicate_succ]
  rw [hfield, storable, ← takeWhile_flatMap, List.take_takeWhile, List.takeWhile_append,
    List.takeWhile_cons_of_neg (by decide), List.append_nil]
  split_ifs with hall
  · exact (List.takeWhile_prefix _).eq_of_length hall |>.symm
  · rfl

/-- **The path and the other fields of a new record.** The storable characters of a path are read
back if they have at most 383 bytes. Otherwise the longest start of them that has room is, with one
replacement behind it if it does not use up the room. The record is genuine, and it has the other
parameters as they were given. The kind of the filesystem is one of them if it was found by its
code. -/
theorem imagePath_create (diskIdentity : Identity) (diskSize : UInt64) (partitionIndex : UInt16)
    (kind : FilesystemKind) (path : String) (imageSize : UInt64) :
    (∃ front, IsLongestFit 383 (storable path) front ∧
      (create diskIdentity diskSize partitionIndex kind path imageSize).imagePath =
        String.ofList (if size (storable path) ≤ 383 then storable path
          else front ++ if size front < 383 then [Text.Utf16.replacement] else [])) ∧
      (create diskIdentity diskSize partitionIndex kind path imageSize).isValid = true ∧
      (create diskIdentity diskSize partitionIndex kind path imageSize).diskIdentity =
        diskIdentity ∧
      (create diskIdentity diskSize partitionIndex kind path imageSize).diskSize = diskSize ∧
      (create diskIdentity diskSize partitionIndex kind path imageSize).partitionIndex =
        partitionIndex ∧
      (create diskIdentity diskSize partitionIndex kind path imageSize).imageSize = imageSize ∧
      ∀ code, (create diskIdentity diskSize partitionIndex (.ofCode code) path
        imageSize).filesystem = .ofCode code := by
  refine ⟨⟨fit 383 (storable path), isLongestFit_fit _ _, ?_⟩, ?_, rfl, rfl, rfl, rfl,
    fun code => ?_⟩
  · have hpath : (create diskIdentity diskSize partitionIndex kind path imageSize).imagePath =
        lossy ((pathField path).toList.takeWhile (· ≠ 0)) := rfl
    rw [hpath, takeWhile_pathField, lossy_take]
  · rw [isValid, ← List.append_nil (toBytes _)]
    exact isValidBytes_sealed_append rfl []
  · exact congrArg FilesystemKind.ofCode (FilesystemKind.code_ofCode code)

end BootExtents.Record
