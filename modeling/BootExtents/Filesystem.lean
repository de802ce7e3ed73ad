/-!
# Kinds of filesystem

The filesystem of the partition that holds the image, as the record names it by a 16-bit code.

## Main definitions

* `BootExtents.FilesystemKind` — the kinds, with a place for codes that name none.
* `BootExtents.FilesystemKind.ofCode`, `code` — the numbering.
* `BootExtents.FilesystemKind.name`, `label` — the spelling in reports, and in descriptions.
-/

set_option relaxedAutoImplicit false
set_option autoImplicit false

namespace BootExtents

/-- A kind of filesystem. -/
inductive FilesystemKind where
  | exfat
  | ntfs
  | ext
  | xfs
  | udf
  | fat
  /-- A code that names no kind. -/
  | unknown (code : UInt16)
deriving DecidableEq, Repr, Inhabited

namespace FilesystemKind

/-- The kind that a code names. -/
def ofCode (code : UInt16) : FilesystemKind :=
  if code = 0 then exfat
  else if code = 1 then ntfs
  else if code = 2 then ext
  else if code = 3 then xfs
  else if code = 4 then udf
  else if code = 5 then fat
  else unknown code

/-- The code of a kind. -/
def code : FilesystemKind → UInt16
  | exfat => 0
  | ntfs => 1
  | ext => 2
  | xfs => 3
  | udf => 4
  | fat => 5
  | unknown code => code

/-- The name of a kind in reports and messages. -/
def name : FilesystemKind → String
  | exfat => "exfat"
  | ntfs => "ntfs"
  | ext => "ext"
  | xfs => "xfs"
  | udf => "udf"
  | fat => "fat"
  | unknown _ => "unknown"

/-- The label of a kind in descriptions, which keeps an unknown code. -/
def label : FilesystemKind → String
  | exfat => "ExFAT"
  | ntfs => "NTFS"
  | ext => "Ext"
  | xfs => "XFS"
  | udf => "UDF"
  | fat => "FAT"
  | unknown code => s!"Unknown({code})"

/-- A kind found by its code keeps that code. -/
@[simp] theorem code_ofCode (value : UInt16) : (ofCode value).code = value := by
  unfold ofCode
  repeat' split
  all_goals simp_all [code]

end FilesystemKind

end BootExtents
