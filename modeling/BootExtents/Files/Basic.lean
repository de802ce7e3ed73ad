import BootExtents.Files.Path
import BootExtents.Inquiry.Basic

/-!
# Files of a machine

What the parts of this library that look at a running machine ask of its files. Devices and the
kernel's virtual files are files like others. An answer that fails says why, and the inquiry may go
on.

## Main definitions

* `BootExtents.Path.fault?` — why a path leads nowhere, whatever files there are.
* `BootExtents.FileQuestion` — the questions.
* `BootExtents.Files` — the interface.
* `BootExtents.Files.isThere`, `read`, `list`, `ordinarySize`, `length`, `slice` — the questions as
  inquiries that fail where the answer does.
-/

set_option relaxedAutoImplicit false
set_option autoImplicit false

namespace BootExtents

/-- Why a path leads nowhere, whatever files there are. -/
def Path.fault? (path : String) : Option IoError :=
  if path.toList.contains '\x00' then some .nulInPath
  else if path = "" then some .notFound
  else if maxSize < path.utf8ByteSize then some .nameTooLong
  else none

/-- What is asked about a file. -/
inductive FileQuestion where
  /-- Is there anything at a path? -/
  | isThere (path : String)
  /-- The whole content of a file. -/
  | read (path : String)
  /-- The names in a directory, in any order. -/
  | list (path : String)
  /-- Can a file be opened, and how many bytes has it if it is an ordinary one and no device? -/
  | ordinarySize (path : String)
  /-- Where does a file or device end? -/
  | length (path : String)
  /-- A range of bytes of a file, all or nothing. -/
  | slice (path : String) (position length : Nat)
deriving DecidableEq, Repr

/-- The files of a machine. -/
def Files : Interface where
  Question := FileQuestion
  Answer
    | .isThere _ => Bool
    | .read _ => Except IoError ByteArray
    | .list _ => Except IoError (List String)
    | .ordinarySize _ => Except IoError (Option Nat)
    | .length _ => Except IoError Nat
    | .slice _ _ _ => Except IoError ByteArray

namespace Files

variable {ε : Type}

/-- An answer as the end of an inquiry. -/
def ofAnswer {α : Type} : Except IoError α → Inquiry Files Error α
  | .ok value => .done value
  | .error error => .fail (.io error)

/-- Whether there is anything at a path. -/
def isThere (path : String) : Inquiry Files ε Bool :=
  .ask (I := Files) (.isThere path) .done

/-- The whole content of a file. -/
def read (path : String) : Inquiry Files Error ByteArray :=
  .ask (I := Files) (.read path) ofAnswer

/-- The names in a directory, in any order. -/
def list (path : String) : Inquiry Files Error (List String) :=
  .ask (I := Files) (.list path) ofAnswer

/-- The number of bytes of an ordinary file, `none` for a device, once it can be opened. -/
def ordinarySize (path : String) : Inquiry Files Error (Option Nat) :=
  .ask (I := Files) (.ordinarySize path) ofAnswer

/-- Where a file or device ends. -/
def length (path : String) : Inquiry Files Error Nat :=
  .ask (I := Files) (.length path) ofAnswer

/-- The `length` bytes of a file from `position` on. -/
def slice (path : String) (position length : Nat) : Inquiry Files Error ByteArray :=
  .ask (I := Files) (.slice path position length) ofAnswer

end Files

end BootExtents
