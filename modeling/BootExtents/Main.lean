import BootExtents.CommandLine

/-!
# The program

Prints the parameters that the boot stage left on the running machine, and where the image lies.
Everything but reading files and printing is done by the library.
-/

set_option relaxedAutoImplicit false
set_option autoImplicit false

namespace BootExtents.Program

/-- The cause of a failed read. -/
def cause : IO.Error → IoError
  | .noFileOrDirectory .. => .notFound
  | .permissionDenied .. => .device .permissionDenied "Permission denied (os error 13)"
  | .inappropriateType _ 20 _ => .notADirectory
  | .inappropriateType _ 21 _ => .isADirectory
  | .invalidArgument _ 36 _ => .nameTooLong
  | error => .device .other (toString error)

/-- An answer about a path, whose failure is a value. -/
def caught {α : Type} (path : String) (action : IO α) : IO (Except IoError α) := do
  if let some fault := Path.fault? path then
    return .error fault
  try
    return .ok (← action)
  catch error =>
    return .error (cause error)

/-- How many bytes are read at once. -/
def chunkSize : Nat := 1048576

/-- Reads from a file until `count` bytes are read or the file ends, and gives what was read if it
is to be kept, and how much it was. -/
partial def readUpTo (handle : IO.FS.Handle) (count : Nat) (keep : Bool) (sofar : ByteArray)
    (done : Nat) : IO (ByteArray × Nat) := do
  if count ≤ done then
    return (sofar, done)
  let bytes ← handle.read (min chunkSize (count - done)).toUSize
  if bytes.isEmpty then
    return (sofar, done)
  readUpTo handle count keep (if keep then sofar ++ bytes else sofar) (done + bytes.size)

/-- A range of bytes of a file. -/
def readSlice (path : String) (position length : Nat) : IO (Except IoError ByteArray) := do
  let handle ← IO.FS.Handle.mk path .read
  let (_, skipped) ← readUpTo handle position false .empty 0
  if skipped < position then
    return .error .endOfFile
  let (bytes, found) ← readUpTo handle length true .empty 0
  if found < length then
    return .error .endOfFile
  return .ok bytes

/-- The number of bytes of a file or device. -/
def endOf (path : String) : IO Nat := do
  let handle ← IO.FS.Handle.mk path .read
  return (← readUpTo handle positionLimit false .empty 0).2

/-- The number of bytes of a file that can be opened and is no device. -/
def sizeOf (path : String) : IO (Option Nat) := do
  let _ ← IO.FS.Handle.mk path .read
  let metadata ← ((← IO.currentDir) / path).metadata
  return match metadata.type with
    | .file => some metadata.byteSize.toNat
    | _ => none

/-- The names in a directory. -/
def namesIn (path : String) : IO (List String) := do
  return (← ((← IO.currentDir) / path).readDir).toList.map (·.fileName)

/-- The answers of the running machine. -/
def answer : (question : Files.Question) → IO (Files.Answer question)
  | .isThere path => do
    return (← caught path ((← IO.currentDir) / path).metadata).isOk
  | .read path => caught path (IO.FS.readBinFile path)
  | .list path => caught path (namesIn path)
  | .ordinarySize path => caught path (sizeOf path)
  | .length path => caught path (endOf path)
  | .slice path position length => do
    match ← caught path (readSlice path position length) with
    | .ok answer => return answer
    | .error error => return .error error

/-- Tells a warning. -/
def tell (quiet : Bool) (warning : Warning) : IO Unit :=
  if quiet then pure () else IO.eprintln ("warning: " ++ warning.message)

/-- Does what the command line says; whether it succeeded. -/
def run (line : CommandLine) : IO Bool := do
  let printout : Inquiry Files Error Printout := Platform.live.dump line.mode line.file
  match ← printout.runM answer (tell line.quiet) with
  | .error error =>
    IO.eprintln error.message
    return false
  | .ok printed =>
    IO.print printed.text
    match printed.error with
    | none => return true
    | some error =>
      IO.eprintln error.message
      return false

end BootExtents.Program

/-- Runs the program with the arguments given. -/
def main (arguments : List String) : IO UInt32 := do
  match BootExtents.CommandLine.ofArguments arguments with
  | .error error =>
    IO.eprintln error.message
    return 2
  | .ok line =>
    return if ← BootExtents.Program.run line then 0 else 1
