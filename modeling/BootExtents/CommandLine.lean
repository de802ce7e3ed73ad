import BootExtents.Dump

/-!
# The command line

Options are single letters behind a hyphen, several of which may stand together, or words behind
two hyphens.

## Main definitions

* `BootExtents.CommandLine` — what the options say.
* `BootExtents.CommandLine.ofArguments` — reading the arguments.
* `BootExtents.CommandLine.mode` — what is to be printed.
-/

set_option relaxedAutoImplicit false
set_option autoImplicit false

namespace BootExtents

/-- What the options say. -/
structure CommandLine where
  /-- Nothing is to be told but the failure that ends the work. -/
  quiet : Bool
  /-- The table of the image is wanted behind the parameters. -/
  location : Bool
  /-- The table of the image is wanted alone. -/
  locationOnly : Bool
  /-- Only whether there is a record is wanted. -/
  check : Bool
  /-- The file that holds the record. -/
  file : Option String
deriving DecidableEq, Repr, Inhabited

/-- What is wrong with the arguments. -/
inductive UsageError where
  /-- There is no such option. -/
  | unexpected (argument : String)
  /-- The option needs a value. -/
  | missingValue (option : String)
  /-- The two options exclude each other. -/
  | conflict (option other : String)
deriving DecidableEq, Repr, Inhabited

/-- The message about wrong arguments. -/
def UsageError.message : UsageError → String
  | .unexpected argument => s!"unexpected argument '{argument}'"
  | .missingValue option => s!"option '{option}' needs a value"
  | .conflict option other => s!"option '{option}' cannot be used with '{other}'"

namespace CommandLine

/-- No options. -/
def none : CommandLine :=
  { quiet := false, location := false, locationOnly := false, check := false,
    file := Option.none }

/-- Sets the options of single letters that take no value. The letter `v` asks for more detail; as
all there is to tell is told anyway, it changes nothing. -/
def setLetters (line : CommandLine) : List Char → Option CommandLine
  | [] => some line
  | 'q' :: letters => setLetters { line with quiet := true } letters
  | 'v' :: letters => setLetters line letters
  | 'l' :: letters => setLetters { line with location := true } letters
  | 'L' :: letters => setLetters { line with locationOnly := true } letters
  | 'c' :: letters => setLetters { line with check := true } letters
  | _ => Option.none

/-- Sets the options that arguments name. -/
def addArguments (line : CommandLine) : List String → Except UsageError CommandLine
  | [] =>
    if line.location && line.locationOnly then .error (.conflict "-l" "-L") else .ok line
  | argument :: others =>
    if argument = "-f" ∨ argument = "--file" then
      match others with
      | [] => .error (.missingValue argument)
      | path :: others => addArguments { line with file := some path } others
    else if argument = "--quiet" then
      addArguments { line with quiet := true } others
    else if argument = "--check" then
      addArguments { line with check := true } others
    else
      match argument.toList with
      | '-' :: letter :: letters =>
        match line.setLetters (letter :: letters) with
        | some line => addArguments line others
        | Option.none => .error (.unexpected argument)
      | _ => .error (.unexpected argument)

/-- The options that the arguments name. -/
def ofArguments (arguments : List String) : Except UsageError CommandLine :=
  addArguments none arguments

/-- What is to be printed. -/
def mode (line : CommandLine) : DumpMode :=
  if line.check then .check
  else if line.locationOnly then .locationOnly
  else if line.location then .location
  else .parameters

end CommandLine

end BootExtents
