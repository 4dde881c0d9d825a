import PagedMemory.Word
import PagedMemory.Settings

/-!
# The command line

An invocation names the workload's file and changes settings.  Arguments are read from left to
right.

* An option takes a number, either attached as `--seed=7` or as the next argument.  An argument that
  begins with a hyphen and goes on is never taken as such a number.
* A switch takes nothing.  Short switches may be joined, as in `-vh`.
* `--` ends the options.  Everything else, and a hyphen alone, is the name of the file.

A value that stands apart from its option, and the name of the file, are not looked at when they are
met: they stay *pending* until the next option, switch or file name begins, or the arguments end.
An attached value is looked at straight away.  An argument that nobody knows, and a value attached
to a switch, are refused before the pending value is looked at.
-/

namespace PagedMemory.CommandLine

/-- The options that take a number. -/
inductive NumberOption where
  | pageSize
  | frames
  | pageTableEntries
  | essentialPages
  | reserve
  | seed
deriving DecidableEq

/-- The switches. -/
inductive Switch where
  | mostRecent
  | verbose
  | help
  | version
deriving DecidableEq

namespace NumberOption

def all : List NumberOption := [pageSize, frames, pageTableEntries, essentialPages, reserve, seed]

/-- The name of an option behind its two hyphens. -/
def name : NumberOption → String
  | pageSize => "page-size"
  | frames => "frames"
  | pageTableEntries => "page-table-entries"
  | essentialPages => "essential-pages"
  | reserve => "nff-min"
  | seed => "seed"

end NumberOption

namespace Switch

def all : List Switch := [mostRecent, verbose, help, version]

/-- The name of a switch behind its two hyphens. -/
def name : Switch → String
  | mostRecent => "most-recent"
  | verbose => "verbose"
  | help => "help"
  | version => "version"

/-- The switch behind one hyphen. -/
def ofLetter? : Char → Option Switch
  | 'v' => some verbose
  | 'h' => some help
  | 'V' => some version
  | _ => none

end Switch

/-- Why the arguments do not make an invocation.  The last two are requests for something else. -/
inductive Refusal where
  | unknownArgument
  | missingValue
  | notANumber
  | repeated
  | unexpectedValue
  | helpWanted
  | versionWanted
deriving DecidableEq

/-- A value that was met and not yet looked at. -/
inductive Pending where
  | number (option : NumberOption) (value : Option (List Char))
  | input (name : List Char)
deriving DecidableEq

/-- What has been read so far. -/
structure Reading where
  numbers : List (NumberOption × Nat) := []
  switches : List Switch := []
  input : Option String := none
  pending : Option Pending := none
deriving DecidableEq

/-- What the arguments ask for. -/
structure Invocation where
  input : String := "search.txt"
  settings : Settings := {}
  verbose : Bool := false
deriving DecidableEq

namespace Reading

/-- Gives an option its value. -/
def assign (reading : Reading) (option : NumberOption) (value : List Char) :
    Except Refusal Reading :=
  if reading.numbers.any fun (known, _) ↦ known = option then
    .error .repeated
  else
    match Numeral.read value with
    | .ok number => .ok { reading with numbers := (option, number) :: reading.numbers }
    | .error _ => .error .notANumber

/-- Looks at the pending value. -/
def settle (reading : Reading) : Except Refusal Reading :=
  let settled := { reading with pending := none }
  match reading.pending with
  | none => .ok reading
  | some (.number _ none) => .error .missingValue
  | some (.number option (some value)) => settled.assign option value
  | some (.input []) => .error .missingValue
  | some (.input name) => .ok { settled with input := some (.ofList name) }

/-- Whether a file name was met. -/
def hasInput (reading : Reading) : Bool :=
  reading.input.isSome || (reading.pending matches some (.input _))

/-- Turns a switch on. -/
def turnOn (reading : Reading) (switch : Switch) : Except Refusal Reading := do
  let reading ← reading.settle
  match switch with
  | .help => .error .helpWanted
  | .version => .error .versionWanted
  | _ =>
    if switch ∈ reading.switches then .error .repeated
    else .ok { reading with switches := switch :: reading.switches }

/-- Reads an argument behind two hyphens. -/
def readLong (reading : Reading) (argument : List Char) : Except Refusal Reading :=
  let name : String := .ofList (argument.takeWhile (· ≠ '='))
  let attached := (argument.dropWhile (· ≠ '=')).tail?
  match NumberOption.all.find? (·.name = name), Switch.all.find? (·.name = name), attached with
  | some option, _, some value => do (← reading.settle).assign option value
  | some option, _, none => do
    return { ← reading.settle with pending := some (.number option none) }
  | none, some _, some _ => .error .unexpectedValue
  | none, some switch, none => reading.turnOn switch
  | none, none, _ => .error .unknownArgument

/-- Reads the letters behind one hyphen. -/
def readShort (reading : Reading) : List Char → Except Refusal Reading
  | [] => .ok reading
  | letter :: letters =>
    match Switch.ofLetter? letter with
    | none => .error .unknownArgument
    | some switch => do (← reading.turnOn switch).readShort letters

/-- Reads a file name. -/
def readInput (reading : Reading) (name : List Char) : Except Refusal Reading :=
  if reading.hasInput then .error .unknownArgument
  else do return { ← reading.settle with pending := some (.input name) }

/-- Reads an argument that is neither an option nor a switch. -/
def readPlain (reading : Reading) (argument : List Char) : Except Refusal Reading :=
  match reading.pending with
  | some (.number option none) =>
    .ok { reading with pending := some (.number option (some argument)) }
  | _ => reading.readInput argument

/-- Reads all arguments.  Behind `--` only file names are left. -/
def readAll (reading : Reading) (onlyInputs : Bool) : List (List Char) → Except Refusal Reading
  | [] => reading.settle
  | argument :: arguments => do
    if onlyInputs then
      (← reading.readInput argument).readAll true arguments
    else
      match argument with
      | ['-', '-'] => reading.readAll true arguments
      | '-' :: '-' :: long => (← reading.readLong long).readAll false arguments
      | '-' :: letter :: letters =>
        (← reading.readShort (letter :: letters)).readAll false arguments
      | _ => (← reading.readPlain argument).readAll false arguments

/-- The number given to an option, or its default. -/
def numberOr (reading : Reading) (option : NumberOption) (default : Nat) : Nat :=
  (reading.numbers.lookup option).getD default

/-- The settings that the numbers and switches make. -/
def settings (reading : Reading) : Settings :=
  let default : Settings := {}
  { pageSize := reading.numberOr .pageSize default.pageSize
    userFrames := reading.numberOr .frames default.userFrames
    tableEntries := reading.numberOr .pageTableEntries default.tableEntries
    essentialPages := reading.numberOr .essentialPages default.essentialPages
    reserve := reading.numberOr .reserve default.reserve
    fallback :=
      if Switch.mostRecent ∈ reading.switches then .mostRecent
      else .random (UInt64.ofNat (reading.numberOr .seed 0)) }

/-- What has been read, as an invocation. -/
def invocation (reading : Reading) : Invocation where
  input := reading.input.getD "search.txt"
  settings := reading.settings
  verbose := Switch.verbose ∈ reading.switches

end Reading

/-- Reads the arguments of the program. -/
def read (arguments : List String) : Except Refusal Invocation :=
  (({} : Reading).readAll false (arguments.map String.toList)).map Reading.invocation

end PagedMemory.CommandLine
