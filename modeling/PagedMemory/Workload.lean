import PagedMemory.Word
import PagedMemory.Outcome
import PagedMemory.Text
import PagedMemory.Text.Quoted

/-!
# Workloads

A workload says what each process does: how large an array it searches, and for which keys.  It is
written as a sequence of numerals with blanks between them: the number of processes, the number of
searches of every process, and then for each process its array size and its keys.  What follows the
last key is not looked at.

`Workload.read` takes the words of a text one by one and stops at the first that is missing or is no
numeral.  The error names the field that the word should have filled and the place of the word,
counted from one.
-/

namespace PagedMemory

/-- What one process does. -/
structure ProcessSpec where
  arraySize : Nat
  keys : Array Nat
deriving DecidableEq

/-- What all processes do. -/
structure Workload where
  searchesPerProcess : Nat
  processes : Array ProcessSpec
deriving DecidableEq

namespace Workload

/-- What a word of a workload stands for. -/
inductive Field where
  | processCount
  | searchesPerProcess
  | arraySize (process : Nat)
  | key (search process : Nat)
deriving DecidableEq

/-- A field in words. -/
def Field.describe : Field → String
  | processCount => "process count"
  | searchesPerProcess => "searches per process"
  | arraySize process => s!"array size of process {process}"
  | key search process => s!"key {search} of process {process}"

/-- Why a text is not a workload: a word is missing, or is not a numeral. -/
inductive ReadError where
  | missing (field : Field) (position : Nat)
  | malformed (field : Field) (word : List Char) (position : Nat) (flaw : NumeralFlaw)
deriving DecidableEq

/-- The error in words, from the outermost statement to its cause. -/
def ReadError.chain : ReadError → List String
  | missing field position =>
    [s!"unexpected end of input, expected {field.describe} (token {position})"]
  | malformed field word position flaw =>
    [s!"invalid {field.describe} {Text.quote word} (token {position})", flaw.describe]

/-- The words still to be read, and how many were read before them. -/
structure Cursor where
  position : Nat := 0
  words : List (List Char)
deriving DecidableEq

/-- Reads the next word as the value of a field. -/
def Cursor.next (cursor : Cursor) (field : Field) : Except ReadError (Nat × Cursor) :=
  let position := cursor.position + 1
  match cursor.words with
  | [] => .error (.missing field position)
  | word :: words =>
    match Numeral.read word with
    | .ok value => .ok (value, { position, words })
    | .error flaw => .error (.malformed field word position flaw)

/-- Reads the next `count` keys of a process behind those that are already there. -/
def readKeys (process : Nat) (cursor : Cursor) (keys : Array Nat) :
    Nat → Except ReadError (Array Nat × Cursor)
  | 0 => .ok (keys, cursor)
  | count + 1 =>
    match cursor.next (.key keys.size process) with
    | .error error => .error error
    | .ok (key, cursor) => readKeys process cursor (keys.push key) count

/-- Reads the array size and the keys of a process. -/
def readProcess (searches process : Nat) (cursor : Cursor) :
    Except ReadError (ProcessSpec × Cursor) :=
  match cursor.next (.arraySize process) with
  | .error error => .error error
  | .ok (arraySize, cursor) =>
    (readKeys process cursor #[] searches).map fun (keys, cursor) ↦ ({ arraySize, keys }, cursor)

/-- Reads the next `count` processes behind those that are already there. -/
def readProcesses (searches : Nat) (cursor : Cursor) (processes : Array ProcessSpec) :
    Nat → Except ReadError (Array ProcessSpec)
  | 0 => .ok processes
  | count + 1 =>
    match readProcess searches processes.size cursor with
    | .error error => .error error
    | .ok (process, cursor) => readProcesses searches cursor (processes.push process) count

/-- Reads the two counts at the beginning of a workload. -/
def readCounts (cursor : Cursor) : Except ReadError ((Nat × Nat) × Cursor) :=
  match cursor.next .processCount with
  | .error error => .error error
  | .ok (processes, cursor) =>
    (cursor.next .searchesPerProcess).map fun (searches, cursor) ↦ ((processes, searches), cursor)

/-- Room for all processes is set aside before the first is read.  The description of a process
takes 32 bytes, and an allocation has fewer than `2 ^ 63`. -/
def processLimit : Nat := 0x400000000000000

/-- The workload that a text describes. -/
def read (text : List Char) : Outcome ReadError Workload :=
  match readCounts { words := Text.words text } with
  | .error error => .error error
  | .ok ((count, searches), cursor) =>
    if processLimit ≤ count then
      .crash
    else
      match readProcesses searches cursor #[] count with
      | .error error => .error error
      | .ok processes => .ok { searchesPerProcess := searches, processes }

end Workload

end PagedMemory
