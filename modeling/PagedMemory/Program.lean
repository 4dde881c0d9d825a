import PagedMemory.CommandLine
import PagedMemory.Directory
import PagedMemory.LogFilter
import PagedMemory.Machine.Run
import PagedMemory.Report
import PagedMemory.Workload

/-!
# The program

The program reads a workload from a file, builds a machine, creates the processes of the workload in
order, runs them to the end, and prints the table of the report.  The first stage that fails ends
it; then nothing is printed, and the error names the stage and, behind it, the cause.

`Program.run` is the program behind its command line, and `Program.execute` the whole program: its
arguments and the text of its log filter go in, its exit code, its output and its log come out.  A
file is read by a function from names to texts, so both are ordinary functions.
-/

namespace PagedMemory.Program

/-- Which stage of the program failed, and why. -/
inductive Failure where
  | unreadable (name : String) (cause : ReadFailure)
  | malformed (name : String) (cause : Workload.ReadError)
  | machineRefused (cause : PagingError)
  | processRefused (cause : PagingError)
  | aborted (cause : PagingError)
deriving DecidableEq

namespace Failure

/-- The failure in words, from the stage to the cause. -/
def chain : Failure → List String
  | unreadable name cause => [s!"failed to read {name}", cause.describe]
  | malformed name cause => s!"malformed {name}" :: cause.chain
  | machineRefused cause => ["cannot build the machine", cause.message]
  | processRefused cause => ["cannot start process", cause.message]
  | aborted cause => ["simulation aborted", cause.message]

/-- The failure in one line. -/
def message (failure : Failure) : String := ": ".intercalate failure.chain

end Failure

/-! ## Behind the command line -/

/-- Creates processes in order, until one fails. -/
def spawnAll {ρ : Type} (machine : Machine ρ) : List ProcessSpec → Answer (Machine ρ) Unit
  | [] => .ok () machine
  | process :: processes =>
    (machine.spawn process.arraySize process.keys).andThen fun _ machine ↦
      spawnAll machine processes

/-- Creates the processes of a workload and runs them to the end. -/
def simulate {ρ : Type} [VictimPolicy ρ] (machine : Machine ρ) (workload : Workload) :
    Reply Failure Event (Machine ρ) Report :=
  ((spawnAll machine workload.processes.toList).mapError .processRefused).andThen
    fun _ machine ↦ machine.run.mapError .aborted

/-- Builds a machine and prints the report of a workload on it. -/
def printReport (settings : Settings) (workload : Workload) : Reply Failure Event Unit String :=
  match Machine.create settings Aging.mk with
  | .error cause => .error (.machineRefused cause) ()
  | .ok machine =>
    ((simulate machine workload).mapState fun _ ↦ ()).andThen fun report _ ↦
      .ok report.render ()

/-- The program for a file that was read or failed to be read.  The value is what it prints. -/
def run (settings : Settings) (name : String) (contents : Except ReadFailure String) :
    Reply Failure Event Unit String :=
  match contents with
  | .error cause => .error (.unreadable name cause) ()
  | .ok text =>
    match Workload.read text.toList with
    | .error cause => .error (.malformed name cause) ()
    | .crash => .crash ()
    | .ok workload =>
      Reply.announcing (.workloadRead workload.processes.size workload.searchesPerProcess)
        (printReport settings workload)

/-! ## The whole program -/

/-- What the program leaves: its exit code, its output, and the lines on its error stream. -/
structure Execution where
  exitCode : Nat
  output : String := ""
  log : List String := []
deriving DecidableEq

/-- The name and version of the program. -/
def version : String := "demandpaging 0.1.0\n"

/-- A reminder of the command line. -/
def usage : String :=
  "Usage: demandpaging [OPTIONS] [INPUT]\n\n" ++
    "  INPUT                     workload: n m, then each array size and its keys [search.txt]\n" ++
    "  --page-size N             bytes per page\n" ++
    "  --frames N                frames available to user processes\n" ++
    "  --page-table-entries N    entries in every page table\n" ++
    "  --essential-pages N       leading pages that are never evicted\n" ++
    "  --nff-min N               free-frame count at or below which faults evict a page\n" ++
    "  --seed N                  seed of the last-resort frame pick\n" ++
    "  --most-recent             take the most recently freed frame as the last resort\n" ++
    "  -v, --verbose             trace every search and page fault\n" ++
    "  -h, --help                print this text\n" ++
    "  -V, --version             print the version\n"

/-- What the program does when its arguments are refused. -/
def refuse : CommandLine.Refusal → Execution
  | .versionWanted => { exitCode := 0, output := version }
  | .helpWanted => { exitCode := 0, output := usage }
  | _ => { exitCode := 2, log := usage.splitOn "\n" }

/-- The log filter of an invocation, unless a text tells another. -/
def filterText (invocation : CommandLine.Invocation) (told : Option String) : String :=
  told.getD (if invocation.verbose then "debug" else "warn")

/-- The program with its arguments, the text of its log filter, if one is told, and the contents of
files. -/
def execute (arguments : List String) (told : Option String)
    (contents : String → Except ReadFailure String) : Execution :=
  match CommandLine.read arguments with
  | .error refusal => refuse refusal
  | .ok invocation =>
    let (filter, complaints) := LogFilter.read (filterText invocation told)
    let reply := run invocation.settings invocation.input (contents invocation.input)
    let log (events : List Event) : List String :=
      complaints ++ (events.filter filter.admits).flatMap Event.lines
    match reply.outcome with
    | .ok table => { exitCode := 0, output := table, log := log reply.events }
    | .error failure =>
      { exitCode := 1, log := log (reply.events ++ [.programFailed failure.message]) }
    | .crash => { exitCode := 101, log := log reply.events }

end PagedMemory.Program
