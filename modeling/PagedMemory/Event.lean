import PagedMemory.FreeList

/-!
# Events and their log lines

Everything the machine announces while it works is an `Event`.  An event has a level, says which
part of the program it comes from, and has a text; which events are shown is up to a filter on
levels and origins and has no influence on the machine.
-/

namespace PagedMemory

/-- How severe a log line is, from the most to the least severe. -/
inductive LogLevel where
  | error
  | warn
  | info
  | debug
  | trace
deriving DecidableEq

namespace LogLevel

/-- Zero for the most severe level. -/
def rank : LogLevel → Nat
  | error => 0
  | warn => 1
  | info => 2
  | debug => 3
  | trace => 4

/-- The lower-case name. -/
def name : LogLevel → String
  | error => "error"
  | warn => "warn"
  | info => "info"
  | debug => "debug"
  | trace => "trace"

/-- The level with the given lower-case name. -/
def ofName? (text : String) : Option LogLevel :=
  [error, warn, info, debug, trace].find? (·.name = text)

end LogLevel

/-- Something that the machine or the program announces. -/
inductive Event where
  /-- A workload was read. -/
  | workloadRead (processes searches : Nat)
  /-- A run begins. -/
  | runStarted (processes freeFrames : Nat)
  /-- A process begins a search; searches are numbered from one. -/
  | searchStarted (process : ProcessId) (number : Nat)
  /-- The aging registers of a process get a clock tick. -/
  | tableAged (process : ProcessId)
  /-- A process has done all its searches and gave its frames back. -/
  | processTerminated (process : ProcessId) (searches : Nat)
  /-- A referenced page was resident. -/
  | pageHit (process : ProcessId) (page : Nat)
  /-- A fault was served from the free list. -/
  | freeFrameFound (page : Nat) (frame : FrameNumber)
  /-- A fault evicts a victim. -/
  | victimReplaced (page victim : Nat) (frame : FrameNumber) (history : BitVec 16)
  /-- All frames of a process are on the free list again. -/
  | framesReleased (process : ProcessId) (freeFrames : Nat)
  /-- A free frame was selected by an affinity rule. -/
  | framePicked (affinity : Affinity) (frame : FrameNumber) (incoming : Holder)
  /-- The program gives up. -/
  | programFailed (reason : String)
deriving DecidableEq

namespace Event

/-- The level of an event. -/
def level : Event → LogLevel
  | programFailed .. => .error
  | workloadRead .. | runStarted .. | processTerminated .. => .info
  | searchStarted .. | freeFrameFound .. | victimReplaced .. | framesReleased .. => .debug
  | tableAged .. | pageHit .. | framePicked .. => .trace

/-- The part of the program that an event comes from, as the log names it. -/
def origin : Event → String
  | programFailed .. | workloadRead .. => "demandpaging"
  | runStarted .. | processTerminated .. | searchStarted .. | tableAged .. => "vm::scheduler"
  | freeFrameFound .. | victimReplaced .. | framesReleased .. | pageHit .. => "vm::mmu"
  | framePicked .. => "vm::frame_pool"

/-- The text of an event. -/
def message : Event → String
  | workloadRead processes searches => s!"{processes} processes, {searches} searches each"
  | runStarted processes freeFrames => s!"running {processes} processes over {freeFrames} frames"
  | searchStarted process number => s!"+++ Process {process}: Search {number}"
  | tableAged process => s!"aging page table of process {process}"
  | processTerminated process searches =>
    s!"process {process} terminated after {searches} searches"
  | pageHit process page => s!"mmu: page hit, process {process} page {page}"
  | freeFrameFound page frame => s!"    Fault on page {page}: Free frame {frame.toNat} found"
  | victimReplaced page victim frame history =>
    s!"    Fault on page {page}: To replace Page {victim} at Frame {frame.toNat} " ++
      s!"[history = {history.toNat}]"
  | framesReleased process freeFrames =>
    s!"mmu: process {process} released its frames, {freeFrames} free"
  | framePicked affinity frame incoming =>
    s!"frame_pool: {affinity.name} picked frame {frame.toNat} for process {incoming.process} " ++
      s!"page {incoming.page}"
  | programFailed reason => reason

end Event

end PagedMemory
