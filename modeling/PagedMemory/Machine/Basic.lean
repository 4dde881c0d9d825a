import PagedMemory.Report
import PagedMemory.Search
import PagedMemory.UserProcess

/-!
# The machine and its turns

Processes take turns in the order of a ready queue.  In its turn a process does one whole search:
page faults are served inside the search, so nobody gives up a turn early.  A process that has keys
left goes to the end of the queue; one that has none gives its frames back and leaves.  A turn in
which a page reference fails takes its process out of the queue for good, with its pages still
mapped.
-/

namespace PagedMemory

/-- The memory, all processes ever created, by number, and the queue of those that are ready. -/
structure Machine (ρ : Type) where
  memory : Memory ρ
  processes : Array UserProcess := #[]
  ready : List ProcessId := []
deriving DecidableEq

namespace Machine

variable {ρ : Type}

/-- A machine without processes, if the settings have no flaw. -/
def create (settings : Settings) (policy : ρ) : Except PagingError (Machine ρ) :=
  (Memory.create settings policy).map fun memory ↦ { memory := memory }

/-- Creates the next process and queues it.  Nothing but the memory changes when that fails. -/
def spawn (machine : Machine ρ) (arraySize : Nat) (keys : Array Nat) :
    Answer (Machine ρ) ProcessId :=
  let process := machine.processes.size
  ((machine.memory.createProcess process arraySize keys).mapState
    fun memory ↦ { machine with memory := memory }).andThen fun created machine ↦
      .ok process { machine with
        processes := machine.processes.push created
        ready := machine.ready ++ [process] }

/-- The counters as they stand. -/
def report (machine : Machine ρ) : Report where
  total := machine.memory.counters
  processes := machine.processes.toList.map (·.space.counters)

/-! ## One turn -/

/-- Takes over the memory and one process from an operation on them. -/
def adopt (machine : Machine ρ) (memory : Memory ρ) (number : ProcessId) (process : UserProcess) :
    Machine ρ :=
  { machine with
    memory := memory
    processes := machine.processes.setIfInBounds number process }

/-- Does the next search of a process, if it has one left. -/
def searchNext [VictimPolicy ρ] (machine : Machine ρ) (number : ProcessId) (process : UserProcess) :
    Answer (Machine ρ) UserProcess :=
  match process.nextKey? with
  | none => .ok process machine
  | some key =>
    let reply := (Session.mk machine.memory process.space).search process.arraySize key
    let searched := { process with space := reply.state.space }
    let advanced := { searched with currentSearch := process.currentSearch + 1 }
    let machine := match reply.outcome with
      | .ok _ => machine.adopt reply.state.memory number advanced
      | _ => machine.adopt reply.state.memory number searched
    Reply.announcing (.searchStarted number (process.currentSearch + 1))
      ⟨reply.outcome.map fun _ ↦ advanced, machine, reply.events⟩

/-- Sends a process that has keys left to the end of the queue, and ends one that has none. -/
def conclude (machine : Machine ρ) (number : ProcessId) (process : UserProcess) :
    Answer (Machine ρ) Unit :=
  if process.finished then
    let reply := (Session.mk machine.memory process.space).release
    let ended := { process with space := reply.state.space, terminated := true }
    ⟨reply.outcome, machine.adopt reply.state.memory number ended,
      reply.events ++ [.processTerminated number process.keys.size]⟩
  else
    .ok () { machine with ready := machine.ready ++ [number] }

/-- Gives the process at the front of the queue its turn.  The answer says whether anybody is ready
afterwards. -/
def turn [VictimPolicy ρ] (machine : Machine ρ) : Answer (Machine ρ) Bool :=
  match machine.ready with
  | [] => .ok false machine
  | number :: waiting =>
    let machine := { machine with ready := waiting }
    match machine.processes[number]? with
    | none => .crash machine
    | some process =>
      (machine.searchNext number process).andThen fun process machine ↦
        (machine.conclude number process).andThen fun _ machine ↦
          .ok (!machine.ready.isEmpty) machine

end Machine

end PagedMemory
