import PagedMemory.Memory

/-!
# Processes

A process searches an array for a list of keys, one key after the other.  The array is `0`, `1`,
`2`, ... up to its size, so it is never stored; what matters is which pages a search touches.  The
process records how many searches it has done, and owns the address space that the searches run in.
-/

namespace PagedMemory

/-- A process: its address space, its workload, and how far it has got. -/
structure UserProcess where
  space : AddressSpace
  arraySize : Nat
  keys : Array Nat
  /-- The number of searches done, which is the index of the next key. -/
  currentSearch : Nat := 0
  terminated : Bool := false
deriving DecidableEq

namespace UserProcess

/-- All searches have been done. -/
def finished (process : UserProcess) : Bool := process.keys.size ≤ process.currentSearch

/-- The key of the next search, if one is left. -/
def nextKey? (process : UserProcess) : Option Nat := process.keys[process.currentSearch]?

end UserProcess

namespace Memory

variable {ρ : Type}

/-- Whether the array fits behind the pinned pages of a process.  No answer means that the page of
its last element is not a word. -/
def arrayFits? (settings : Settings) (arraySize : Nat) : Option Bool :=
  if arraySize = 0 then some true
  else (settings.pageOfIndex? (arraySize - 1)).map fun page ↦ page < settings.tableEntries

/-- Creates a process and loads its pinned pages.  A process that fails to load does not come into
being, and the frames it had taken by then are lost. -/
def createProcess (memory : Memory ρ) (process : ProcessId) (arraySize : Nat)
    (keys : Array Nat) : Answer (Memory ρ) UserProcess :=
  let entries := memory.settings.tableEntries
  match arrayFits? memory.settings arraySize with
  | none => .crash memory
  | some false => .error (.addressSpaceOverflow process arraySize entries) memory
  | some true =>
    match PageTable.blank? entries with
    | none => .crash memory
    | some table =>
      let session : Session ρ := ⟨memory, { process := process, table := table }⟩
      let reply := session.loadEssential
      ⟨reply.outcome.map fun _ ↦
          { space := reply.state.space, arraySize := arraySize, keys := keys },
        reply.state.memory, reply.events⟩

end Memory

end PagedMemory
