import PagedMemory.Machine.Basic

/-!
# The books about frames

Every frame ought to have exactly one holder: the free list or one valid entry of one page table.
`Machine.ownershipFlaw?` goes through all holders and reports the first contradiction it meets: a
frame that the machine does not have, or else the least frame that is not held exactly once.
-/

namespace PagedMemory.Machine

variable {ρ : Type}

/-- The frames that page tables map, by process and page. -/
def mappedFrames (machine : Machine ρ) : List FrameNumber :=
  machine.processes.toList.flatMap fun process ↦ process.space.table.resident.map (·.2)

/-- The frames on the free list, in list order. -/
def freeFrames (machine : Machine ρ) : List FrameNumber :=
  machine.memory.free.frames.toList.map (·.frame)

/-- All frames that anybody holds, once for each holder. -/
def heldFrames (machine : Machine ρ) : List FrameNumber :=
  machine.mappedFrames ++ machine.freeFrames

/-- How often each frame below `frameCount` occurs among the given ones. -/
def tally (frameCount : Nat) (frames : List FrameNumber) : Array Nat :=
  frames.foldl (fun counts frame ↦ counts.modify frame.toNat (· + 1)) (Array.replicate frameCount 0)

/-- The first contradiction in the books. -/
def ownershipFlaw? (machine : Machine ρ) : Option OwnershipFlaw :=
  let frameCount := machine.memory.settings.userFrames
  match machine.heldFrames.find? fun frame ↦ frameCount ≤ frame.toNat with
  | some stray => some (.outOfRange stray.toNat)
  | none =>
    let counts := tally frameCount machine.heldFrames
    (List.range frameCount).findSome? fun frame ↦
      match counts[frame]? with
      | some 1 | none => none
      | some count => some (.holders frame count)

/-- Checks that every frame has exactly one holder. -/
def verifyOwnership (machine : Machine ρ) : Except PagingError Unit :=
  match machine.ownershipFlaw? with
  | some flaw => .error (.frameOwnership flaw)
  | none => .ok ()

end PagedMemory.Machine
