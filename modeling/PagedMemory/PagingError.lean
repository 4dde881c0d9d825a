import PagedMemory.Settings

/-!
# Paging errors

The errors that end a machine's operation.  None of them is retried: each means that the machine was
given too little memory for its processes, or that its books about frames are wrong.
-/

namespace PagedMemory

/-- A contradiction in the books about frames.  The last case leaves room for checks that a caller
adds. -/
inductive OwnershipFlaw where
  | outOfRange (frame : Nat)
  | holders (frame count : Nat)
  | framelessVictim (page : Nat) (process : ProcessId)
  | emptyPool (victim : Nat) (process : ProcessId)
  | other (description : String)
deriving DecidableEq

namespace OwnershipFlaw

/-- The flaw in words. -/
def describe : OwnershipFlaw → String
  | outOfRange frame => s!"frame {frame} is out of range"
  | holders frame count => s!"frame {frame} has {count} holders"
  | framelessVictim page process => s!"victim page {page} of process {process} has no frame"
  | emptyPool victim process =>
    s!"free pool empty after evicting page {victim} of process {process}"
  | other description => description

end OwnershipFlaw

/-- Why an operation of the machine failed. -/
inductive PagingError where
  /-- The machine cannot be built from its settings. -/
  | invalidSettings (flaw : SettingsFlaw)
  /-- The free list ran dry while the pinned pages of a process were loaded. -/
  | outOfFrames (process : ProcessId)
  /-- A page had to be evicted, but the process holds none that may be. -/
  | noVictim (process : ProcessId) (page : Nat)
  /-- The array of a process needs more pages than a process has. -/
  | addressSpaceOverflow (process : ProcessId) (arraySize pages : Nat)
  /-- The books about frames are wrong. -/
  | frameOwnership (flaw : OwnershipFlaw)
deriving DecidableEq

namespace PagingError

/-- The error in words. -/
def message : PagingError → String
  | invalidSettings flaw => s!"invalid configuration: {flaw.describe}"
  | outOfFrames process => s!"not enough free frames for essential pages of process {process}"
  | noVictim process page =>
    s!"could not find a victim page in process {process} while faulting page {page}"
  | addressSpaceOverflow process arraySize pages =>
    s!"process {process}: an array of {arraySize} integers does not fit in {pages} pages"
  | frameOwnership flaw => s!"frame ownership violated: {flaw.describe}"

end PagingError

end PagedMemory
