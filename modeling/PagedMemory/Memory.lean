import PagedMemory.Counters
import PagedMemory.Event
import PagedMemory.Outcome
import PagedMemory.PageTable
import PagedMemory.PagingError
import PagedMemory.VictimPolicy

/-!
# Memory and sessions

`Memory` is the part of the machine that all processes share: the free list, the counters of the
whole machine, and the victim policy.  A process owns an `AddressSpace`, its page table and its own
counters, and lends it to the memory for as long as an operation lasts; the two together are a
`Session`.  This module builds memories and sessions, changes one part of a session at a time, and
puts the operations of the memory together from such changes.
-/

namespace PagedMemory

/-- What a process owns of the memory. -/
structure AddressSpace where
  process : ProcessId
  table : PageTable
  counters : Counters := {}
deriving DecidableEq

/-- What all processes share. -/
structure Memory (ρ : Type) where
  settings : Settings
  free : FreeList
  counters : Counters := {}
  policy : ρ
deriving DecidableEq

/-- The memory together with the address space it works on. -/
structure Session (ρ : Type) where
  memory : Memory ρ
  space : AddressSpace
deriving DecidableEq

/-- The reply of an operation of the machine. -/
abbrev Answer (σ α : Type) := Reply PagingError Event σ α

/-- A memory all of whose frames are free, if the settings have no flaw. -/
def Memory.create {ρ : Type} (settings : Settings) (policy : ρ) : Except PagingError (Memory ρ) :=
  match settings.flaw? with
  | some flaw => .error (.invalidSettings flaw)
  | none =>
    .ok { settings := settings
          free := .full settings.userFrames settings.fallback
          policy := policy }

namespace Session

variable {ρ : Type}

/-- Replaces the free list. -/
@[inline] def withFree (session : Session ρ) (free : FreeList) : Session ρ :=
  { session with memory := { session.memory with free := free } }

/-- Replaces the page table. -/
@[inline] def withTable (session : Session ρ) (table : PageTable) : Session ρ :=
  { session with space := { session.space with table := table } }

/-- Replaces the memory of the victim policy. -/
@[inline] def withPolicy (session : Session ρ) (policy : ρ) : Session ρ :=
  { session with memory := { session.memory with policy := policy } }

/-- Counts something for the process and then for the machine. -/
def count? (session : Session ρ) (record? : Counters → Option Counters) :
    Option (Session ρ) := do
  let own ← record? session.space.counters
  let shared ← record? session.memory.counters
  return {
    memory := { session.memory with counters := shared }
    space := { session.space with counters := own } }

/-- Maps a page of the process to a frame. -/
@[inline] def mapPage (session : Session ρ) (page : Nat) (frame : FrameNumber) : Session ρ :=
  session.withTable (session.space.table.map page frame)

/-- Puts a frame on the free list, stamped with the process and one of its pages. -/
@[inline] def releaseFrame (session : Session ρ) (frame : FrameNumber) (page : Nat) : Session ρ :=
  session.withFree (session.memory.free.release frame ⟨session.space.process, page⟩)

end Session

/-! ## Loading, ageing and giving back the pages of a process

A process starts with its pinned pages loaded from the end of the free list, in page order.  At the
end of a search all its pages get a clock tick, and when it leaves, every frame that it holds goes
back to the free list, again in page order.
-/

namespace Session

variable {ρ : Type}

/-- Maps `count` pages from `page` on to frames from the end of the free list. -/
def loadPages (session : Session ρ) (page : Nat) : Nat → Answer (Session ρ) Unit
  | 0 => .ok () session
  | count + 1 =>
    match session.memory.free.pop? with
    | none => .error (.outOfFrames session.space.process) session
    | some (chosen, free) =>
      if page < session.space.table.size then
        ((session.withFree free).mapPage page chosen.frame).loadPages (page + 1) count
      else
        .crash (session.withFree free)

/-- Maps the pinned pages of the process. -/
def loadEssential (session : Session ρ) : Answer (Session ρ) Unit :=
  session.loadPages 0 session.memory.settings.essentialPages

/-- Gives every frame of the process back to the free list, in page order. -/
def release (session : Session ρ) : Answer (Session ρ) Unit :=
  let resident := session.space.table.resident
  let released := resident.foldl
    (fun session (page, frame) ↦
      (session.releaseFrame frame page).withTable (session.space.table.unmap page))
    session
  Reply.announcing (.framesReleased released.space.process released.memory.free.size)
    (.ok () released)

/-- One clock tick for the pages of the process. -/
def tick (session : Session ρ) : Answer (Session ρ) Unit :=
  Reply.announcing (.tableAged session.space.process)
    (.ok () (session.withTable session.space.table.tick))

end Session

/-! ## Referencing a page

A process touches a page by `Session.reference`.  A resident page is a hit.  A fault is served from
the free list while more frames are free than the settings keep in reserve, a *cold miss*.
Otherwise one of the process's own pages is evicted and the incoming page gets the free frame of
best affinity, a *warm miss*.  The victim's frame goes back to the free list behind all others after
the incoming page has its frame; only when the list is empty does it go back first, so that there is
a frame to take.
-/

/-- How a page reference was served. -/
inductive Access where
  | hit
  | coldMiss
  | warmMiss (affinity : Affinity)
deriving DecidableEq

namespace Session

variable {ρ : Type}

/-- Takes the free frame of best affinity for `page` and counts the replacement. -/
def select (session : Session ρ) (page : Nat) :
    Answer (Session ρ) (Option (FreeFrame × Affinity)) :=
  let incoming : Holder := ⟨session.space.process, page⟩
  match session.memory.free.select? incoming with
  | none => .ok none session
  | some (chosen, affinity, free) =>
    Reply.announcing (.framePicked affinity chosen.frame incoming) <|
      match (session.withFree free).count? (·.recordReplacement? affinity) with
      | none => .crash session
      | some session => .ok (some (chosen, affinity)) session

/-- Serves a fault from the free list. -/
def load (session : Session ρ) (page : Nat) : Answer (Session ρ) Access :=
  match session.memory.free.pop? with
  | none => .error (.outOfFrames session.space.process) session
  | some (chosen, free) =>
    Reply.announcing (.freeFrameFound page (Slot.loaded chosen.frame).entry.frame) <|
      .ok .coldMiss ((session.withFree free).mapPage page chosen.frame)

/-- Serves a fault with the help of the frame that a victim, which is already unmapped, left. -/
def exchange (session : Session ρ) (page victim : Nat) (frame : FrameNumber) :
    Answer (Session ρ) Access :=
  let drained := session.memory.free.isEmpty
  let session := if drained then session.releaseFrame frame victim else session
  (session.select page).andThen fun choice session ↦
    match choice with
    | none => .error (.frameOwnership (.emptyPool victim session.space.process)) session
    | some (chosen, affinity) =>
      let session := session.mapPage page chosen.frame
      .ok (.warmMiss affinity) (if drained then session else session.releaseFrame frame victim)

/-- Serves a fault by evicting the page that the policy names. -/
def replace [VictimPolicy ρ] (session : Session ρ) (page : Nat) : Answer (Session ρ) Access :=
  let (choice, policy) := VictimPolicy.pick session.memory.policy session.space.table
    session.memory.settings.essentialPages
  let session := session.withPolicy policy
  match choice with
  | none => .error (.noVictim session.space.process page) session
  | some victim =>
    match session.space.table.slot? victim with
    | none => .crash session
    | some slot =>
      let session := session.withTable (session.space.table.unmap victim)
      match slot.entry.frame? with
      | none => .error (.frameOwnership (.framelessVictim victim session.space.process)) session
      | some frame =>
        (session.exchange page victim frame).announcing
          (.victimReplaced page victim frame slot.history)

/-- Touches a page on behalf of the process, and brings it in if need be. -/
def reference [VictimPolicy ρ] (session : Session ρ) (page : Nat) : Answer (Session ρ) Access :=
  match session.count? Counters.recordAccess? with
  | none => .crash session
  | some session =>
    match session.space.table.slot? page with
    | none => .crash session
    | some slot =>
      if slot.entry.valid then
        Reply.announcing (.pageHit session.space.process page) <|
          .ok .hit (session.withTable (session.space.table.markReferenced page))
      else
        match session.count? Counters.recordFault? with
        | none => .crash session
        | some session =>
          if session.memory.settings.reserve < session.memory.free.size then
            session.load page
          else
            session.replace page

end Session

end PagedMemory
