import PagedMemory.Entry
import PagedMemory.Randomness

/-!
# The free list

Every frame that no page table maps is on the free list, together with the process and page that
held it last.  Frames are taken in two ways.  `FreeList.pop?` takes the last one, whatever it is.
`FreeList.select?` takes the one that suits an incoming page best, by the first of these rules, its
*affinity*, that some free frame meets:

* the frame held the same page of the same process;
* the frame was never held by anybody;
* the frame held another page of the same process;
* any frame, chosen by the fallback rule.

Within a rule the frame that stands first on the list wins.  The gap that a selection leaves is
filled with the last frame of the list, so nothing else moves.
-/

namespace PagedMemory

open Randomness (KeyStream)

/-- Processes are numbered from zero in the order of their creation. -/
abbrev ProcessId := Nat

/-- A process and one of its pages. -/
structure Holder where
  process : ProcessId
  page : Nat
deriving DecidableEq

/-- A frame on the free list, with the page that held it last, if any ever did. -/
structure FreeFrame where
  frame : FrameNumber
  last : Option Holder := none
deriving DecidableEq

/-- The rule by which a free frame was selected. -/
inductive Affinity where
  | exactReuse
  | unowned
  | sameOwner
  | fallback
deriving DecidableEq

namespace Affinity

/-- The rules in the order in which they are tried. -/
def all : List Affinity := [exactReuse, unowned, sameOwner, fallback]

/-- The name of a rule in the log. -/
def name : Affinity → String
  | exactReuse => "ExactReuse"
  | unowned => "Unowned"
  | sameOwner => "SameOwner"
  | fallback => "Fallback"

/-- Whether a free frame meets the rule for an incoming page.  The fallback rule takes any frame. -/
def admits (affinity : Affinity) (incoming : Holder) (free : FreeFrame) : Bool :=
  match affinity with
  | exactReuse => free.last = some incoming
  | unowned => free.last.isNone
  | sameOwner => free.last.any (·.process = incoming.process)
  | fallback => true

end Affinity

/-- How a frame is chosen when no affinity rule picks one: by a draw from a seeded stream, or as the
frame that was freed last. -/
inductive FallbackRule where
  | random (seed : UInt64)
  | mostRecent
deriving DecidableEq

/-- The free frames in list order, the fallback rule, and the stream its draws come from. -/
structure FreeList where
  frames : Array FreeFrame
  rule : FallbackRule
  stream : KeyStream
deriving DecidableEq

namespace FreeList

/-- The seed of a rule's stream.  A rule that never draws has seed zero. -/
def seedOf : FallbackRule → UInt64
  | .random seed => seed
  | .mostRecent => 0

/-- The list of all frames below `frameCount`, none of them ever held.  Frame numbers are words, so
frame 65536 is frame zero again. -/
def full (frameCount : Nat) (rule : FallbackRule) : FreeList where
  frames := Array.ofFn fun frame : Fin frameCount ↦ { frame := UInt16.ofNat frame }
  rule := rule
  stream := .ofSeed (seedOf rule)

/-- There is no room for so many frames: a free frame takes forty bytes, and an allocation has fewer
than `2 ^ 63`. -/
def sizeLimit : Nat := 0x333333333333334

/-- The full list, if there is room for it. -/
def full? (frameCount : Nat) (rule : FallbackRule) : Option FreeList :=
  if sizeLimit ≤ frameCount then none else some (.full frameCount rule)

/-- The number of free frames. -/
def size (list : FreeList) : Nat := list.frames.size

/-- Whether no frame is free. -/
def isEmpty (list : FreeList) : Bool := list.frames.isEmpty

/-- Takes the last frame of the list. -/
def pop? (list : FreeList) : Option (FreeFrame × FreeList) :=
  list.frames.back?.map fun free ↦ (free, { list with frames := list.frames.pop })

/-- Puts a frame at the end of the list, stamped with its last holder. -/
def release (list : FreeList) (frame : FrameNumber) (holder : Holder) : FreeList :=
  { list with frames := list.frames.push { frame := frame, last := some holder } }

/-! ## Selection -/

/-- The first frame that meets one of the first three rules, tried in order, with that rule. -/
def affine? (list : FreeList) (incoming : Holder) : Option (Nat × Affinity) :=
  [Affinity.exactReuse, .unowned, .sameOwner].findSome? fun affinity ↦
    (list.frames.findIdx? (affinity.admits incoming)).map fun index ↦ (index, affinity)

/-- The position that the fallback rule chooses, and the stream behind its draw. -/
def fallbackIndex (list : FreeList) : Nat × KeyStream :=
  match list.rule with
  | .random _ => list.stream.draw list.size
  | .mostRecent => (list.size - 1, list.stream)

/-- Takes the frame at a position and fills the gap with the last frame of the list. -/
def takeAt? (frames : Array FreeFrame) (index : Nat) : Option (FreeFrame × Array FreeFrame) :=
  if inside : index < frames.size then
    some (frames[index], (frames.swap index (frames.size - 1)).pop)
  else
    none

/-- Takes the frame that suits the incoming page best, and says by which rule. -/
def select? (list : FreeList) (incoming : Holder) : Option (FreeFrame × Affinity × FreeList) :=
  let (index, affinity, stream) :=
    match list.affine? incoming with
    | some (index, affinity) => (index, affinity, list.stream)
    | none =>
      let (index, stream) := list.fallbackIndex
      (index, .fallback, stream)
  (takeAt? list.frames index).map fun (free, frames) ↦
    (free, affinity, { list with frames := frames, stream := stream })

end FreeList

end PagedMemory
