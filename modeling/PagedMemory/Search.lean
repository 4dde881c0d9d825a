import PagedMemory.Memory

/-!
# The pages of a binary search

A search halves an interval of array indices until one index is left.  At each step it looks at the
element in the middle, and so touches the page that the element lies in.  Which elements are looked
at depends on the key and on the size of the array alone, never on the memory: `Search.intervals`
lists the intervals of a search in advance, `Search.pages` the pages of their midpoints, and
`Session.search` lets the memory serve these references one after the other.
-/

namespace PagedMemory

namespace Search

/-- The indices from `left` to `right`, both included. -/
structure Interval where
  left : Nat
  right : Nat
deriving DecidableEq

/-- The index that a search looks at in an interval. -/
def Interval.midpoint (interval : Interval) : Nat := (interval.left + interval.right) / 2

/-- The page of an interval's midpoint.  There is none when the sum of the two ends, or the page
number, is not a word. -/
def Interval.page? (settings : Settings) (interval : Interval) : Option Nat := do
  let sum ← Word.add? interval.left interval.right
  settings.pageOfIndex? (sum / 2)

/-- The intervals with more than one index through which the search for `key` goes. -/
def intervalsBetween (key left right : Nat) : List Interval :=
  if left < right then
    let middle := (left + right) / 2
    ⟨left, right⟩ ::
      if key ≤ middle then intervalsBetween key left middle
      else intervalsBetween key (middle + 1) right
  else
    []
termination_by right - left

/-- The intervals of the search for `key` in an array of the given size. -/
def intervals (arraySize key : Nat) : List Interval := intervalsBetween key 0 (arraySize - 1)

/-- The pages that the search for `key` touches, in order. -/
def pages (settings : Settings) (arraySize key : Nat) : List (Option Nat) :=
  (intervals arraySize key).map (·.page? settings)

end Search

namespace Session

variable {ρ : Type} [VictimPolicy ρ]

/-- References pages one after the other, until one fails.  A page number that is not a word ends
the program. -/
def referenceAll (session : Session ρ) : List (Option Nat) → Answer (Session ρ) Unit
  | [] => .ok () session
  | none :: _ => .crash session
  | some page :: pages =>
    (session.reference page).andThen fun _ session ↦ session.referenceAll pages

/-- Searches an array for a key, and then gives the pages of the process a clock tick. -/
def search (session : Session ρ) (arraySize key : Nat) : Answer (Session ρ) Unit :=
  (session.referenceAll (Search.pages session.memory.settings arraySize key)).andThen
    fun _ session ↦ session.tick

end Session

end PagedMemory
