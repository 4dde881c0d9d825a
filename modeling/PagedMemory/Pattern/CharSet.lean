import PagedMemory.Text

/-!
# Sets of characters

A set of characters is a list of ranges of code points.  What is built from ranges, or by uniting
sets, is in order: the ranges increase, and there is a code point between each two.

The code points of the surrogates are no characters.  Where a range begins behind another one, or
ends in front of it, they are skipped.
-/

namespace PagedMemory.Pattern

open Text (CodeRange inRanges)

/-! ## Ranges -/

/-- The code point behind that of a character. -/
def codeAfter (code : Nat) : Nat := if code = 0xd7ff then 0xe000 else code + 1

/-- The code point in front of that of a character. -/
def codeBefore (code : Nat) : Nat := if code = 0xe000 then 0xd7ff else code - 1

/-- The last code point of all. -/
def lastCode : Nat := 0x10ffff

/-- What two ranges have in common. -/
def overlap? (first second : CodeRange) : Option CodeRange :=
  let low := max first.1 second.1
  let high := min first.2 second.2
  if low ≤ high then some (low, high) else none

/-- What is left of a range without the code points of another. -/
def cut (range hole : CodeRange) : List CodeRange :=
  if range.2 < hole.1 || hole.2 < range.1 then
    [range]
  else
    (if range.1 < hole.1 then [(range.1, codeBefore hole.1)] else []) ++
      (if hole.2 < range.2 then [(codeAfter hole.2, range.2)] else [])

/-- A range in front of others whose starts are in order, where ranges that overlap or touch become
one. -/
def joined : CodeRange → List CodeRange → List CodeRange
  | range, [] => [range]
  | range, next :: others =>
    if next.1 ≤ range.2 + 1 then joined (range.1, max range.2 next.2) others
    else range :: joined next others

/-- The ranges in order, with a code point between each two. -/
def inOrder (ranges : List CodeRange) : List CodeRange :=
  match ranges.mergeSort fun first second ↦ first.1 ≤ second.1 with
  | [] => []
  | range :: others => joined range others

/-- The ranges that lie behind the first range, between the others, and behind the last.  Between a
range that ends in front of the surrogates and one that begins behind them lies nothing; in place of
it stand the two characters on their sides. -/
def gaps : CodeRange → List CodeRange → List CodeRange
  | range, [] => if range.2 < lastCode then [(codeAfter range.2, lastCode)] else []
  | range, next :: others =>
    let low := codeAfter range.2
    let high := codeBefore next.1
    (min low high, max low high) :: gaps next others

/-! ## Sets -/

/-- The characters whose code points lie in one of the ranges. -/
structure CharSet where
  ranges : List CodeRange := []
  /-- Whether the set is known to hold of each letter both cases or none. -/
  caseless : Bool := true
deriving DecidableEq, Repr

namespace CharSet

/-- Whether a character belongs to the set. -/
def contains (set : CharSet) (char : Char) : Bool := inRanges set.ranges char

/-- Whether the set has no members. -/
def isEmpty (set : CharSet) : Bool := set.ranges.isEmpty

/-- The characters in any of some ranges. -/
def ofRanges (ranges : List CodeRange) : CharSet := ⟨inOrder ranges, ranges.isEmpty⟩

/-- The characters from one to another. -/
def range (first last : Char) : CharSet := ⟨[(first.toNat, last.toNat)], false⟩

/-- The members of any of some sets. -/
def unionOf (sets : List CharSet) : CharSet :=
  ⟨inOrder (sets.flatMap ranges), sets.all caseless⟩

/-- The members of either set. -/
def union (first second : CharSet) : CharSet := unionOf [first, second]

/-- The members of both sets. -/
def intersection (first second : CharSet) : CharSet :=
  if first.isEmpty then first
  else if second.isEmpty then {}
  else
    { ranges := first.ranges.flatMap fun range ↦ second.ranges.filterMap (overlap? range)
      caseless := first.caseless && second.caseless }

/-- The members of the first set that are not in the second. -/
def difference (first second : CharSet) : CharSet :=
  if first.isEmpty || second.isEmpty then first
  else
    { ranges := second.ranges.foldl (fun ranges hole ↦ ranges.flatMap (cut · hole)) first.ranges
      caseless := first.caseless && second.caseless }

/-- The members of one of the sets, but not of both. -/
def symmetricDifference (first second : CharSet) : CharSet :=
  (first.union second).difference (first.intersection second)

/-- The characters that are not in the set. -/
def complement (set : CharSet) : CharSet :=
  match set.ranges with
  | [] => ⟨[(0, lastCode)], true⟩
  | range :: others =>
    let front := if 0 < range.1 then [(0, codeBefore range.1)] else []
    { set with ranges := front ++ gaps range others }

/-- The set with the ASCII letters that differ from a member in case alone. -/
def withBothCases (set : CharSet) : CharSet :=
  if set.caseless then set
  else
    let shifted (letters : CodeRange) (change : Nat → Nat) : List CodeRange :=
      (set.ranges.filterMap (overlap? letters)).map fun (first, last) ↦ (change first, change last)
    { ranges := inOrder
        (set.ranges ++ shifted (0x41, 0x5a) (· + 0x20) ++ shifted (0x61, 0x7a) (· - 0x20))
      caseless := true }

end CharSet

end PagedMemory.Pattern
