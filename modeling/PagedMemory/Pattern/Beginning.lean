import PagedMemory.Pattern.Expression
import PagedMemory.Pattern.Graph

/-!
# What matches begin with

A short list of texts, one of which every match begins with, makes a search faster.  If each of them
is a whole match, it even replaces the search for the expression, and then no graph is made.
`Expression.isListOfTexts` tells when this is so.

A list that would get long is cut down: its texts are shortened, or it is given up.
-/

namespace PagedMemory.Pattern

/-- The bytes that some matches begin with. -/
structure Beginning where
  bytes : List Nat
  /-- Whether they are a match. -/
  whole : Bool
deriving DecidableEq, Repr

namespace Beginning

/-- The empty beginning, as a match. -/
def nothing : Beginning := ⟨[], true⟩

/-- The beginning of the matches of two expressions in a row. -/
def append (first second : Beginning) : Beginning :=
  ⟨first.bytes ++ second.bytes, first.whole && second.whole⟩

/-- The first bytes. -/
def shorten (length : Nat) (beginning : Beginning) : Beginning :=
  if length < beginning.bytes.length then ⟨beginning.bytes.take length, false⟩ else beginning

end Beginning

/-! ## Lists of beginnings -/

/-- The bytes that matches begin with, the preferred ones first, or nothing if there are too many of
them. -/
abbrev Beginnings := Option (List Beginning)

namespace Beginnings

/-- The most characters of a set that are listed. -/
def setLimit : Nat := 10

/-- The most rounds of a repetition that are listed. -/
def roundLimit : Nat := 10

/-- The most bytes of a beginning. -/
def byteLimit : Nat := 100

/-- The most beginnings. -/
def countLimit : Nat := 250

/-- The list where beginnings with equal bytes that stand next to each other are one, which is whole
if all of them are. -/
def joinEqual : List Beginning → List Beginning
  | first :: rest =>
    match joinEqual rest with
    | second :: others =>
      if first.bytes = second.bytes then ⟨first.bytes, first.whole && second.whole⟩ :: others
      else first :: second :: others
    | [] => [first]
  | [] => []

/-- The same beginnings, of which none is a match. -/
def notWhole (beginnings : Beginnings) : Beginnings :=
  beginnings.map (·.map ({ · with whole := false }))

/-- Whether nothing would change if more was put behind the beginnings. -/
def noneWhole (beginnings : Beginnings) : Bool :=
  beginnings.all (·.all (!·.whole))

/-- The beginnings of two expressions in a row. -/
def inRow (first second : Beginnings) : Beginnings :=
  match first, second with
  | none, _ => none
  | some firsts, second =>
    match second.filter fun seconds ↦ firsts.length * seconds.length ≤ countLimit with
    | none => if firsts.any (·.bytes.isEmpty) then none else notWhole firsts
    | some seconds =>
      let all := firsts.flatMap fun first ↦
        if first.whole then seconds.map first.append else [first]
      some ((joinEqual all).map (·.shorten byteLimit))

/-- The beginnings of a choice.  Beginnings that are too many are shortened to four bytes before
they are given up. -/
def oneOf (first second : Beginnings) : Beginnings := do
  let firsts ← first
  let seconds ← second
  if firsts.length + seconds.length ≤ countLimit then
    return joinEqual (firsts ++ seconds)
  else
    let firsts := joinEqual (firsts.map (·.shorten 4))
    let seconds := joinEqual (seconds.map (·.shorten 4))
    if firsts.length + seconds.length ≤ countLimit then
      return joinEqual (firsts ++ seconds)
    else
      none

/-- The beginnings of a number of matches in a row, behind others. -/
def times (body : Beginnings) : Nat → Beginnings → Beginnings
  | 0, front => front
  | count + 1, front => if noneWhole front then front else times body count (inRow front body)

/-- The beginnings of the characters of a set. -/
def oneIn (set : CharSet) : Beginnings :=
  let count := set.ranges.foldl (fun count (first, last) ↦ count + (last + 1 - first)) 0
  if setLimit < count then none
  else
    some (set.ranges.flatMap fun (first, last) ↦
      (List.range' first (last + 1 - first)).map fun code ↦ ⟨bytesOf code, true⟩)

/-- The beginnings of a repetition. -/
def repeated (least : Nat) (most : Option Nat) (greedy : Bool) (body : Beginnings) : Beginnings :=
  if least = 0 then
    let body := if most = some 1 then body else notWhole body
    let nothing : Beginnings := some [.nothing]
    if greedy then oneOf body nothing else oneOf nothing body
  else
    let row := times body (min least roundLimit) (some [.nothing])
    if most = some least && least ≤ roundLimit then row else notWhole row

end Beginnings

namespace Expression

open Beginnings

mutual

/-- What the matches of an expression begin with. -/
def beginnings : Expression → Beginnings
  | .empty | .look _ => some [.nothing]
  | .text content => some [(Beginning.mk (bytesOfText content) true).shorten byteLimit]
  | .chars _ set => Beginnings.oneIn set
  | .repetition least most greedy body => Beginnings.repeated least most greedy body.beginnings
  | .capture body => body.beginnings
  | .concat parts => rowBeginnings (some [.nothing]) parts
  | .alternation branches => choiceBeginnings (some []) branches

/-- What the matches of several expressions in a row begin with, behind others. -/
def rowBeginnings (front : Beginnings) : List Expression → Beginnings
  | [] => front
  | part :: parts =>
    if noneWhole front then front else rowBeginnings (Beginnings.inRow front part.beginnings) parts

/-- What the matches of one of several expressions begin with, and others. -/
def choiceBeginnings (others : Beginnings) : List Expression → Beginnings
  | [] => others
  | branch :: branches => choiceBeginnings (Beginnings.oneOf others branch.beginnings) branches

end

end Expression

/-! ## The list that is searched for -/

namespace Beginnings

/-- The beginnings without those that another one in front of them is a beginning of. -/
def minimal (list : List Beginning) : List Beginning :=
  list.foldl
    (fun kept next ↦
      if kept.any fun other ↦ other.bytes.isPrefixOf next.bytes then kept else kept ++ [next])
    []

/-- What two lists of bytes have in common at their beginnings. -/
def commonBytes : List Nat → List Nat → List Nat
  | first :: firsts, second :: seconds =>
    if first = second then first :: commonBytes firsts seconds else []
  | _, _ => []

/-- What all of the beginnings begin with. -/
def common : List Beginning → List Nat
  | [] => []
  | first :: others => others.foldl (fun bytes other ↦ commonBytes bytes other.bytes) first.bytes

/-- Whether a byte is frequent in most texts. -/
def isFrequent (byte : Nat) : Bool :=
  0x80 ≤ byte || "\n\r (),-./0129:_abcdefghilmnoprstuvxy|".toList.any (·.toNat = byte)

/-- The beginnings with fewer bytes, as long as there are too many of them.  Each step has the
number of bytes to shorten them to, and the number of beginnings that needs no shortening. -/
def shortenMany : List (Nat × Nat) → List Beginning → List Beginning
  | [], list => list
  | (length, count) :: steps, list =>
    if list.length ≤ count then list
    else shortenMany steps (minimal (list.map (·.shorten length)))

/-- Whether the beginnings are searched for as they are, each of which is a match.  They are not, if
what they begin with is rare or long; then that is searched for in place of them.  Nor if they are
so many that they are better shortened, unless this leaves one of less than three bytes, or still
too many. -/
def areSearchedFor (list : List Beginning) : Bool :=
  let minimal := minimal list
  let common := common minimal
  let rare := common.head?.any fun byte ↦ !isFrequent byte
  let isFast := minimal.all (·.whole) && minimal.length ≤ 16
  let shortened :=
    if 1 < list.length && common.length ≤ 3 && rare then minimal.map (·.shorten 1)
    else if 4 < common.length || 1 < common.length && !isFast then
      minimal.map (·.shorten common.length)
    else minimal
  let few := shortenMany [(5, 10), (4, 10), (3, 64), (2, 64), (1, 10)] shortened
  !list.isEmpty && list.all (!·.bytes.isEmpty) && shortened.all (·.whole) &&
    (few.all (·.whole) || few.any (·.bytes.length ≤ 2) || 64 < few.length)

end Beginnings

/-- Whether the matches of an expression are found as texts of a list, so that no graph is needed.
Conditions on places, and groups that remember what they matched, are not found in this way. -/
def Expression.isListOfTexts (expression : Expression) : Bool :=
  let needsGraph : Expression → Bool
    | .look _ | .capture _ => true
    | _ => false
  !expression.anyPart needsGraph &&
    expression.beginnings.any fun list ↦ Beginnings.areSearchedFor (Beginnings.joinEqual list)

end PagedMemory.Pattern
