import PagedMemory.Pattern.Expression
import Std.Data.HashMap

/-!
# How large the graph of an expression is

To be matched, an expression is spelled out as a graph of states over the bytes of a text, to be
followed forwards or backwards.  A counted repetition is spelled out by repeating the states of its
body, so a short pattern can ask for a graph of any size; graphs that take too much memory are not
made.

Only the size of a graph is made here.  States are numbered in the order in which they would be
made, because the sets of characters share states, and which of them are remembered depends on their
numbers.
-/

namespace PagedMemory.Pattern

open Text (CodeRange)

/-! ## Characters as bytes

A character is spelled out in UTF-8 by one to four bytes, and a range of characters by sequences of
byte ranges, whose bytes can be chosen independently of each other.
-/

/-- The bytes of a code point. -/
def bytesOf (code : Nat) : List Nat :=
  if code < 0x80 then [code]
  else if code < 0x800 then [0xc0 + code / 0x40, 0x80 + code % 0x40]
  else if code < 0x10000 then
    [0xe0 + code / 0x1000, 0x80 + code / 0x40 % 0x40, 0x80 + code % 0x40]
  else
    [0xf0 + code / 0x40000, 0x80 + code / 0x1000 % 0x40, 0x80 + code / 0x40 % 0x40,
      0x80 + code % 0x40]

/-- The bytes of a text. -/
def bytesOfText (chars : List Char) : List Nat := chars.flatMap fun char ↦ bytesOf char.toNat

/-- The last code point of the first of two parts that a range has to be divided into, so that the
bytes of its members are independent of each other.  A range has to stay within one number of bytes,
and has to fill whole blocks if it reaches over several. -/
def division? (range : CodeRange) : Option Nat :=
  let (first, last) := range
  let byLength := [0x7f, 0x7ff, 0xffff].find? fun top ↦ first ≤ top && top < last
  let byBlock := [0x40, 0x1000, 0x40000].findSome? fun block ↦
    if last < 0x80 || first / block = last / block then none
    else if first % block ≠ 0 then some (first / block * block + block - 1)
    else if last % block ≠ block - 1 then some (last / block * block - 1)
    else none
  byLength.or byBlock

/-- The byte sequences of a range without surrogates, in order. -/
def dividedSequences (range : CodeRange) : List (List CodeRange) :=
  match division? range with
  | none => [(bytesOf range.1).zip (bytesOf range.2)]
  | some middle =>
    if _between : range.1 ≤ middle ∧ middle < range.2 then
      dividedSequences (range.1, middle) ++ dividedSequences (middle + 1, range.2)
    else
      [(bytesOf range.1).zip (bytesOf range.2)]
termination_by range.2 - range.1

/-- The sequences of byte ranges that spell out the characters of a range, in order.  Surrogates are
left out. -/
def byteSequences (range : CodeRange) : List (List CodeRange) :=
  if range.1 < 0xe000 && 0xd7ff < range.2 then
    dividedSequences (range.1, 0xd7ff) ++ dividedSequences (0xe000, range.2)
  else
    dividedSequences range

/-! ## Remembering states

A state that is like one made before need not be made again.  The states are remembered in a table
with a fixed number of slots.  What a state is like is told by a key of numbers, and the key tells
the slot.  A state takes the place of the one that was in its slot before, so a table does not
remember all states.
-/

/-- The fingerprint of a key.  Each number is joined to it by exclusive disjunction, and then the
fingerprint is multiplied by a prime number, modulo `2 ^ 64`. -/
def fingerprint (key : List Nat) : UInt64 :=
  key.foldl (fun print number ↦ (print ^^^ number.toUInt64) * 0x100000001b3) 0xcbf29ce484222325

/-- The remembered states with their keys, by slots. -/
structure StateTable where
  size : Nat
  slots : Std.HashMap Nat (List Nat × Nat) := {}

namespace StateTable

/-- The slot of a key. -/
def slot (table : StateTable) (key : List Nat) : Nat := (fingerprint key).toNat % table.size

/-- The number of the state with a key, if it is remembered. -/
def find? (table : StateTable) (key : List Nat) : Option Nat :=
  match table.slots[table.slot key]? with
  | some (known, state) => if known = key then some state else none
  | none => none

/-- Remembers a state. -/
def insert (table : StateTable) (key : List Nat) (state : Nat) : StateTable :=
  { table with slots := table.slots.insert (table.slot key) (key, state) }

end StateTable

/-! ## Sizes -/

/-- The bytes that a graph may take. -/
def graphLimit : Nat := 10485760

/-- The size of a graph.  A state takes 32 bytes, and in addition 8 for each way onwards if it reads
one of several ranges of bytes, and 4 for each way if it makes a choice without reading. -/
structure GraphSize where
  states : Nat := 0
  waysBytes : Nat := 0
deriving DecidableEq, Repr

/-- The bytes that the graph takes. -/
def GraphSize.bytes (size : GraphSize) : Nat := 32 * size.states + size.waysBytes

/-- A step of spelling out a graph, which fails when the graph is too large. -/
abbrev Spelling := StateT GraphSize Option

namespace Spelling

/-- Makes a graph larger. -/
def grow (states waysBytes : Nat) : Spelling Unit := fun size ↦
  let size : GraphSize := ⟨size.states + states, size.waysBytes + waysBytes⟩
  if graphLimit < size.bytes then none else some ((), size)

/-- Adds a state that has ways of so many bytes, and gives its number. -/
def addState (waysBytes : Nat) : Spelling Nat := do
  let number := (← get).states
  grow 1 waysBytes
  return number

/-- Joins a piece of the graph to what comes behind it.  If the piece ends in a choice, this is
another way to choose. -/
def leave (inChoice : Bool) : Spelling Unit := if inChoice then grow 0 4 else return ()

/-! ## Sets of characters -/

/-- A step of spelling out a set of characters, whose states are remembered. -/
abbrev SetSpelling := StateT StateTable Spelling

/-- The state with a key, which is made if it is not remembered. -/
def shared (key : List Nat) (waysBytes : Nat) : SetSpelling Nat := do
  match (← get).find? key with
  | some state => return state
  | none =>
    let state ← addState waysBytes
    modify (·.insert key state)
    return state

/-- A state that is still open: more ways may be added to it.  It is known where the ways lead, but
for the latest one. -/
structure OpenState where
  /-- The ways as a key: the first and last byte, and the number of the next state. -/
  ways : List Nat := []
  latest : Option CodeRange

/-- The ways of an open state, of which the latest leads to the given state. -/
def OpenState.close (state : OpenState) (next : Nat) : List Nat :=
  match state.latest with
  | none => state.ways
  | some (first, last) => state.ways ++ [first, last, next]

/-- Makes a chain of open states, each the latest way of the one before.  The last one leads to the
target. -/
def closeChain (target : Nat) : List OpenState → SetSpelling Nat
  | [] => return target
  | state :: others => do
    let ways := state.close (← closeChain target others)
    shared ways (8 * (ways.length / 3))

/-- Adds a sequence of byte ranges to a chain of open states.  Where the sequence parts from the
chain, the rest of the chain is made. -/
def addSequence (target : Nat) : List OpenState → List CodeRange → SetSpelling (List OpenState)
  | state :: others, range :: ranges => do
    if state.latest = some range then
      return state :: (← addSequence target others ranges)
    else
      let ways := state.close (← closeChain target others)
      return { ways, latest := some range } :: ranges.map fun range ↦ { latest := some range }
  | chain, _ => return chain

/-- Spells out sequences of byte ranges to be read forwards. -/
def sequencesForwards (sequences : List (List CodeRange)) : Spelling Unit := do
  let target ← addState 0
  let spell : SetSpelling Unit := do
    let chain ← sequences.foldlM (addSequence target) [{ latest := none }]
    discard (closeChain target chain)
  discard (spell.run { size := 10000 })

/-- Spells out sequences of byte ranges to be read backwards. -/
def sequencesBackwards (sequences : List (List CodeRange)) : Spelling Unit := do
  grow 1 0
  let target ← addState 0
  let spell : SetSpelling Unit := sequences.forM fun sequence ↦ do
    discard (sequence.foldlM (fun next (first, last) ↦ shared [next, first, last] 0) target)
    grow 0 4
  discard (spell.run { size := 1000 })

/-- Spells out a set of characters. -/
def oneIn (backwards : Bool) (set : CharSet) : Spelling Unit :=
  if set.ranges.all fun range ↦ range.2 < 0x80 then grow 2 (8 * set.ranges.length)
  else
    let sequences := set.ranges.flatMap byteSequences
    if backwards then sequencesBackwards sequences else sequencesForwards sequences

/-! ## Texts between which there is a choice -/

/-- The endings, in groups between which one of the endings is empty.  Several empty ones in front
of all others count as one. -/
def groups (endings : List (List Nat)) : List (List (List Nat)) :=
  let rest := endings.dropWhile List.isEmpty
  let groups := rest.splitOn []
  if rest.length < endings.length then [] :: groups else groups

/-- Spells out a tree of texts, of which the endings are left that are not all empty.  In each
group, endings that start alike share a branch. -/
def tree : Nat → List (List Nat) → Spelling Unit
  | 0, _ => return ()
  | _ + 1, [ending] => grow (2 * ending.length) (4 * ending.length)
  | depth + 1, endings => do
    let groups := groups endings
    let groupBytes := groups.map fun group ↦ (group.filterMap List.head?).eraseDups
    (groups.zip groupBytes).forM fun (group, bytes) ↦ do
      bytes.forM fun byte ↦ do
        let rests := group.filterMap fun ending ↦
          if ending.head? = some byte then some ending.tail else none
        unless rests.all List.isEmpty do tree depth rests
      if bytes.length = 1 then grow 1 0
      else if 1 < bytes.length then grow 1 (8 * bytes.length)
    let filled := (groupBytes.filter (!·.isEmpty)).length
    grow 1 (4 * (filled + groups.length - 1))

/-- Spells out a choice between texts. -/
def oneOfTexts (backwards : Bool) (texts : List (List Char)) : Spelling Unit := do
  grow 1 0
  let texts := texts.map fun text ↦
    if backwards then (bytesOfText text).reverse else bytesOfText text
  tree (texts.foldl (fun depth text ↦ max depth text.length) 0 + 1) texts

/-! ## Repetitions -/

/-- Spells out a number of pieces in a row, behind one that ends in a choice or not. -/
def thenTimes (body : Spelling Bool) : Nat → Bool → Spelling Bool
  | 0, inChoice => return inChoice
  | count + 1, inChoice => do
    leave inChoice
    thenTimes body count (← body)

/-- Spells out a number of pieces in a row. -/
def times (body : Spelling Bool) : Nat → Spelling Bool
  | 0 => do
    grow 1 0
    return false
  | count + 1 => do thenTimes body count (← body)

/-- Spells out a number of pieces in a row, in front of each of which it can be left. -/
def upToTimes (body : Spelling Bool) : Nat → Bool → Spelling Bool
  | 0, inChoice => return inChoice
  | count + 1, inChoice => do
    grow 1 0
    let bodyInChoice ← body
    leave inChoice
    grow 0 8
    upToTimes body count bodyInChoice

/-- Spells out a repetition without an upper bound.  If a round might read nothing, there are two
choices: whether there is a round at all, and whether there is another one. -/
def atLeast (body : Spelling Bool) (consumes : Bool) : Nat → Spelling Bool
  | 0 =>
    if consumes then do
      grow 1 0
      let inChoice ← body
      grow 0 4
      leave inChoice
      return true
    else do
      let inChoice ← body
      grow 1 4
      leave inChoice
      grow 2 12
      return false
  | 1 => do
    let inChoice ← body
    grow 1 4
    leave inChoice
    return true
  | count + 2 => do
    let inChoice ← times body (count + 1)
    leave inChoice
    let inChoice ← body
    grow 1 4
    leave inChoice
    return true

/-- Spells out a repetition. -/
def repeated (body : Spelling Bool) (consumes : Bool) (least : Nat) :
    Option Nat → Spelling Bool
  | none => atLeast body consumes least
  | some most =>
    if least = 0 ∧ most = 1 then do
      grow 1 8
      let inChoice ← body
      grow 1 0
      leave inChoice
      return false
    else if least = most then
      times body least
    else do
      let inChoice ← times body least
      grow 1 0
      let inChoice ← upToTimes body (most - least) inChoice
      leave inChoice
      return false

end Spelling

/-! ## Expressions -/

namespace Expression

open Spelling

/-- The text that an expression stands for, if it is one. -/
def text? : Expression → Option (List Char)
  | .text content => some content
  | _ => none

mutual

/-- Spells out an expression, and tells whether it ends in a choice.  What a group matched is noted
forwards only. -/
def spell (backwards : Bool) : Expression → Spelling Bool
  | .empty | .look _ => do
    grow 1 0
    return false
  | .text content => do
    grow (bytesOfText content).length 0
    return false
  | .chars _ set => do
    Spelling.oneIn backwards set
    return false
  | .repetition least most _ body =>
    Spelling.repeated (body.spell backwards) body.consumes least most
  | .capture body =>
    if backwards then body.spell backwards
    else do
      grow 1 0
      let inChoice ← body.spell backwards
      grow 1 0
      leave inChoice
      return false
  | .concat parts => spellRow backwards parts
  | .alternation branches => do
    match branches.mapM text? with
    | some texts => oneOfTexts backwards texts
    | none => spellBranches backwards 0 branches
    return false

/-- Spells out several expressions in a row, the last one first if they are read backwards. -/
def spellRow (backwards : Bool) : List Expression → Spelling Bool
  | [] => do
    grow 1 0
    return false
  | [part] => part.spell backwards
  | part :: parts =>
    if backwards then do
      leave (← spellRow backwards parts)
      part.spell backwards
    else do
      leave (← part.spell backwards)
      spellRow backwards parts

/-- Spells out expressions between which there is a choice, behind a number of others.  The states
that begin and end the choice are made behind the second one. -/
def spellBranches (backwards : Bool) (count : Nat) : List Expression → Spelling Unit
  | [] => return ()
  | branch :: branches => do
    let inChoice ← branch.spell backwards
    grow (if count = 1 then 2 else 0) 4
    leave inChoice
    spellBranches backwards (count + 1) branches

end

/-- Spells out a whole graph.  In front of the expression are the states that skip the text before a
match, unless all matches lie at the end from which the text is read.  Behind it is the state that a
match ends in. -/
def spellGraph (backwards : Bool) (expression : Expression) : Spelling Unit := do
  let skips := !expression.pinned backwards
  if skips then grow 3 12 else grow 1 0
  leave (← expression.capture.spell backwards)
  grow 1 0
  leave skips

/-- Whether the graph of an expression is small enough. -/
def fits (backwards : Bool) (expression : Expression) : Bool :=
  ((expression.spellGraph backwards).run {}).isSome

end Expression

end PagedMemory.Pattern
