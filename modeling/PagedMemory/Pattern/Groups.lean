import PagedMemory.Pattern.Brackets
import PagedMemory.Text.Letter

/-!
# Groups and repetitions

Parentheses hold a part of a pattern together.  What stands behind the opening one tells whether the
group has a name, whether it sets flags for its parts, or whether there is no group at all and the
flags are set for what follows.  A repetition is a sign behind a part, or a count between braces.
-/

namespace PagedMemory.Pattern

/-- Whether a character may stand in the name of a group, as its first one or behind it. -/
def inGroupName (first : Bool) (char : Char) : Bool :=
  if first then char = '_' || Text.isLetter char
  else ['_', '.', '[', ']'].contains char || Text.isLetterOrNumeral char

/-- The flag of a letter. -/
def Flag.ofLetter? : Char → Option Flag
  | 'i' => some .caseInsensitive
  | 'm' => some .multiLine
  | 's' => some .dotMatchesNewline
  | 'U' => some .swapGreed
  | 'u' => some .unicode
  | 'R' => some .carriageReturns
  | 'x' => some .ignoreBlanks
  | _ => none

/-- What an opening parenthesis begins. -/
inductive Opening where
  /-- Nothing, it set flags for what follows. -/
  | flags (span : Span) (items : List FlagItem)
  /-- A group. -/
  | group (span : Span) (kind : GroupKind)

namespace Reader

/-! ## Behind an opening parenthesis -/

/-- Reads the characters of a group's name. -/
def groupNameChars (first : Bool) : Nat → Reader (List Char)
  | 0 => return []
  | room + 1 => do
    match ← next? with
    | none | some '>' => return []
    | some char =>
      unless inGroupName first char do refuse .groupNameInvalid (← nextSpan)
      drop
      return char :: (← groupNameChars false room)

/-- Reads the name of a group and the angle bracket behind it. -/
def groupName : Reader Unit := do
  let start ← position
  let name ← groupNameChars true (← get).rest.length
  if (← next?).isNone then refuse .groupNameUnfinished (← here)
  let span ← since start
  drop
  if name.isEmpty then refuse .groupNameEmpty (.empty start)
  match (← get).names.lookup name with
  | some earlier => throw { flaw := .groupNameDuplicate, span, earlier := some earlier }
  | none => modify fun cursor ↦ { cursor with names := (name, span) :: cursor.names }

/-- Reads the next character as a flag or as the sign of negation. -/
def flagItem : Reader FlagItem := do
  let char := (← next?).getD ' '
  if char = '-' then return .negation
  match Flag.ofLetter? char with
  | none => refuse .flagUnrecognized (← nextSpan)
  | some flag => return .flag flag

/-- Reads flags up to a colon or a closing parenthesis, behind those that were read already, latest
first. -/
def flagItems (known : List (FlagItem × Span)) : Nat → Reader (List (FlagItem × Span))
  | 0 => return known
  | room + 1 => do
    if (← next?) = some ':' || (← next?) = some ')' then
      return known
    else
      let item ← flagItem
      let span ← nextSpan
      if let some earlier := known.lookup item then
        let flaw := if item = .negation then .flagRepeatedNegation else .flagDuplicate
        throw { flaw, span, earlier := some earlier }
      drop
      if (← next?).isNone then refuse .flagUnfinished (← here)
      flagItems ((item, span) :: known) room

/-- Reads flags.  The sign of negation has to have a flag behind it. -/
def flags : Reader (List FlagItem) := do
  let items ← flagItems [] (← get).rest.length
  match items with
  | (.negation, span) :: _ => refuse .flagDanglingNegation span
  | _ => return (items.map Prod.fst).reverse

/-- Reads one of several texts, if it comes next. -/
def takeOneOf (texts : List String) : Reader Bool :=
  texts.anyM take

/-- Reads an opening parenthesis and what belongs to it. -/
def opening : Reader Opening := do
  let span ← nextSpan
  drop
  skip
  if ← takeOneOf ["?=", "?!", "?<=", "?<!"] then refuse .lookAround (← since span.start)
  let inner ← here
  if ← takeOneOf ["?P<", "?<"] then
    groupName
    return .group span .capture
  else if ← take "?" then
    if (← next?).isNone then refuse .groupUnclosed span
    let items ← flags
    let closed := (← next?) = some ')'
    drop
    if closed then
      if items.isEmpty then refuse .repetitionMissing inner
      return .flags (← since span.start) items
    else
      return .group span (.flags items)
  else
    return .group span .capture

/-! ## Repetitions -/

/-- The latest part, which a repetition is to be applied to, and the parts in front of it. -/
def repeated (parts : List Tree) : Reader (Tree × List Tree) := do
  match parts with
  | [] | .empty _ :: _ | .flags _ _ :: _ => refuse .repetitionMissing (← here)
  | part :: parts => return (part, parts)

/-- Reads the sign that makes a repetition prefer few rounds, and tells whether it is missing. -/
def greed : Reader Bool := return !(← take "?")

/-- Reads a repetition that is a sign. -/
def signRepetition (parts : List Tree) (least : Nat) (most : Option Nat) : Reader (List Tree) := do
  let (part, parts) ← repeated parts
  drop
  let greedy ← greed
  return .repetition (← since part.span.start) least most greedy part :: parts

/-- Reads a number, and blanks around it.  The fault is kept apart, because what follows decides
whether it is the first one to tell. -/
def decimal : Reader (Except Fault Nat) := do
  takeBlanks drop
  let start ← position
  let digits ← takeWhile Char.isDigit
  let span ← since start
  takeBlanks (discard step)
  let value := digits.foldl (fun value digit ↦ value * 10 + (digit.toNat - '0'.toNat)) 0
  if digits.isEmpty then return .error { flaw := .repetitionCountEmpty, span }
  else if value < 0x100000000 then return .ok value
  else return .error { flaw := .decimalInvalid, span }

/-- Reads the bounds of a repetition between braces, from the opening one up to the closing one. -/
def bounds : Reader (Nat × Option Nat) := do
  let start ← position
  unless ← step do refuse .repetitionCountUnclosed (← since start)
  let first ← decimal
  let sign ← next?
  if sign.isNone then refuse .repetitionCountUnclosed (← since start)
  if sign = some ',' then
    unless ← step do refuse .repetitionCountUnclosed (← since start)
    if (← next?) = some '}' then
      return (← first, none)
    else
      let least ← first
      let most ← decimal
      return (least, some (← most))
  else
    let count ← first
    return (count, some count)

/-- Reads a repetition that is a count. -/
def countRepetition (parts : List Tree) : Reader (List Tree) := do
  let start ← position
  let (part, parts) ← repeated parts
  let (least, most) ← bounds
  unless (← next?) = some '}' do refuse .repetitionCountUnclosed (← since start)
  discard step
  let greedy ← greed
  if most.any (· < least) then refuse .repetitionCountInvalid (← since start)
  return .repetition (← since part.span.start) least most greedy part :: parts

/-! ## The whole pattern -/

/-- Reads a part that is neither a class between brackets nor a group nor a repetition. -/
def primitive : Reader Tree := do
  let span ← nextSpan
  match ← next? with
  | some '\\' => escape
  | some '.' => drop; return .dot span
  | some '^' => drop; return .assertion span .lineStart
  | some '$' => drop; return .assertion span .lineEnd
  | _ => plainLiteral

/-- A sequence of parts that is being read, latest first, behind the branches that are complete. -/
structure Sequence where
  /-- Where the first branch starts. -/
  outset : Position
  /-- Where the sequence starts. -/
  start : Position
  branches : List Tree := []
  parts : List Tree := []

namespace Sequence

/-- Adds a part. -/
def push (sequence : Sequence) (part : Tree) : Sequence :=
  { sequence with parts := part :: sequence.parts }

/-- Completes the branch that is being read. -/
def closeBranch (sequence : Sequence) (stop : Position) : List Tree :=
  .ofParts ⟨sequence.start, stop⟩ sequence.parts.reverse :: sequence.branches

/-- The branches as one part.  A single branch stands for itself. -/
def close (sequence : Sequence) (stop : Position) : Tree :=
  match sequence.closeBranch stop with
  | [branch] => branch
  | branches => .alternation ⟨sequence.outset, stop⟩ branches.reverse

end Sequence

/-- Reads the parts of a pattern, or of the group whose opening parenthesis has the given span, up
to the end or to the closing parenthesis.  Each character needs one unit of `room`. -/
def sequence : Nat → Option Span → Sequence → Reader Tree
  | 0, _, read => return read.close (← position)
  | room + 1, group, read => do
    skip
    match ← next? with
    | none =>
      if let some span := group then refuse .groupUnclosed span
      return read.close (← position)
    | some ')' =>
      if group.isNone then refuse .groupUnopened (← nextSpan)
      return read.close (← position)
    | some '|' =>
      let branches := read.closeBranch (← position)
      drop
      sequence room group { outset := read.outset, start := ← position, branches }
    | some '(' =>
      let ignoring := (← get).ignoreBlanks
      let ignore (items : List FlagItem) : Reader Unit := modify fun cursor ↦
        { cursor with ignoreBlanks := (FlagItem.setting? items .ignoreBlanks).getD ignoring }
      match ← opening with
      | .flags span items =>
        ignore items
        sequence room group (read.push (.flags span items))
      | .group span kind =>
        if let .flags items := kind then ignore items
        let inner ← position
        let body ← sequence room (some span) { outset := inner, start := inner }
        modify fun cursor ↦ { cursor with ignoreBlanks := ignoring }
        drop
        sequence room group (read.push (.group (← since span.start) kind body))
    | some '[' =>
      let (span, negated, content) ← bracketed (room + 1)
      sequence room group (read.push (.bracketed span negated content))
    | some '?' => sequence room group { read with parts := ← signRepetition read.parts 0 (some 1) }
    | some '*' => sequence room group { read with parts := ← signRepetition read.parts 0 none }
    | some '+' => sequence room group { read with parts := ← signRepetition read.parts 1 none }
    | some '{' => sequence room group { read with parts := ← countRepetition read.parts }
    | some _ => sequence room group (read.push (← primitive))

end Reader

/-- The tree of a pattern. -/
def Tree.read (pattern : List Char) : Except Fault Tree :=
  let read := Reader.sequence (pattern.length + 1) none { outset := {}, start := {} }
  (read.run { rest := pattern }).map Prod.fst

end PagedMemory.Pattern
