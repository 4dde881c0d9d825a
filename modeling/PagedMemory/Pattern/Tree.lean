import PagedMemory.Pattern.Fault

/-!
# Patterns as they are written

A pattern is read into a tree that keeps what was written and where.  What it stands for is decided
later, because flags that are set inside a pattern change the meaning of what follows them.
-/

namespace PagedMemory.Pattern

/-- The flags that a pattern can set. -/
inductive Flag where
  | caseInsensitive
  | multiLine
  | dotMatchesNewline
  | swapGreed
  | unicode
  | carriageReturns
  | ignoreBlanks
deriving DecidableEq, Repr

/-- A letter between the parentheses that set flags, or the sign behind which they are cleared. -/
inductive FlagItem where
  | negation
  | flag (flag : Flag)
deriving DecidableEq, Repr

/-- What a sequence of items does to a flag, if anything. -/
def FlagItem.setting? (items : List FlagItem) (flag : Flag) : Option Bool :=
  if items.contains (.flag flag) then
    some (!(items.takeWhile (· ≠ .flag flag)).contains .negation)
  else
    none

/-- A single character. -/
structure Literal where
  char : Char
  span : Span
  /-- Whether it was written as the two hexadecimal digits of a byte. -/
  byte : Bool := false
deriving DecidableEq, Repr

/-- The ways in which a word can begin or end at a position.  The half boundaries look at one side
only. -/
inductive WordEdge where
  | boundary
  | noBoundary
  | start
  | stop
  | startHalf
  | stopHalf
deriving DecidableEq, Repr

/-- Conditions on a position. -/
inductive Assertion where
  | lineStart
  | lineEnd
  | textStart
  | textEnd
  | word (edge : WordEdge)
deriving DecidableEq, Repr

/-- The classes that a single letter names. -/
inductive Shorthand where
  | digit
  | space
  | word
deriving DecidableEq, Repr

/-- The classes of ASCII characters that have a name of their own. -/
inductive NamedClass where
  | alnum
  | alpha
  | ascii
  | blank
  | cntrl
  | digit
  | graph
  | lower
  | print
  | punct
  | space
  | upper
  | word
  | xdigit
deriving DecidableEq, Repr

/-- The operations on classes that are written between two classes. -/
inductive ClassOperator where
  | intersection
  | difference
  | symmetricDifference
deriving DecidableEq, Repr

/-- What stands between brackets. -/
inductive ClassItem where
  | empty (span : Span)
  | literal (literal : Literal)
  | range (span : Span) (first last : Literal)
  | named (span : Span) (negated : Bool) (name : NamedClass)
  | shorthand (span : Span) (negated : Bool) (shorthand : Shorthand)
  | property (span : Span) (name : List Char)
  | bracketed (span : Span) (negated : Bool) (content : ClassItem)
  | union (span : Span) (items : List ClassItem)
  | binary (span : Span) (operator : ClassOperator) (left right : ClassItem)
deriving Repr

/-- Where an item stands. -/
def ClassItem.span : ClassItem → Span
  | empty span => span
  | literal char => char.span
  | range span _ _ => span
  | named span _ _ => span
  | shorthand span _ _ => span
  | property span _ => span
  | bracketed span _ _ => span
  | union span _ => span
  | binary span _ _ _ => span

/-- What a group does besides keeping its parts together: it remembers what it matched, or it sets
flags for its parts. -/
inductive GroupKind where
  | capture
  | flags (items : List FlagItem)
deriving DecidableEq, Repr

/-- A pattern, or a part of one. -/
inductive Tree where
  | empty (span : Span)
  | flags (span : Span) (items : List FlagItem)
  | literal (literal : Literal)
  | dot (span : Span)
  | assertion (span : Span) (assertion : Assertion)
  | shorthand (span : Span) (negated : Bool) (shorthand : Shorthand)
  | property (span : Span) (name : List Char)
  | bracketed (span : Span) (negated : Bool) (content : ClassItem)
  | repetition (span : Span) (least : Nat) (most : Option Nat) (greedy : Bool) (body : Tree)
  | group (span : Span) (kind : GroupKind) (body : Tree)
  | alternation (span : Span) (branches : List Tree)
  | concat (span : Span) (parts : List Tree)
deriving Repr

namespace Tree

/-- Where a part stands. -/
def span : Tree → Span
  | empty span => span
  | flags span _ => span
  | literal char => char.span
  | dot span => span
  | assertion span _ => span
  | shorthand span _ _ => span
  | property span _ => span
  | bracketed span _ _ => span
  | repetition span _ _ _ _ => span
  | group span _ _ => span
  | alternation span _ => span
  | concat span _ => span

/-- A sequence of parts as one part.  A single part stands for itself. -/
def ofParts (span : Span) : List Tree → Tree
  | [] => .empty span
  | [part] => part
  | parts => .concat span parts

end Tree

/-! ## How deep a pattern is nested

Groups, repetitions, alternations, sequences and classes count as levels when they stand in one
another.  A pattern with too many levels is refused where the first level too many begins.
-/

/-- The most levels that a pattern has. -/
def depthLimit : Nat := 250

mutual

/-- The span of the first level of a class that is one too many, if `depth` levels are around it. -/
def ClassItem.tooDeep? (depth : Nat) : ClassItem → Option Span
  | .empty _ | .literal _ | .range _ _ _ | .named _ _ _ | .shorthand _ _ _ | .property _ _ => none
  | .bracketed span _ content =>
    if depthLimit ≤ depth then some span else content.tooDeep? (depth + 1)
  | .union span items =>
    if depthLimit ≤ depth then some span else ClassItem.anyTooDeep? (depth + 1) items
  | .binary span _ left right =>
    if depthLimit ≤ depth then some span
    else (left.tooDeep? (depth + 1)).or (right.tooDeep? (depth + 1))

/-- The span of the first level that is one too many in any of several items. -/
def ClassItem.anyTooDeep? (depth : Nat) : List ClassItem → Option Span
  | [] => none
  | item :: items => (item.tooDeep? depth).or (ClassItem.anyTooDeep? depth items)

end

mutual

/-- The span of the first level of a pattern that is one too many, if `depth` levels are around
it. -/
def Tree.tooDeep? (depth : Nat) : Tree → Option Span
  | .empty _ | .flags _ _ | .literal _ | .dot _ | .assertion _ _ | .shorthand _ _ _
  | .property _ _ => none
  | .bracketed span _ content =>
    if depthLimit ≤ depth then some span else content.tooDeep? (depth + 1)
  | .repetition span _ _ _ body =>
    if depthLimit ≤ depth then some span else body.tooDeep? (depth + 1)
  | .group span _ body =>
    if depthLimit ≤ depth then some span else body.tooDeep? (depth + 1)
  | .alternation span branches =>
    if depthLimit ≤ depth then some span else Tree.anyTooDeep? (depth + 1) branches
  | .concat span parts =>
    if depthLimit ≤ depth then some span else Tree.anyTooDeep? (depth + 1) parts

/-- The span of the first level that is one too many in any of several parts. -/
def Tree.anyTooDeep? (depth : Nat) : List Tree → Option Span
  | [] => none
  | part :: parts => (part.tooDeep? depth).or (Tree.anyTooDeep? depth parts)

end

/-- The fault of a pattern that is nested too deep. -/
def Tree.depthFault? (tree : Tree) : Option Fault :=
  (tree.tooDeep? 0).map fun span ↦ { flaw := .nestingTooDeep depthLimit, span }

end PagedMemory.Pattern
