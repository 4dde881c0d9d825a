import PagedMemory.Pattern.CharSet
import PagedMemory.Pattern.Tree

/-!
# What patterns stand for

An expression stands for the pieces of a text that it matches.  It is what a pattern means once its
flags, classes and escapes are understood, and no longer knows how it was written.

Expressions are made by builders, which keep them simple.  They leave out what has no effect: a part
that matches the empty text alone, and a second round of one that can match nothing else.  They
bring together texts in a row, and characters and sets between which there is a choice.  And what
all branches of a choice begin with is taken out of them.
-/

namespace PagedMemory.Pattern

open Text (CodeRange)

/-! ## Conditions on a place in a text

A pattern may ask what stands on the two sides of a place, without reading it.
-/

/-- Conditions on a place in a text. -/
inductive Look where
  | textStart
  | textEnd
  | lineStart (carriageReturns : Bool)
  | lineEnd (carriageReturns : Bool)
  | word (edge : WordEdge) (unicode : Bool)
deriving DecidableEq, Repr

/-- Whether a character belongs to a word. -/
def inWord (char : Char) : Bool := char.isAlphanum || char = '_'

/-- Whether a word begins or ends in the given way, between two characters that are in a word or
not. -/
def WordEdge.holds (before after : Bool) : WordEdge → Bool
  | boundary => before != after
  | noBoundary => before == after
  | start => !before && after
  | stop => before && !after
  | startHalf => !before
  | stopHalf => !after

/-- A place in a text, between two characters.  The first is missing at the beginning of the text
and the second at its end. -/
structure Place where
  before : Option Char
  after : Option Char
deriving DecidableEq, Repr

/-- The places of a text, from the beginning to the end. -/
def placesOf (text : List Char) : List Place :=
  List.zipWith Place.mk (none :: text.map some) (text.map some ++ [none])

/-- Whether a condition holds at a place.  A pair of carriage return and newline ends one line only.
Words consist of ASCII characters. -/
def Look.holds (place : Place) : Look → Bool
  | textStart => place.before.isNone
  | textEnd => place.after.isNone
  | lineStart false => place.before.isNone || place.before = some '\n'
  | lineEnd false => place.after.isNone || place.after = some '\n'
  | lineStart true =>
    place.before.isNone || place.before = some '\n' ||
      place.before = some '\r' && place.after ≠ some '\n'
  | lineEnd true =>
    place.after.isNone || place.after = some '\r' ||
      place.after = some '\n' && place.before ≠ some '\r'
  | word edge _ => edge.holds (place.before.any inWord) (place.after.any inWord)

/-! ## Expressions -/

/-- A regular expression. -/
inductive Expression where
  /-- The empty text. -/
  | empty
  /-- A text that is not empty. -/
  | text (content : List Char)
  /-- One character of a set, which may be given as a set of bytes. -/
  | chars (bytes : Bool) (set : CharSet)
  | look (look : Look)
  | repetition (least : Nat) (most : Option Nat) (greedy : Bool) (body : Expression)
  | capture (body : Expression)
  | concat (parts : List Expression)
  | alternation (branches : List Expression)
deriving Repr

namespace Expression

/-! ## What is in an expression -/

mutual

/-- Whether a test holds of an expression or of some part of it. -/
def anyPart (test : Expression → Bool) (expression : Expression) : Bool :=
  test expression ||
    match expression with
    | .empty | .text _ | .chars _ _ | .look _ => false
    | .repetition _ _ _ body => body.anyPart test
    | .capture body => body.anyPart test
    | .concat parts => anyOfParts test parts
    | .alternation branches => anyOfParts test branches

/-- Whether a test holds of some part of several expressions. -/
def anyOfParts (test : Expression → Bool) : List Expression → Bool
  | [] => false
  | part :: parts => part.anyPart test || anyOfParts test parts

end

mutual

/-- Whether two expressions are built in the same way.  Each group remembers a match of its own, so
no two captures are the same. -/
def same : Expression → Expression → Bool
  | .empty, .empty => true
  | .text first, .text second => first = second
  | .chars bytes first, .chars bytes' second => bytes = bytes' && first.ranges = second.ranges
  | .look first, .look second => first = second
  | .repetition least most greedy first, .repetition least' most' greedy' second =>
    least = least' && most = most' && greedy = greedy' && first.same second
  | .concat firsts, .concat seconds => allSame firsts seconds
  | .alternation firsts, .alternation seconds => allSame firsts seconds
  | _, _ => false

/-- Whether two lists hold the same expressions. -/
def allSame : List Expression → List Expression → Bool
  | [], [] => true
  | first :: firsts, second :: seconds => first.same second && allSame firsts seconds
  | _, _ => false

end

/-! ## How long matches are -/

mutual

/-- The length of the shortest match, as far as it is known, or nothing if a part cannot match. -/
def shortest? : Expression → Option Nat
  | .empty | .look _ => some 0
  | .text content => some content.length
  | .chars _ set => if set.isEmpty then none else some 1
  | .repetition least _ _ body => body.shortest?.map (· * least)
  | .capture body => body.shortest?
  | .concat parts => shortestInRow? parts
  | .alternation branches => shortestOf? branches

/-- The length of the shortest match of several expressions in a row. -/
def shortestInRow? : List Expression → Option Nat
  | [] => some 0
  | part :: parts => part.shortest?.bind fun length ↦ (shortestInRow? parts).map (length + ·)

/-- The length of the shortest match of one of several expressions, none of which must be unable to
match. -/
def shortestOf? : List Expression → Option Nat
  | [] => none
  | [branch] => branch.shortest?
  | branch :: branches =>
    branch.shortest?.bind fun length ↦ (shortestOf? branches).map (min length)

end

mutual

/-- Whether all matches are empty. -/
def zeroWidth : Expression → Bool
  | .empty | .look _ => true
  | .text _ | .chars _ _ => false
  | .repetition _ most _ body => most.isSome && body.zeroWidth
  | .capture body => body.zeroWidth
  | .concat parts => allZeroWidth parts
  | .alternation branches => allZeroWidth branches

/-- Whether all matches of several expressions are empty. -/
def allZeroWidth : List Expression → Bool
  | [] => true
  | part :: parts => part.zeroWidth && allZeroWidth parts

end

/-- Whether every match reads something. -/
def consumes (expression : Expression) : Bool := expression.shortest?.any (0 < ·)

/-! ## Where matches have to lie -/

mutual

/-- Whether every match has to begin where the text does or, backwards, to end where the text
ends. -/
def pinned (backwards : Bool) : Expression → Bool
  | .empty | .text _ | .chars _ _ => false
  | .look condition => condition = if backwards then .textEnd else .textStart
  | .repetition least _ _ body => least ≠ 0 && body.pinned backwards
  | .capture body => body.pinned backwards
  | .concat parts => if backwards then lastPinned parts else firstPinned parts
  | .alternation branches => allPinned backwards branches

/-- Whether several expressions in a row are bound to the start of the text by one that has only
empty matches in front of it. -/
def firstPinned : List Expression → Bool
  | [] => false
  | part :: parts => part.pinned false || part.zeroWidth && firstPinned parts

/-- Whether several expressions in a row are bound to the end of the text by one that has only
empty matches behind it. -/
def lastPinned : List Expression → Bool
  | [] => false
  | part :: parts => lastPinned parts || part.pinned true && allZeroWidth parts

/-- Whether each of several expressions is bound in this way. -/
def allPinned (backwards : Bool) : List Expression → Bool
  | [] => true
  | branch :: branches => branch.pinned backwards && allPinned backwards branches

end

/-! ## Builders -/

/-- An expression without matches. -/
def never : Expression := .chars true {}

/-- One character of a set. -/
def oneIn (bytes : Bool) (set : CharSet) : Expression :=
  match set.ranges with
  | [] => never
  | [(first, last)] => if first = last then .text [Char.ofNat first] else .chars bytes set
  | _ => .chars bytes set

/-- A number of matches in a row. -/
def repeated (least : Nat) (most : Option Nat) (greedy : Bool) (body : Expression) : Expression :=
  let (least, most) :=
    if body.zeroWidth then (min least 1, some (min (most.getD 1) 1)) else (least, most)
  if least = 0 ∧ most = some 0 then .empty
  else if least = 1 ∧ most = some 1 then body
  else .repetition least most greedy body

/-- A part in front of several parts in a row. -/
def prepend : Expression → List Expression → List Expression
  | .empty, parts => parts
  | .text first, .text second :: parts => .text (first ++ second) :: parts
  | part, parts => part :: parts

/-- Several expressions in a row. -/
def inRow (parts : List Expression) : Expression :=
  let flat := parts.flatMap fun
    | .concat parts => parts
    | part => [part]
  match flat.foldr prepend [] with
  | [] => .empty
  | [part] => part
  | parts => .concat parts

/-- The parts of an expression that stand in a row, if it has some. -/
def parts? : Expression → Option (List Expression)
  | .concat parts => some parts
  | _ => none

/-- The character that an expression stands for, if it is one. -/
def char? : Expression → Option Char
  | .text [char] => some char
  | _ => none

/-- The set of characters that an expression stands for, if it is one. -/
def charSet? : Expression → Option CharSet
  | .chars _ set => some set
  | _ => none

/-- One of several expressions.  Branches that are all characters, or all sets of characters, make
one set. -/
def anyOf (branches : List Expression) : Expression :=
  let flat := branches.flatMap fun
    | .alternation branches => branches
    | branch => [branch]
  match flat with
  | [branch] => branch
  | _ =>
    match flat.mapM char?, flat.mapM charSet? with
    | some singles, _ => oneIn false (.ofRanges (singles.map fun char ↦ (char.toNat, char.toNat)))
    | none, some sets => oneIn false (.unionOf sets)
    | none, none => .alternation flat

/-- The number of expressions that two lists have in common at their beginnings. -/
def commonLength : List Expression → List Expression → Nat
  | first :: firsts, second :: seconds =>
    if first.same second then commonLength firsts seconds + 1 else 0
  | _, _ => 0

/-- One of several expressions, where the parts that all branches have in common at their beginnings
stand in front of what is left of them. -/
def oneOf (branches : List Expression) : Expression :=
  match anyOf branches with
  | .alternation branches =>
    match branches.mapM parts? with
    | some (first :: others) =>
      let common := others.foldl (fun common parts ↦ commonLength (first.take common) parts)
        first.length
      if common = 0 then .alternation branches
      else
        let rests := (first :: others).map fun parts ↦ inRow (parts.drop common)
        inRow (first.take common ++ [anyOf rests])
    | _ => .alternation branches
  | expression => expression

end Expression

end PagedMemory.Pattern
