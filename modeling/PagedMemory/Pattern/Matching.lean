import PagedMemory.Pattern.Expression

/-!
# Matching

A text is read once, from left to right, for all matches at the same time.  What is under way is
kept as marks in the expression: a set of characters is marked if it has just matched a character.
With each character the marks move on to the sets that can come next, and at each place a new match
may begin.

Each part of the expression has a status, which tells what is true of it at the current place.  A
part in which nothing is under way is left alone, so a long expression costs no more than those of
its parts that are reached.
-/

namespace PagedMemory.Pattern

/-- What is true of a part of an expression at a place. -/
structure Status where
  /-- Whether no match is under way in the part, and its status is the same at all places until one
  is. -/
  idle : Bool
  /-- Whether the part matches the empty text here. -/
  nullable : Bool
  /-- Whether a match of the part ends here that has read something. -/
  done : Bool
deriving DecidableEq, Repr

/-- An expression with marks at the sets that have just matched a character. -/
inductive Marked where
  | nothing
  | look (condition : Look) (holds : Bool)
  | oneIn (set : CharSet) (mark : Bool)
  | either (status : Status) (first second : Marked)
  | inRow (status : Status) (first second : Marked)
  | anyNumber (status : Status) (body : Marked)

namespace Marked

/-- What is true of the expression. -/
def status : Marked → Status
  | nothing => ⟨true, true, false⟩
  | look _ holds => ⟨false, holds, false⟩
  | oneIn _ mark => ⟨!mark, false, mark⟩
  | either status _ _ | inRow status _ _ | anyNumber status _ => status

/-- One of two expressions. -/
def or (first second : Marked) : Marked :=
  let one := first.status
  let two := second.status
  .either ⟨one.idle && two.idle, one.nullable || two.nullable, one.done || two.done⟩ first second

/-- Two expressions, one behind the other. -/
def andThen (first second : Marked) : Marked :=
  let one := first.status
  let two := second.status
  .inRow
    ⟨one.idle && two.idle, one.nullable && two.nullable, one.done && two.nullable || two.done⟩
    first second

/-- Any number of matches in a row. -/
def star (body : Marked) : Marked :=
  .anyNumber ⟨body.status.idle, true, body.status.done⟩ body

/-- At most a number of matches in a row. -/
def upTo (count : Nat) (body : Marked) : Marked :=
  Nat.repeat (fun further ↦ .or .nothing (body.andThen further)) count .nothing

/-- A text. -/
def text (content : List Char) : Marked :=
  content.foldr (fun char rest ↦ andThen (.oneIn (.range char char) false) rest) .nothing

/-- The marks behind a character, and what is true at the place behind it.  A match of the part may
begin in front of the character if this place is reached. -/
def step (char : Char) (place : Place) (reached : Bool) : Marked → Marked
  | nothing => .nothing
  | look condition _ => .look condition (condition.holds place)
  | oneIn set _ => .oneIn set (reached && set.contains char)
  | either status first second =>
    if !reached && status.idle then .either status first second
    else (first.step char place reached).or (second.step char place reached)
  | inRow status first second =>
    if !reached && status.idle then .inRow status first second
    else
      let between := first.status.done || reached && first.status.nullable
      (first.step char place reached).andThen (second.step char place between)
  | anyNumber status body =>
    if !reached && status.idle then .anyNumber status body
    else (body.step char place (reached || status.done)).star

/-- Whether a match ends at some place of a text, which is given as the characters that are still to
be read and the places behind them. -/
def matchesIn : List (Char × Place) → Marked → Bool
  | [], marked => marked.status.nullable || marked.status.done
  | (char, place) :: rest, marked =>
    marked.status.nullable || marked.status.done ||
      matchesIn rest (marked.step char place true)

end Marked

namespace Expression

mutual

/-- The expression without marks, at a place of a text of less than `enough` characters.  With so
many rounds of a repetition, some round reads nothing, so one more or one less makes no
difference. -/
def marked (place : Place) (enough : Nat) : Expression → Marked
  | .empty => .nothing
  | .text content => .text content
  | .chars _ set => .oneIn set false
  | .look condition => .look condition (condition.holds place)
  | .repetition least most _ body =>
    let body := body.marked place enough
    let further := match most with
      | none => body.star
      | some most => body.upTo (min (most - least) enough)
    Nat.repeat body.andThen (min least enough) further
  | .capture body => body.marked place enough
  | .concat parts => markedRow place enough parts
  | .alternation branches => markedChoice place enough branches

/-- Several expressions in a row without marks. -/
def markedRow (place : Place) (enough : Nat) : List Expression → Marked
  | [] => .nothing
  | part :: parts => (part.marked place enough).andThen (markedRow place enough parts)

/-- A choice between several expressions without marks. -/
def markedChoice (place : Place) (enough : Nat) : List Expression → Marked
  | [] => .oneIn {} false
  | branch :: branches => (branch.marked place enough).or (markedChoice place enough branches)

end

/-- Whether the expression matches some piece of a text. -/
def occursIn (expression : Expression) (text : List Char) : Bool :=
  match placesOf text with
  | [] => false
  | place :: places =>
    Marked.matchesIn (text.zip places) (expression.marked place (text.length + 1))

end Expression

end PagedMemory.Pattern
