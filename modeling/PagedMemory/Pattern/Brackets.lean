import PagedMemory.Pattern.Escape

/-!
# Classes between brackets

Brackets hold characters, ranges, named classes and further brackets, which are united.  Between
them may stand the signs of the operations on classes, which bind equally strong and to the left.
-/

namespace PagedMemory.Pattern

/-- The class with a name. -/
def NamedClass.ofName? (name : List Char) : Option NamedClass :=
  match String.ofList name with
  | "alnum" => some .alnum
  | "alpha" => some .alpha
  | "ascii" => some .ascii
  | "blank" => some .blank
  | "cntrl" => some .cntrl
  | "digit" => some .digit
  | "graph" => some .graph
  | "lower" => some .lower
  | "print" => some .print
  | "punct" => some .punct
  | "space" => some .space
  | "upper" => some .upper
  | "word" => some .word
  | "xdigit" => some .xdigit
  | _ => none

/-- The part of a pattern as an item of a class, if it can be one. -/
def Tree.toClassItem? : Tree → Option ClassItem
  | .literal char => some (.literal char)
  | .shorthand span negated letter => some (.shorthand span negated letter)
  | .property span name => some (.property span name)
  | _ => none

/-- The part of a pattern as a single character, if it is one. -/
def Tree.toLiteral? : Tree → Option Literal
  | .literal char => some char
  | _ => none

/-- Items that are being united, latest first, and the span that they fill.  Without items, the span
is empty and tells where the first would stand. -/
structure ItemList where
  span : Span
  items : List ClassItem := []

namespace ItemList

/-- Adds an item behind the others. -/
def push (list : ItemList) (item : ClassItem) : ItemList where
  span := ⟨if list.items.isEmpty then item.span.start else list.span.start, item.span.stop⟩
  items := item :: list.items

/-- The items as one item.  A single item stands for itself. -/
def toItem (list : ItemList) : ClassItem :=
  match list.items with
  | [] => .empty list.span
  | [item] => item
  | items => .union list.span items.reverse

/-- The items as the right side of an operation whose left side is known, or as they are. -/
def close (list : ItemList) : Option (ClassOperator × ClassItem) → ClassItem
  | none => list.toItem
  | some (operator, left) =>
    let right := list.toItem
    .binary ⟨left.span.start, right.span.stop⟩ operator left right

end ItemList

namespace Reader

/-- Reads the next character as a character that stands for itself. -/
def plainLiteral : Reader Tree := do
  let span ← nextSpan
  match ← next? with
  | none => return .empty span
  | some char =>
    drop
    return .literal { char, span }

/-- Reads a character or an escape. -/
def classPart : Reader Tree := do
  if (← next?) = some '\\' then escape else plainLiteral

/-- Reads a character, a range, or a class that has a letter.  A hyphen in front of the closing
bracket or of another hyphen makes no range. -/
def classRange (opening : Span) : Reader ClassItem := do
  let first ← classPart
  skip
  let sign ← next?
  if sign.isNone then refuse .classUnclosed opening
  let second ← secondBehindBlanks?
  if sign ≠ some '-' || second = some ']' || second = some '-' then
    match first.toClassItem? with
    | none => refuse .classEscapeInvalid first.span
    | some item => return item
  else
    unless ← step do refuse .classUnclosed opening
    let last ← classPart
    match first.toLiteral?, last.toLiteral? with
    | none, _ => refuse .classRangeNotLiteral first.span
    | _, none => refuse .classRangeNotLiteral last.span
    | some first, some last =>
      let span : Span := ⟨first.span.start, last.span.stop⟩
      if last.char < first.char then refuse .classRangeInvalid span
      return .range span first last

/-- Reads a named class, if one comes next. -/
def namedClass? : Reader (Option ClassItem) := do
  let before ← get
  if ← take "[:" then
    let negated ← take "^"
    let name ← takeUpTo drop (· ≠ ':') before.rest.length
    if ← take ":]" then
      if let some name := NamedClass.ofName? name then
        return some (.named (← since before.position) negated name)
  set before
  return none

/-- Reads up to `room` hyphens at the beginning of a class, which stand for themselves. -/
def leadingHyphens (start : Position) (items : ItemList) : Nat → Reader ItemList
  | 0 => return items
  | room + 1 => do
    if (← next?) = some '-' then
      let items := items.push (.literal { char := '-', span := ← nextSpan })
      unless ← step do refuse .classUnclosed (.empty start)
      leadingHyphens start items room
    else
      return items

/-- Reads an opening bracket, the sign of negation, and the characters that stand for themselves
only at the beginning of a class: hyphens, or one closing bracket. -/
def classOpening : Reader (Span × Bool × ItemList) := do
  let start ← position
  unless ← step do refuse .classUnclosed (← since start)
  let negated := (← next?) = some '^'
  if negated then
    unless ← step do refuse .classUnclosed (← since start)
  let items ← leadingHyphens start { span := ← here } (← get).rest.length
  if items.items.isEmpty && (← next?) = some ']' then
    let items := items.push (.literal { char := ']', span := ← nextSpan })
    unless ← step do refuse .classUnclosed (← since start)
    return (← since start, negated, items)
  else
    return (← since start, negated, items)

/-- The sign of an operation on classes, if one comes next. -/
def classOperator? : Reader (Option ClassOperator) := do
  match ← next?, ← second? with
  | some '&', some '&' => return some .intersection
  | some '-', some '-' => return some .difference
  | some '~', some '~' => return some .symmetricDifference
  | _, _ => return none

mutual

/-- Reads a class between brackets.  Each of its characters needs one unit of `room`. -/
def bracketed : Nat → Reader (Span × Bool × ClassItem)
  | 0 => do refuse .classUnclosed (← here)
  | room + 1 => do
    let start ← position
    let (opening, negated, items) ← classOpening
    let content ← classContent room opening none items
    drop
    return (← since start, negated, content)

/-- Reads what is left of a class up to its closing bracket. -/
def classContent : Nat → Span → Option (ClassOperator × ClassItem) → ItemList → Reader ClassItem
  | 0, opening, _, _ => refuse .classUnclosed opening
  | room + 1, opening, left, items => do
    skip
    match ← next? with
    | none => refuse .classUnclosed opening
    | some ']' => return items.close left
    | some '[' =>
      if let some item ← namedClass? then
        classContent room opening left (items.push item)
      else
        let (span, negated, content) ← bracketed room
        classContent room opening left (items.push (.bracketed span negated content))
    | some _ =>
      if let some operator ← classOperator? then
        drop
        drop
        classContent room opening (some (operator, items.close left)) { span := ← here }
      else
        classContent room opening left (items.push (← classRange opening))

end

end Reader

end PagedMemory.Pattern
