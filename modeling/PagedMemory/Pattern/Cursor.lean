import PagedMemory.Pattern.Fault
import PagedMemory.Text

/-!
# Reading a pattern

A pattern is read from left to right.  The cursor holds what is still unread, and what was read so
far has left behind: the position, whether blanks and comments between the parts are skipped, and
the names of the groups.
-/

namespace PagedMemory.Pattern

/-- The state of reading a pattern. -/
structure Cursor where
  rest : List Char
  position : Position := {}
  /-- Whether blanks, and comments from a number sign to the end of the line, are skipped. -/
  ignoreBlanks : Bool := false
  /-- The names of the groups so far, each with the place where it was given. -/
  names : List (List Char × Span) := []

/-- The unread text behind blanks and comments, and its position. -/
def skipped (inComment : Bool) : List Char → Position → List Char × Position
  | [], position => ([], position)
  | char :: rest, position =>
    if inComment then skipped (char != '\n') rest (position.advance char)
    else if Text.isBlank char then skipped false rest (position.advance char)
    else if char = '#' then skipped true rest (position.advance char)
    else (char :: rest, position)

/-- A step of reading: it moves the cursor, or finds a fault. -/
abbrev Reader := StateT Cursor (Except Fault)

namespace Reader

/-- Gives up at a span. -/
def refuse {α : Type} (flaw : Flaw) (span : Span) : Reader α := throw { flaw, span }

/-- The current position. -/
def position : Reader Position := return (← get).position

/-- The empty span at the current position. -/
def here : Reader Span := return .empty (← position)

/-- The span from a position to the current one. -/
def since (start : Position) : Reader Span := return ⟨start, ← position⟩

/-- The next character. -/
def next? : Reader (Option Char) := return (← get).rest.head?

/-- The character behind the next one. -/
def second? : Reader (Option Char) := return (← get).rest.tail.head?

/-- The character behind the next one, blanks and the sign before a comment apart if they are
skipped.  If nothing else is left, it is the character itself. -/
def secondBehindBlanks? : Reader (Option Char) := do
  let cursor ← get
  let rest := cursor.rest.tail
  if cursor.ignoreBlanks then
    let found := match rest.dropWhile Text.isBlank with
      | '#' :: comment => comment.dropWhile Text.isBlank
      | rest => rest
    return found.head?.or rest.head?
  else
    return rest.head?

/-- The span of the next character. -/
def nextSpan : Reader Span := do
  let cursor ← get
  match cursor.rest with
  | [] => here
  | char :: _ => return ⟨cursor.position, cursor.position.advance char⟩

/-- Reads the next character, if there is one. -/
def drop : Reader Unit := modify fun cursor ↦
  match cursor.rest with
  | [] => cursor
  | char :: rest => { cursor with rest, position := cursor.position.advance char }

/-- Reads blanks and comments, if they are skipped. -/
def skip : Reader Unit := modify fun cursor ↦
  if cursor.ignoreBlanks then
    let (rest, position) := skipped false cursor.rest cursor.position
    { cursor with rest, position }
  else
    cursor

/-- Reads the next character and what is skipped behind it, and tells whether anything is left. -/
def step : Reader Bool := do
  drop
  skip
  return (← next?).isSome

/-- Reads a text, if it comes next. -/
def take (text : String) : Reader Bool := do
  if text.toList.isPrefixOf (← get).rest then
    text.toList.forM fun _ ↦ drop
    return true
  else
    return false

/-- Reads up to `room` characters while they pass a test, each by `move`. -/
def takeUpTo (move : Reader Unit) (test : Char → Bool) : Nat → Reader (List Char)
  | 0 => return []
  | room + 1 => do
    match ← next? with
    | none => return []
    | some char =>
      if test char then
        move
        return char :: (← takeUpTo move test room)
      else
        return []

/-- Reads characters while they pass a test, and what is skipped behind each. -/
def takeWhile (test : Char → Bool) : Reader (List Char) := do
  takeUpTo (discard step) test (← get).rest.length

/-- Reads blanks, whether or not they are skipped elsewhere, each by `move`. -/
def takeBlanks (move : Reader Unit) : Reader Unit := do
  discard (takeUpTo move Text.isBlank (← get).rest.length)

end Reader

end PagedMemory.Pattern
