import PagedMemory.Pattern.Cursor
import PagedMemory.Pattern.Tree

/-!
# Escapes

A backslash gives the character behind it another meaning: a sign stands for itself, a letter for a
control character, a class, or a condition on the position.
-/

namespace PagedMemory.Pattern

/-- Whether a character has a meaning of its own in some place of a pattern. -/
def isSign (char : Char) : Bool :=
  ['\\', '.', '+', '*', '?', '(', ')', '|', '[', ']', '{', '}', '^', '$', '#', '&', '-',
    '~'].contains char

/-- Whether a character behind a backslash stands for itself.  These are the signs, and every other
ASCII character but the letters, the digits, and the angle brackets. -/
def isEscapable (char : Char) : Bool :=
  isSign char || char.toNat < 0x80 && !char.isAlphanum && char != '<' && char != '>'

/-- The control characters that have a letter. -/
def controlOf? : Char → Option Char
  | 'a' => some '\x07'
  | 'f' => some '\x0c'
  | 't' => some '\t'
  | 'n' => some '\n'
  | 'r' => some '\r'
  | 'v' => some '\x0b'
  | _ => none

/-- The classes that have a letter.  A capital stands for the other characters. -/
def shorthandOf? : Char → Option (Bool × Shorthand)
  | 'd' => some (false, .digit)
  | 's' => some (false, .space)
  | 'w' => some (false, .word)
  | 'D' => some (true, .digit)
  | 'S' => some (true, .space)
  | 'W' => some (true, .word)
  | _ => none

/-- The conditions that have a letter. -/
def assertionOf? : Char → Option Assertion
  | 'A' => some .textStart
  | 'z' => some .textEnd
  | 'b' => some (.word .boundary)
  | 'B' => some (.word .noBoundary)
  | '<' => some (.word .start)
  | '>' => some (.word .stop)
  | _ => none

/-- The word boundaries that have a name. -/
def wordEdgeOf? (name : List Char) : Option WordEdge :=
  match String.ofList name with
  | "start" => some .start
  | "end" => some .stop
  | "start-half" => some .startHalf
  | "end-half" => some .stopHalf
  | _ => none

/-- The value of a hexadecimal digit. -/
def hexDigit? (char : Char) : Option Nat := "0123456789abcdef".toList.idxOf? char.toLower

/-- Whether a character is a hexadecimal digit. -/
def isHexDigit (char : Char) : Bool := (hexDigit? char).isSome

/-- The character whose code is written in hexadecimal digits. -/
def charOfHex? (digits : List Char) : Option Char :=
  let code := digits.foldl (fun code digit ↦ code * 16 + (hexDigit? digit).getD 0) 0
  if code.isValidChar then some (Char.ofNat code) else none

namespace Reader

/-- Reads a given number of hexadecimal digits. -/
def hexDigits : Nat → Reader (List Char)
  | 0 => return []
  | count + 1 => do
    match ← next? with
    | none => refuse .escapeUnfinished (← here)
    | some digit =>
      unless isHexDigit digit do refuse .escapeHexInvalidDigit (← nextSpan)
      discard step
      return digit :: (← hexDigits count)

/-- Reads a character that is given by its code, from the letter that stands behind the backslash.
The code has two, four or eight digits by the letter, or any number of them between braces. -/
def hexLiteral (start : Position) (letter : Char) : Reader Tree := do
  unless ← step do refuse .escapeUnfinished (← here)
  let first ← position
  if (← next?) = some '{' then
    discard step
    let inner := { first with offset := first.offset + 1, column := first.column + 1 }
    let digits ← takeWhile isHexDigit
    match ← next? with
    | none => refuse .escapeUnfinished (← since first)
    | some '}' =>
      let stop ← position
      discard step
      if digits.isEmpty then refuse .escapeHexEmpty (← since first)
      match charOfHex? digits with
      | none => refuse .escapeHexInvalid ⟨inner, stop⟩
      | some char => return .literal { char, span := ← since start }
    | some _ => refuse .escapeHexInvalidDigit (← nextSpan)
  else
    let digits ← hexDigits (if letter = 'x' then 2 else if letter = 'u' then 4 else 8)
    match charOfHex? digits with
    | none => refuse .escapeHexInvalid (← since first)
    | some char => return .literal { char, span := ← since start, byte := letter = 'x' }

/-- Reads the name of a property, from the letter that stands behind the backslash. -/
def property (start : Position) : Reader Tree := do
  unless ← step do refuse .escapeUnfinished (← here)
  if (← next?) = some '{' then
    discard step
    let name ← takeWhile (· ≠ '}')
    if (← next?).isNone then refuse .escapeUnfinished (← here)
    drop
    return .property (← since start) name
  else
    let name := (← next?).toList
    if name = ['\\'] then refuse .unicodeClassInvalid (← nextSpan)
    discard step
    return .property (← since start) name

/-- Reads the name of a word boundary between braces, if there is one.  Braces around anything that
cannot be a name are left alone. -/
def wordEdge? (start : Position) : Reader (Option WordEdge) := do
  let before ← get
  unless ← step do refuse .wordBoundaryUnfinished (← since start)
  let first ← position
  let inName (char : Char) : Bool := char.isAlpha || char = '-'
  if (← next?).any inName then
    let name ← takeWhile inName
    unless (← next?) = some '}' do refuse .wordBoundaryUnclosed (← since before.position)
    let stop ← position
    drop
    match wordEdgeOf? name with
    | none => refuse .wordBoundaryUnrecognized ⟨first, stop⟩
    | some edge => return edge
  else
    set before
    return none

/-- Reads an escape, from its backslash. -/
def escape : Reader Tree := do
  let start ← position
  drop
  match ← next? with
  | none => refuse .escapeUnfinished (← since start)
  | some char =>
    if char.isDigit then refuse .backreference ⟨start, (← nextSpan).stop⟩
    if char = 'x' || char = 'u' || char = 'U' then return ← hexLiteral start char
    if char = 'p' || char = 'P' then return ← property start
    drop
    let span ← since start
    if let some (negated, shorthand) := shorthandOf? char then
      return .shorthand span negated shorthand
    if isEscapable char then return .literal { char, span }
    if let some char := controlOf? char then return .literal { char, span }
    match assertionOf? char with
    | none => refuse .escapeUnrecognized span
    | some assertion =>
      if char = 'b' && (← next?) = some '{' then
        if let some edge ← wordEdge? start then return .assertion (← since start) (.word edge)
      return .assertion span assertion

end Reader

end PagedMemory.Pattern
