import PagedMemory.Text

/-!
# What can be wrong with a pattern

A pattern has a fault if it is not well formed, or if it is and asks for something that is not
supported.  A fault tells the flaw, the span where it shows, and, if a thing is there twice, the
span of the first one.
-/

namespace PagedMemory.Pattern

open Text (linesOf)

/-! ## Places in a pattern

A fault in a pattern is shown where it stands.  A position counts the characters in front of it, and
the lines and columns from one.  A span reaches from one position to another; it may be empty.
-/

/-- A place between two characters of a pattern. -/
structure Position where
  /-- The number of characters in front of it. -/
  offset : Nat := 0
  line : Nat := 1
  column : Nat := 1
deriving DecidableEq, Repr

/-- The position behind a character. -/
def Position.advance (position : Position) (char : Char) : Position :=
  if char = '\n' then
    { offset := position.offset + 1, line := position.line + 1, column := 1 }
  else
    { position with offset := position.offset + 1, column := position.column + 1 }

/-- The characters from one position up to another. -/
structure Span where
  start : Position
  stop : Position
deriving DecidableEq, Repr

namespace Span

/-- The empty span at a position. -/
def empty (position : Position) : Span := ⟨position, position⟩

/-- Whether the span stays in one line. -/
def inOneLine (span : Span) : Bool := span.start.line = span.stop.line

/-- Spans are ordered by their start, and by their end if they start together. -/
def before (first second : Span) : Bool :=
  first.start.offset < second.start.offset ||
    (first.start.offset = second.start.offset && first.stop.offset ≤ second.stop.offset)

end Span

/-! ## Flaws and faults -/

/-- What is wrong. -/
inductive Flaw where
  | classEscapeInvalid
  | classRangeInvalid
  | classRangeNotLiteral
  | classUnclosed
  | decimalInvalid
  | escapeHexEmpty
  | escapeHexInvalid
  | escapeHexInvalidDigit
  | escapeUnfinished
  | escapeUnrecognized
  | flagDanglingNegation
  | flagDuplicate
  | flagRepeatedNegation
  | flagUnfinished
  | flagUnrecognized
  | groupNameDuplicate
  | groupNameEmpty
  | groupNameInvalid
  | groupNameUnfinished
  | groupUnclosed
  | groupUnopened
  | nestingTooDeep (limit : Nat)
  | repetitionCountInvalid
  | repetitionCountEmpty
  | repetitionCountUnclosed
  | repetitionMissing
  | wordBoundaryUnclosed
  | wordBoundaryUnrecognized
  | wordBoundaryUnfinished
  | unicodeClassInvalid
  | backreference
  | lookAround
  | invalidText
  | unicodeNotAllowed
  | propertyUnknown
  | propertyValueUnknown
  | unicodeShorthand
  | unicodeCase
deriving DecidableEq, Repr

/-- A flaw in words. -/
def Flaw.message : Flaw → String
  | classEscapeInvalid => "invalid escape sequence found in character class"
  | classRangeInvalid => "invalid character class range, the start must be <= the end"
  | classRangeNotLiteral => "invalid range boundary, must be a literal"
  | classUnclosed => "unclosed character class"
  | decimalInvalid => "decimal literal invalid"
  | escapeHexEmpty => "hexadecimal literal empty"
  | escapeHexInvalid => "hexadecimal literal is not a Unicode scalar value"
  | escapeHexInvalidDigit => "invalid hexadecimal digit"
  | escapeUnfinished => "incomplete escape sequence, reached end of pattern prematurely"
  | escapeUnrecognized => "unrecognized escape sequence"
  | flagDanglingNegation => "dangling flag negation operator"
  | flagDuplicate => "duplicate flag"
  | flagRepeatedNegation => "flag negation operator repeated"
  | flagUnfinished => "expected flag but got end of regex"
  | flagUnrecognized => "unrecognized flag"
  | groupNameDuplicate => "duplicate capture group name"
  | groupNameEmpty => "empty capture group name"
  | groupNameInvalid => "invalid capture group character"
  | groupNameUnfinished => "unclosed capture group name"
  | groupUnclosed => "unclosed group"
  | groupUnopened => "unopened group"
  | nestingTooDeep limit =>
    s!"exceed the maximum number of nested parentheses/brackets ({limit})"
  | repetitionCountInvalid =>
    "invalid repetition count range, the start must be <= the end"
  | repetitionCountEmpty => "repetition quantifier expects a valid decimal"
  | repetitionCountUnclosed => "unclosed counted repetition"
  | repetitionMissing => "repetition operator missing expression"
  | wordBoundaryUnclosed =>
    "special word boundary assertion is either unclosed or contains an invalid character"
  | wordBoundaryUnrecognized =>
    "unrecognized special word boundary assertion, valid choices are: " ++
      "start, end, start-half or end-half"
  | wordBoundaryUnfinished =>
    "found either the beginning of a special word boundary or a bounded repetition on a \\b " ++
      "with an opening brace, but no closing brace"
  | unicodeClassInvalid => "invalid Unicode character class"
  | backreference => "backreferences are not supported"
  | lookAround => "look-around, including look-ahead and look-behind, is not supported"
  | invalidText => "pattern can match invalid UTF-8"
  | unicodeNotAllowed => "Unicode not allowed here"
  | propertyUnknown => "Unicode property not found"
  | propertyValueUnknown => "Unicode property value not found"
  | unicodeShorthand =>
    "Unicode-aware Perl class not found (make sure the unicode-perl feature is enabled)"
  | unicodeCase =>
    "Unicode-aware case insensitivity matching is not available " ++
      "(make sure the unicode-case feature is enabled)"

/-- A flaw and where it shows. -/
structure Fault where
  flaw : Flaw
  span : Span
  /-- Where the first of two like things stands. -/
  earlier : Option Span := none
deriving DecidableEq, Repr

/-! ## Showing a fault

A fault is shown as some lines of text: a heading, the pattern, and the flaw in words.  Below a line
of the pattern, circumflex signs mark the spans that lie in it.  A pattern of one line is indented
by four blanks.  The lines of a longer pattern are numbered and stand between two dividers, and a
span that reaches over several lines is told in words below.
-/

namespace Fault

/-- The spans to mark, in order. -/
def spans (fault : Fault) : List Span :=
  match fault.earlier with
  | none => [fault.span]
  | some earlier =>
    if earlier.before fault.span then [earlier, fault.span] else [fault.span, earlier]

/-- The marks below a line: from each span's start column on, one sign for each of its characters,
and one for an empty span.  The columns up to `column` are written already. -/
def marks (column : Nat) : List Span → List Char
  | [] => []
  | span :: spans =>
    let gap := span.start.column - 1 - column
    let width := max 1 (span.stop.column - span.start.column)
    List.replicate gap ' ' ++ List.replicate width '^' ++ marks (column + gap + width) spans

/-- The lines of the pattern, each with its marks below it.  The numbers of the lines are `width`
digits wide; a width of zero stands for a pattern of one line, which has no number. -/
def markedLines (fault : Fault) (width : Nat) (pattern : List Char) : List (List Char) :=
  (linesOf pattern).zipIdx.flatMap fun (line, index) ↦
    let number := Nat.toDigits 10 (index + 1)
    let margin :=
      if width = 0 then List.replicate 4 ' '
      else List.replicate (width - number.length) ' ' ++ number ++ [':', ' ']
    let here := fault.spans.filter fun span ↦ span.inOneLine && span.start.line == index + 1
    (margin ++ line) ::
      if here.isEmpty then [] else [List.replicate margin.length ' ' ++ marks 0 here]

/-- A span of several lines in words. -/
def describe (span : Span) : String :=
  let start := span.start
  let stop := span.stop
  s!"on line {start.line} (column {start.column}) " ++
    s!"through line {stop.line} (column {stop.column - 1})"

/-- The fault as lines of text. -/
def lines (fault : Fault) (pattern : List Char) : List String :=
  let count := (linesOf pattern).length + if pattern.getLast? = some '\n' then 1 else 0
  let width := if count ≤ 1 then 0 else (Nat.toDigits 10 count).length
  let marked := (fault.markedLines width pattern).map String.ofList
  let divider := if pattern.contains '\n' then [String.ofList (List.replicate 79 '~')] else []
  let long := fault.spans.filter fun span ↦ !span.inOneLine
  ["regex parse error:"] ++ divider ++ marked ++ divider ++ long.map describe ++
    ["error: " ++ fault.flaw.message]

end Fault

end PagedMemory.Pattern
