/-!
# Texts

A text is read as words with blanks between them or as lines, and is written in columns.  A property
of characters is given as a list of closed ranges of code points, in increasing order.
-/

namespace PagedMemory.Text

/-! ## Ranges of code points -/

/-- The code points from the first number to the second, both included. -/
abbrev CodeRange := Nat × Nat

/-- Whether a character lies in one of the ranges. -/
def inRanges (ranges : List CodeRange) (char : Char) : Bool :=
  ranges.any fun (first, last) ↦ first ≤ char.toNat && char.toNat ≤ last

/-! ## Blanks and words

A blank is a character with the Unicode property `White_Space`.  The words of a text are its longest
stretches without a blank, in order.
-/

/-- The characters with the property `White_Space`. -/
def blankRanges : List CodeRange :=
  [(0x9, 0xd), (0x20, 0x20), (0x85, 0x85), (0xa0, 0xa0), (0x1680, 0x1680), (0x2000, 0x200a),
    (0x2028, 0x2029), (0x202f, 0x202f), (0x205f, 0x205f), (0x3000, 0x3000)]

/-- Whether a character separates words. -/
def isBlank (char : Char) : Bool := inRanges blankRanges char

/-- The words of a text. -/
def words (text : List Char) : List (List Char) :=
  (text.splitOnP isBlank).filter fun word ↦ !word.isEmpty

/-- A text without the blanks at its two ends. -/
def trim (text : List Char) : List Char :=
  ((text.dropWhile isBlank).reverse.dropWhile isBlank).reverse

/-! ## Lines

A newline ends a line, together with a carriage return in front of it.
-/

/-- A line without the carriage return at its end. -/
def withoutReturn (line : List Char) : List Char :=
  if line.getLast? = some '\r' then line.dropLast else line

/-- The lines of a text.  At its end, only a line that has begun is one. -/
def linesOf (text : List Char) : List (List Char) :=
  let pieces := text.splitOn '\n'
  let last := pieces.getLast?.getD []
  pieces.dropLast.map withoutReturn ++ if last.isEmpty then [] else [last]

/-- The lines that a text fills with a newline behind it. -/
def printedLines (text : String) : List String :=
  (text.toList.splitOn '\n').map fun line ↦ String.ofList (withoutReturn line)

/-! ## Columns

A column has a least width.  A text that is shorter is filled up with blanks; a longer one takes the
room that it needs.
-/

/-- Fills a text up with blanks on its left. -/
def alignRight (width : Nat) (text : String) : String :=
  .ofList (List.replicate (width - text.length) ' ') ++ text

/-- Fills a text up with blanks on its right. -/
def alignLeft (width : Nat) (text : String) : String :=
  text ++ .ofList (List.replicate (width - text.length) ' ')

end PagedMemory.Text
