import PagedMemory.Pattern.Expression
import PagedMemory.Pattern.Fault

/-!
# The meaning of a pattern

A pattern is understood from left to right, under flags that its groups set for their parts and that
it may set for what follows.

By default patterns are about characters.  Then the classes that a letter or a property names, and
matching without regard to case, would need tables of all characters, which are not there; patterns
that ask for them have a fault.  Without the flag `u`, patterns are about bytes, and these classes
and letters are the ones of ASCII; but then a pattern must not match a part of a character.
-/

namespace PagedMemory.Pattern

/-- The flags that matter for the meaning of a pattern. -/
structure Modes where
  caseInsensitive : Bool := false
  multiLine : Bool := false
  dotMatchesNewline : Bool := false
  swapGreed : Bool := false
  carriageReturns : Bool := false
  unicode : Bool := true
deriving DecidableEq, Repr

/-- The flags behind a sequence of items that sets or clears some of them. -/
def Modes.apply (modes : Modes) (items : List FlagItem) : Modes :=
  let set (flag : Flag) (old : Bool) : Bool := (FlagItem.setting? items flag).getD old
  { caseInsensitive := set .caseInsensitive modes.caseInsensitive
    multiLine := set .multiLine modes.multiLine
    dotMatchesNewline := set .dotMatchesNewline modes.dotMatchesNewline
    swapGreed := set .swapGreed modes.swapGreed
    carriageReturns := set .carriageReturns modes.carriageReturns
    unicode := set .unicode modes.unicode }

/-- The result of a part of a pattern, or its fault. -/
abbrev Understood := Except Fault

/-- A part of a pattern that cannot be understood. -/
def refused {α : Type} (flaw : Flaw) (span : Span) : Understood α := .error { flaw, span }

/-! ## Characters and classes -/

/-- The members of a named class. -/
def NamedClass.charSet : NamedClass → CharSet
  | alnum => .ofRanges [(0x30, 0x39), (0x41, 0x5a), (0x61, 0x7a)]
  | alpha => .ofRanges [(0x41, 0x5a), (0x61, 0x7a)]
  | ascii => .ofRanges [(0x0, 0x7f)]
  | blank => .ofRanges [(0x9, 0x9), (0x20, 0x20)]
  | cntrl => .ofRanges [(0x0, 0x1f), (0x7f, 0x7f)]
  | digit => .ofRanges [(0x30, 0x39)]
  | graph => .ofRanges [(0x21, 0x7e)]
  | lower => .ofRanges [(0x61, 0x7a)]
  | print => .ofRanges [(0x20, 0x7e)]
  | punct => .ofRanges [(0x21, 0x2f), (0x3a, 0x40), (0x5b, 0x60), (0x7b, 0x7e)]
  | space => .ofRanges [(0x9, 0xd), (0x20, 0x20)]
  | upper => .ofRanges [(0x41, 0x5a)]
  | word => .ofRanges [(0x30, 0x39), (0x41, 0x5a), (0x5f, 0x5f), (0x61, 0x7a)]
  | xdigit => .ofRanges [(0x30, 0x39), (0x41, 0x46), (0x61, 0x66)]

/-- The ASCII class that a letter stands for. -/
def Shorthand.charSet : Shorthand → CharSet
  | digit => NamedClass.charSet .digit
  | space => NamedClass.charSet .space
  | word => NamedClass.charSet .word

/-- The operation on the sets. -/
def ClassOperator.apply : ClassOperator → CharSet → CharSet → CharSet
  | intersection => CharSet.intersection
  | difference => CharSet.difference
  | symmetricDifference => CharSet.symmetricDifference

/-- The name of a property in small letters, without blanks, hyphens, underscores, and the word "is"
in front of it. -/
def plainName (name : List Char) : List Char :=
  let name := if "is".toList.isPrefixOf (name.map Char.toLower) then name.drop 2 else name
  (name.filter fun char ↦ char.toNat < 0x80 && !([' ', '-', '_'].contains char)).map Char.toLower

/-- The fault of a property.  No property is known; three names are those of values of another
property. -/
def propertyFlaw (modes : Modes) (name : List Char) : Flaw :=
  if !modes.unicode then .unicodeNotAllowed
  else if ["cf", "lc", "sc"].contains (String.ofList (plainName name)) then .propertyValueUnknown
  else .propertyUnknown

/-- A set without regard to case, if the case does not matter.  Among all characters, only a set
that is known to be so already can be made so. -/
def folded (modes : Modes) (span : Span) (set : CharSet) : Understood CharSet :=
  if !modes.caseInsensitive then .ok set
  else if modes.unicode && !set.isEmpty && !set.caseless then refused .unicodeCase span
  else .ok set.withBothCases

/-- A set, or the other characters.  Among bytes these would be parts of characters. -/
def negatedIf (modes : Modes) (span : Span) (negated : Bool) (set : CharSet) :
    Understood CharSet :=
  if !negated then .ok set
  else if modes.unicode then .ok set.complement
  else refused .invalidText span

/-- The class that a letter stands for. -/
def shorthandSet (modes : Modes) (span : Span) (negated : Bool) (shorthand : Shorthand) :
    Understood CharSet :=
  if modes.unicode then refused .unicodeShorthand span
  else negatedIf modes span negated shorthand.charSet

/-- A character that stands for itself.  A byte that is no ASCII character is a part of one. -/
def literalChar (modes : Modes) (literal : Literal) : Understood Char :=
  if !modes.unicode && literal.byte && 0x80 ≤ literal.char.toNat then
    refused .invalidText literal.span
  else
    .ok literal.char

/-- A character in a class.  Among bytes it has to be one. -/
def classChar (modes : Modes) (literal : Literal) : Understood Char := do
  let char ← literalChar modes literal
  if !modes.unicode && 0x80 ≤ char.toNat then refused .unicodeNotAllowed literal.span
  else return char

mutual

/-- The sets whose members are those of an item of a class. -/
def ClassItem.charSets (modes : Modes) : ClassItem → Understood (List CharSet)
  | .empty _ => return []
  | .literal single => do
    let char ← classChar modes single
    return [.range char char]
  | .range _ first last => return [.range (← classChar modes first) (← classChar modes last)]
  | .named span negated name =>
    return [← negatedIf modes span negated (← folded modes span name.charSet)]
  | .shorthand span negated letter => return [← shorthandSet modes span negated letter]
  | .property span name => refused (propertyFlaw modes name) span
  | .bracketed span negated content => do
    let content := CharSet.unionOf (← content.charSets modes)
    return [← negatedIf modes span negated (← folded modes span content)]
  | .union _ items => ClassItem.charSetsOfAll modes items
  | .binary _ operator left right => do
    let first := CharSet.unionOf (← left.charSets modes)
    let second := CharSet.unionOf (← right.charSets modes)
    let second ← folded modes right.span second
    let first ← folded modes left.span first
    return [operator.apply first second]

/-- The sets whose members are those of several items of a class. -/
def ClassItem.charSetsOfAll (modes : Modes) : List ClassItem → Understood (List CharSet)
  | [] => return []
  | item :: items => do
    let sets ← item.charSets modes
    return sets ++ (← ClassItem.charSetsOfAll modes items)

end

/-! ## Parts of a pattern -/

/-- What a character matches. -/
def literalMeaning (modes : Modes) (literal : Literal) : Understood Expression := do
  let char ← literalChar modes literal
  if modes.caseInsensitive && (modes.unicode || char.isAlpha) then
    return .oneIn true (← folded modes literal.span (CharSet.range char char))
  else
    return .text [char]

/-- What the dot matches: any character, or any but those that end a line. -/
def dotMeaning (modes : Modes) (span : Span) : Understood Expression :=
  if !modes.unicode then refused .invalidText span
  else if modes.dotMatchesNewline then .ok (.oneIn false (.ofRanges [(0x0, lastCode)]))
  else if modes.carriageReturns then
    .ok (.oneIn false (.ofRanges [(0x0, 0x9), (0xb, 0xc), (0xe, lastCode)]))
  else .ok (.oneIn false (.ofRanges [(0x0, 0x9), (0xb, lastCode)]))

/-- The condition that an assertion makes. -/
def assertionMeaning (modes : Modes) : Assertion → Look
  | .lineStart => if modes.multiLine then .lineStart modes.carriageReturns else .textStart
  | .lineEnd => if modes.multiLine then .lineEnd modes.carriageReturns else .textEnd
  | .textStart => .textStart
  | .textEnd => .textEnd
  | .word edge => .word edge modes.unicode

mutual

/-- The expression that a part of a pattern stands for, and the flags for what follows it. -/
def Tree.meaning (modes : Modes) : Tree → Understood (Expression × Modes)
  | .empty _ => return (.empty, modes)
  | .flags _ items => return (.empty, modes.apply items)
  | .literal char => return (← literalMeaning modes char, modes)
  | .dot span => return (← dotMeaning modes span, modes)
  | .assertion _ condition => return (.look (assertionMeaning modes condition), modes)
  | .shorthand span negated letter =>
    return (.oneIn (!modes.unicode) (← shorthandSet modes span negated letter), modes)
  | .property span name => refused (propertyFlaw modes name) span
  | .bracketed span negated content => do
    let set ← folded modes span (CharSet.unionOf (← content.charSets modes))
    return (.oneIn (!modes.unicode) (← negatedIf modes span negated set), modes)
  | .repetition _ least most greedy body => do
    let (body, modes) ← body.meaning modes
    return (.repeated least most (greedy != modes.swapGreed) body, modes)
  | .group _ .capture body => return (.capture (← body.meaning modes).1, modes)
  | .group _ (.flags items) body => return ((← body.meaning (modes.apply items)).1, modes)
  | .alternation _ branches => do
    let (branches, modes) ← Tree.meanings modes branches
    return (.oneOf branches, modes)
  | .concat _ parts => do
    let (parts, modes) ← Tree.meanings modes parts
    return (.inRow parts, modes)

/-- The expressions that several parts stand for, one behind the other. -/
def Tree.meanings (modes : Modes) : List Tree → Understood (List Expression × Modes)
  | [] => return ([], modes)
  | part :: parts => do
    let (first, modes) ← part.meaning modes
    let (others, modes) ← Tree.meanings modes parts
    return (first :: others, modes)

end

end PagedMemory.Pattern
