import PagedMemory.Pattern.Beginning
import PagedMemory.Pattern.Tree
import PagedMemory.Pattern.Graph
import PagedMemory.Pattern.Groups
import PagedMemory.Pattern.Fault
import PagedMemory.Pattern.Matching
import PagedMemory.Pattern.Meaning

/-!
# Patterns

A pattern is a regular expression as a text.  `Pattern.compile` reads it, finds out what it means,
and makes sure that it can be matched.  `Expression.occursIn` tells whether it matches a piece of a
text.
-/

namespace PagedMemory.Pattern

/-- Whether an expression asks for boundaries of words that are made of more than ASCII
characters. -/
def Expression.needsWordTable (expression : Expression) : Bool :=
  expression.anyPart fun
    | .look (.word _ unicode) => unicode
    | _ => false

/-- Why a pattern is refused. -/
inductive Refusal where
  | faulty (fault : Fault)
  | noWordTable
  | tooLarge
deriving DecidableEq, Repr

/-- The tree of a pattern that is well formed and not nested too deep. -/
def parse (pattern : List Char) : Except Fault Tree := do
  let tree ← Tree.read pattern
  match tree.depthFault? with
  | none => return tree
  | some fault => throw fault

/-- The expression that a pattern stands for.  Unless it is a list of texts, graphs are needed to
match it; the one to be followed forwards is made first. -/
def compile (pattern : List Char) : Except Refusal Expression :=
  match parse pattern >>= Tree.meaning {} with
  | .error fault => .error (.faulty fault)
  | .ok (expression, _) =>
    if expression.isListOfTexts then .ok expression
    else if !expression.fits false then .error .tooLarge
    else if expression.needsWordTable then .error .noWordTable
    else if !expression.fits true then .error .tooLarge
    else .ok expression

/-- The refusal as lines of text. -/
def Refusal.lines (pattern : List Char) : Refusal → List String
  | faulty fault => fault.lines pattern
  | noWordTable => ["error building NFA"]
  | tooLarge => [s!"Compiled regex exceeds size limit of {graphLimit} bytes."]

end PagedMemory.Pattern
