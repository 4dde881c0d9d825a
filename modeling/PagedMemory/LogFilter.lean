import PagedMemory.Event
import PagedMemory.Pattern
import PagedMemory.Text

/-!
# Filtering the log

Which events are shown is told by a text of directives with commas between them.  A directive is a
level, an origin, or an origin and a level with an equals sign between them; an origin without a
level admits every level, and a level without an origin holds for all origins.  Of the directives
whose origin an event's origin begins with, the longest decides, and a later directive replaces an
earlier one for the same origin.  A text without directives admits errors alone.

Behind a slash there may be a pattern that has to match some piece of every shown message.  What is
not understood, of the directives or of the pattern, is left out, and complained about.
-/

namespace PagedMemory

namespace LogLevel

/-- The threshold that a level's name stands for, in upper or lower case.  The name "off" admits no
level. -/
def threshold? (text : String) : Option (Option LogLevel) :=
  if text.toLower = "off" then some none else (ofName? text.toLower).map some

/-- The upper-case name, five characters wide. -/
def heading (level : LogLevel) : String :=
  .ofList ((level.name.toUpper.toList ++ List.replicate 5 ' ').take 5)

end LogLevel

/-- Admits the levels up to a threshold for the origins that begin with a text. -/
structure LogDirective where
  origin : Option String := none
  threshold : Option LogLevel
deriving DecidableEq

/-- Directives in the order in which they were given, and the expression that messages have to
match. -/
structure LogFilter where
  directives : List LogDirective
  required : Option Pattern.Expression := none

namespace LogDirective

/-- Whether the directive has a say about an origin. -/
def concerns (directive : LogDirective) (origin : String) : Bool :=
  directive.origin.all fun start ↦ start.toList.isPrefixOf origin.toList

/-- The length of the directive's origin. -/
def length (directive : LogDirective) : Nat := (directive.origin.map String.length).getD 0

/-- Whether a level is within the threshold. -/
def admits (directive : LogDirective) (level : LogLevel) : Bool :=
  directive.threshold.any fun threshold ↦ level.rank ≤ threshold.rank

/-- Reads a directive.  The error is the part that cannot be understood. -/
def read (text : List Char) : Except String LogDirective :=
  match text.splitOn '=' with
  | [single] =>
    let single : String := .ofList single
    match LogLevel.threshold? single with
    | some threshold => .ok { threshold }
    | none => .ok { origin := some single, threshold := some .trace }
  | [origin, level] =>
    let level : String := .ofList (Text.trim level)
    if level.isEmpty then
      .ok { origin := some (.ofList origin), threshold := some .trace }
    else
      match LogLevel.threshold? level with
      | some threshold => .ok { origin := some (.ofList origin), threshold }
      | none => .error level
  | _ => .error (.ofList text)

end LogDirective

namespace LogFilter

/-- The filter of a text without directives. -/
def standard : LogDirective := { threshold := some .error }

/-- Adds a directive, in place of an earlier one for the same origin. -/
def insert (directives : List LogDirective) (directive : LogDirective) : List LogDirective :=
  if directives.any (·.origin = directive.origin) then
    directives.map fun known ↦ if known.origin = directive.origin then directive else known
  else
    directives ++ [directive]

/-- A complaint about a part of the text that is not understood, as lines of text. -/
def complaint (part note : String) : List String :=
  Text.printedLines (s!"warning: invalid logging spec '{part}', ignoring it" ++ note)

/-- Reads directives with commas between them, and complains about those that are not understood. -/
def readDirectives (text : List Char) : List LogDirective × List String :=
  let parts := ((text.splitOn ',').map Text.trim).filter fun part ↦ !part.isEmpty
  let results := parts.map LogDirective.read
  let directives := results.filterMap fun
    | .ok directive => some directive
    | .error _ => none
  let complaints := results.flatMap fun
    | .ok _ => []
    | .error part => complaint part ""
  (directives.foldl insert [], complaints)

/-- Reads a pattern, or complains about it. -/
def readPattern (text : List Char) : Option Pattern.Expression × List String :=
  match Pattern.compile text with
  | .ok expression => (some expression, [])
  | .error refusal =>
    match refusal.lines text with
    | [] => (none, [])
    | first :: others => (none, ("warning: invalid regex filter - " ++ first) :: others)

/-- Reads a filter, and complains about what is not understood. -/
def read (text : String) : LogFilter × List String :=
  match text.toList.splitOn '/' with
  | [directives] =>
    let (directives, complaints) := readDirectives directives
    ({ directives }, complaints)
  | [directives, pattern] =>
    let (directives, complaints) := readDirectives directives
    let (required, others) := readPattern pattern
    ({ directives, required }, complaints ++ others)
  | _ =>
    ({ directives := [] }, complaint text " (too many '/'s)")

/-- The directive that decides about an origin. -/
def decisive? (filter : LogFilter) (origin : String) : Option LogDirective :=
  let directives := if filter.directives.isEmpty then [standard] else filter.directives
  directives.foldl
    (fun best directive ↦
      if directive.concerns origin && best.all fun known ↦ known.length ≤ directive.length then
        some directive
      else
        best)
    none

/-- Whether an event is shown. -/
def admits (filter : LogFilter) (event : Event) : Bool :=
  (filter.decisive? event.origin).any (·.admits event.level) &&
    filter.required.all fun expression ↦ expression.occursIn event.message.toList

end LogFilter

/-- The lines that an event fills in the log.  Lines behind the first are indented. -/
def Event.lines (event : Event) : List String :=
  match Text.printedLines event.message with
  | [] => []
  | first :: rest =>
    (s!"[{event.level.heading} {event.origin}] " ++ first) :: rest.map ("    " ++ ·)

end PagedMemory
