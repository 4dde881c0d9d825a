import PagedMemory.Counters
import PagedMemory.Percentage
import PagedMemory.Text

/-!
# Reports

The result of a run is a report: the counters of the machine and of each process.

A report is printed as a table: two lines of heading, a row for each process by number, an empty
line, and a row for the whole machine.  A row holds the counters themselves and, beside them, faults
and replacements as percentages of the accesses, and the attempts of each affinity rule as
percentages of the replacements.  Columns have a least width; a number that needs more room takes
it.
-/

namespace PagedMemory

/-- The counters of the machine and of every process, by number. -/
structure Report where
  total : Counters
  processes : List Counters
deriving DecidableEq

/-! ## The table -/

namespace Report

open Text (alignLeft alignRight)

/-- A number in a column. -/
def count (width number : Nat) : String := alignRight width (toString number)

/-- A percentage in a column. -/
def share (width part whole : Nat) : String := alignRight width (Percentage.text part whole) ++ "%"

/-- One row of the table. -/
def row (label : String) (counters : Counters) : String :=
  let counts := Affinity.all.map fun affinity ↦ count 3 (counters.attempts.get affinity)
  let shares := Affinity.all.map fun affinity ↦
    share 4 (counters.attempts.get affinity) counters.replacements
  "    " ++ alignLeft 8 label ++ " " ++ count 8 counters.accesses ++
    "    " ++ count 5 counters.faults ++
    " (" ++ share 5 counters.faults counters.accesses ++ ")" ++
    "    " ++ count 5 counters.replacements ++
    " (" ++ share 5 counters.replacements counters.accesses ++ ")" ++
    "    " ++ " + ".intercalate counts ++ " (" ++ " + ".intercalate shares ++ ")\n"

/-- The two lines above the rows. -/
def heading : String :=
  "+++ Page access summary\n" ++
    "    PID      Accesses        Faults           Replacements          Attempts\n"

/-- The whole table. -/
def render (report : Report) : String :=
  let rows := report.processes.zipIdx.map fun (counters, number) ↦ row (toString number) counters
  heading ++ String.join rows ++ "\n" ++ row "Total" report.total

end Report

end PagedMemory
