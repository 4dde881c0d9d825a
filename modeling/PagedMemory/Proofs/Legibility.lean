import Mathlib.Data.List.Basic
import PagedMemory.Proofs.Spacing
import PagedMemory.Report

/-!
# The table can be read back

A row of the table is made of cells, with blanks, brackets, plus and percent signs between them.  No
cell is empty or holds one of these, however large its number is, so that the cells of a row are the
pieces of its line, and each counter stands in a cell of its own.

`Report.render_legible` reads the rows back with `Report.readRow`, and concludes that a table
belongs to one report only.
-/

namespace PagedMemory

namespace Text

/-! ## Lines -/

/-- A text of lines, each with a newline behind it, has these lines only. -/
theorem splitOn_lines {lines : List (List Char)} (hlines : ∀ line ∈ lines, '\n' ∉ line) :
    (lines.flatMap (· ++ ['\n'])).splitOn '\n' = lines ++ [[]] := by
  induction lines with
  | nil => rfl
  | cons line lines ih =>
    obtain ⟨hline, hrest⟩ := List.forall_mem_cons.1 hlines
    have hinside : ∀ char ∈ line, (char == '\n') = false := by
      intro char hchar
      rw [beq_eq_false_iff_ne]
      rintro rfl
      exact hline hchar
    rw [List.flatMap_cons, List.append_assoc, List.singleton_append, List.cons_append, ← ih hrest]
    exact List.splitOnP_append_cons_of_forall_mem hinside '\n' rfl _

/-! ## Cells -/

/-- The characters between the cells of a row. -/
def separatesCells (char : Char) : Bool := " ()+%".toList.contains char

/-- Letters, digits and points, and at least one of them. -/
def IsCell (cell : List Char) : Prop :=
  cell ≠ [] ∧ ∀ char ∈ cell, char.isAlphanum = true ∨ char = '.'

theorem isCell_toDigits (number : Nat) : IsCell (Nat.toDigits 10 number) := by
  refine ⟨Nat.toDigits_ne_nil, fun char hchar ↦ .inl ?_⟩
  have hdigit := Nat.isDigit_of_mem_toDigits (by decide) (Nat.le_refl 10) hchar
  simp [Char.isAlphanum, hdigit]

theorem isCell_toString (number : Nat) : IsCell (toString number).toList := by
  rw [Nat.toString_eq_ofList_toDigits, String.toList_ofList]
  exact isCell_toDigits number

theorem IsCell.append {cell cell' : List Char} (h : IsCell cell) (h' : IsCell cell') :
    IsCell (cell ++ cell') := by
  refine ⟨List.append_ne_nil_of_left_ne_nil h.1 cell', fun char hchar ↦ ?_⟩
  rcases List.mem_append.1 hchar with hleft | hright
  · exact h.2 char hleft
  · exact h'.2 char hright

theorem isCell_percentage (part whole : Nat) : IsCell (Percentage.text part whole).toList := by
  have hpoint : IsCell ".".toList := ⟨by simp, by simp⟩
  unfold Percentage.text Percentage.fixedPoint
  simp only [String.toList_append]
  exact (((isCell_toString _).append hpoint).append (isCell_toString _)).append (isCell_toString _)

theorem IsCell.not_separates {cell : List Char} (h : IsCell cell) :
    ∀ char ∈ cell, separatesCells char = false := by
  intro char hchar
  cases hseparates : separatesCells char with
  | false => rfl
  | true =>
    have hone : char ∈ [' ', '(', ')', '+', '%'] := List.contains_iff_mem.1 hseparates
    have hother : ¬ (char.isAlphanum = true ∨ char = '.') := by
      simp only [List.mem_cons, List.not_mem_nil, or_false] at hone
      rcases hone with rfl | rfl | rfl | rfl | rfl <;> decide
    exact absurd (h.2 char hchar) hother

theorem IsCell.newline_not_mem {cell : List Char} (h : IsCell cell) : '\n' ∉ cell := by
  intro hnewline
  rcases h.2 _ hnewline with hletter | hpoint
  · cases hletter
  · cases hpoint

theorem separatesCells_of_mem_replicate {count : Nat} :
    ∀ char ∈ List.replicate count ' ', separatesCells char = true := by
  intro char hblank
  rw [List.eq_of_mem_replicate hblank]
  rfl

end Text

namespace Report

open Text

/-- What stands in the cells of a row. -/
def cells (label : String) (counters : Counters) : List String :=
  [label, toString counters.accesses,
    toString counters.faults, Percentage.text counters.faults counters.accesses,
    toString counters.replacements, Percentage.text counters.replacements counters.accesses] ++
  (Affinity.all.map fun affinity ↦ toString (counters.attempts.get affinity)) ++
  Affinity.all.map fun affinity ↦
    Percentage.text (counters.attempts.get affinity) counters.replacements

/-- The label and the counters that a line shows. -/
def readRow (line : List Char) : Option (List Char × Counters) :=
  match pieces separatesCells line with
  | [label, accesses, faults, _, replacements, _, exactReuse, unowned, sameOwner, fallback,
      _, _, _, _] =>
    let number (cell : List Char) : Nat := Nat.ofDigitChars 10 cell 0
    some (label, {
      accesses := number accesses
      faults := number faults
      replacements := number replacements
      attempts := {
        exactReuse := number exactReuse
        unowned := number unowned
        sameOwner := number sameOwner
        fallback := number fallback } })
  | _ => none

theorem pieces_count_append (width number : Nat) (rest : List Char) :
    pieces separatesCells ((count width number).toList ++ ' ' :: rest) =
      (toString number).toList :: pieces separatesCells rest := by
  have hcell := isCell_toString number
  unfold count alignRight
  rw [String.toList_append, String.toList_ofList, List.append_assoc,
    pieces_gap_append separatesCells_of_mem_replicate,
    pieces_piece_append hcell.1 hcell.not_separates (by simp [separatesCells]),
    pieces_cons_of_separates rfl]

theorem pieces_share_append (width part whole : Nat) (rest : List Char) :
    pieces separatesCells ((share width part whole).toList ++ rest) =
      (Percentage.text part whole).toList :: pieces separatesCells rest := by
  have hcell := isCell_percentage part whole
  unfold share alignRight
  rw [String.toList_append, String.toList_append, String.toList_ofList, List.append_assoc,
    List.append_assoc, pieces_gap_append separatesCells_of_mem_replicate,
    pieces_piece_append hcell.1 hcell.not_separates (by simp [separatesCells])]
  exact congrArg _ (pieces_cons_of_separates rfl rest)

theorem pieces_share (width part whole : Nat) :
    pieces separatesCells (share width part whole).toList =
      [(Percentage.text part whole).toList] := by
  have hlast := pieces_share_append width part whole []
  rwa [List.append_nil] at hlast

theorem pieces_label_append {label : String} (hlabel : IsCell label.toList) (rest : List Char) :
    pieces separatesCells ((alignLeft 8 label).toList ++ ' ' :: rest) =
      label.toList :: pieces separatesCells rest := by
  unfold alignLeft
  rw [String.toList_append, String.toList_ofList, List.append_assoc,
    pieces_piece_append hlabel.1 hlabel.not_separates,
    pieces_gap_append separatesCells_of_mem_replicate, pieces_cons_of_separates rfl]
  cases 8 - label.length with
  | zero => simp [separatesCells]
  | succ count => simp [separatesCells, List.replicate_succ]

theorem row_eq {label : String} (hlabel : IsCell label.toList) (counters : Counters) :
    ∃ front : String, row label counters = front ++ ")\n" ∧
      pieces separatesCells front.toList = (cells label counters).map String.toList := by
  refine ⟨_, rfl, ?_⟩
  simp [Affinity.all, cells, pieces_label_append hlabel, pieces_count_append, pieces_share_append,
    pieces_share, pieces_cons_of_separates, separatesCells]

theorem isCell_of_mem_cells {label : String} (hlabel : IsCell label.toList) (counters : Counters) :
    ∀ cell ∈ (cells label counters).map String.toList, IsCell cell := by
  simp [cells, Affinity.all, hlabel, isCell_toDigits, isCell_percentage]

/-- A row without the newline at its end. -/
def line (label : String) (counters : Counters) : List Char := (row label counters).toList.dropLast

section Line

variable {label : String} (hlabel : IsCell label.toList) (counters : Counters)

include hlabel

theorem toList_row : (row label counters).toList = line label counters ++ ['\n'] := by
  obtain ⟨front, hrow, _⟩ := row_eq hlabel counters
  unfold line
  rw [hrow]
  simp

theorem pieces_line : pieces separatesCells (line label counters) =
    (cells label counters).map String.toList := by
  obtain ⟨front, hrow, hfront⟩ := row_eq hlabel counters
  have hline : line label counters = front.toList ++ [')'] := by
    unfold line
    rw [hrow]
    simp
  rw [hline, pieces_append_cons_of_separates rfl, hfront]
  exact List.append_nil _

/-- Nothing in a row breaks its line. -/
theorem newline_not_mem_line : '\n' ∉ line label counters := by
  intro hnewline
  have hplace : separatesCells '\n' = true ∨
      ∃ cell ∈ pieces separatesCells (line label counters), '\n' ∈ cell :=
    separates_or_mem_pieces hnewline
  rcases hplace with hseparates | ⟨cell, hcell, hmem⟩
  · cases hseparates
  · rw [pieces_line hlabel counters] at hcell
    exact (isCell_of_mem_cells hlabel counters cell hcell).newline_not_mem hmem

/-- The line of a row shows its label and its counters. -/
theorem readRow_line : readRow (line label counters) = some (label.toList, counters) := by
  unfold readRow
  rw [pieces_line hlabel counters]
  simp [cells, Affinity.all, AffinityTally.get]

end Line

/-! ## Tables -/

/-- The lines above the rows. -/
def titles : List (List Char) :=
  ["+++ Page access summary".toList,
    "    PID      Accesses        Faults           Replacements          Attempts".toList]

/-- The lines of the processes. -/
def processLines (report : Report) : List (List Char) :=
  report.processes.zipIdx.map fun (counters, number) ↦ line (toString number) counters

/-- All lines of a table. -/
def lines (report : Report) : List (List Char) :=
  titles ++ report.processLines ++ [[], line "Total" report.total]

theorem isCell_total : IsCell "Total".toList := by
  have hletters : "Total".toList.all Char.isAlphanum = true := by decide
  exact ⟨by simp, fun char hchar ↦ .inl (List.all_eq_true.1 hletters char hchar)⟩

theorem toList_join_rows (report : Report) :
    (String.join (report.processes.zipIdx.map fun (counters, number) ↦
      row (toString number) counters)).toList = report.processLines.flatMap (· ++ ['\n']) := by
  unfold processLines
  rw [String.toList_join, List.flatMap_map, List.flatMap_map]
  apply List.flatMap_congr
  rintro ⟨counters, number⟩ _
  exact toList_row (isCell_toString number) counters

theorem toList_render (report : Report) :
    report.render.toList = report.lines.flatMap (· ++ ['\n']) := by
  have hheading : heading.toList = titles.flatMap (· ++ ['\n']) := by decide +kernel
  unfold render lines
  rw [String.toList_append, String.toList_append, String.toList_append, hheading,
    toList_join_rows, toList_row isCell_total]
  simp

theorem newline_not_mem_lines (report : Report) : ∀ line ∈ report.lines, '\n' ∉ line := by
  have htitles : ∀ line ∈ titles, '\n' ∉ line := by simp [titles]
  have hprocesses : ∀ line ∈ report.processLines, '\n' ∉ line := by
    intro line hline
    obtain ⟨⟨counters, number⟩, _, rfl⟩ := List.mem_map.1 hline
    exact newline_not_mem_line (isCell_toString number) counters
  have htotal := newline_not_mem_line isCell_total report.total
  simp only [lines, List.forall_mem_append, List.forall_mem_cons]
  exact ⟨⟨htitles, hprocesses⟩, List.not_mem_nil, htotal, nofun⟩

theorem readRow_processLines (report : Report) : report.processLines.map readRow =
    report.processes.zipIdx.map fun (counters, number) ↦
      some ((toString number).toList, counters) := by
  unfold processLines
  rw [List.map_map]
  apply List.map_congr_left
  rintro ⟨counters, number⟩ _
  rw [Function.comp_apply]
  exact readRow_line (isCell_toString number) counters

/-- What the lines of the processes show are their counters. -/
theorem map_readRow_processLines (report : Report) :
    (report.processLines.map readRow).map (Option.map Prod.snd) = report.processes.map some := by
  rw [readRow_processLines, List.map_map]
  calc
    _ = (report.processes.zipIdx.map Prod.fst).map some := by
      rw [List.map_map]
      rfl
    _ = _ := by rw [List.zipIdx_map_fst]

theorem lines_injective : Function.Injective lines := by
  intro report report' hlines
  obtain ⟨hfront, hback⟩ := List.append_inj' hlines (by simp)
  have hrows := List.append_cancel_left hfront
  have hprocesses : report.processes.map some = report'.processes.map some := by
    rw [← map_readRow_processLines, hrows, map_readRow_processLines]
  have htotal : some ("Total".toList, report.total) = some ("Total".toList, report'.total) := by
    rw [← readRow_line isCell_total, (List.cons.inj (List.cons.inj hback).2).1,
      readRow_line isCell_total]
  exact congrArg₂ Report.mk (Prod.mk.inj (Option.some.inj htotal)).2
    (List.map_injective_iff.2 (fun _ _ ↦ Option.some.inj) hprocesses)

theorem render_injective : Function.Injective render := by
  intro report report' hsame
  apply lines_injective
  have hsplit : report.lines ++ [[]] = report'.lines ++ [[]] := by
    rw [← splitOn_lines report.newline_not_mem_lines, ← splitOn_lines report'.newline_not_mem_lines,
      ← toList_render, ← toList_render, hsame]
  exact List.append_cancel_right hsplit

/-- A table belongs to one report only.  It has a line for every process and four others, and the
counters of each can be read off its line. -/
theorem render_legible : Function.Injective render ∧
    ∀ report : Report, ∃ rows total,
      report.render.toList = (titles ++ rows ++ [[], total]).flatMap (· ++ ['\n']) ∧
        (∀ line ∈ titles ++ rows ++ [[], total], '\n' ∉ line) ∧
        (titles ++ rows ++ [[], total]).length = report.processes.length + 4 ∧
        rows.map readRow = (report.processes.zipIdx.map fun (counters, number) ↦
          some ((toString number).toList, counters)) ∧
        readRow total = some ("Total".toList, report.total) := by
  refine ⟨render_injective, fun report ↦ ⟨report.processLines, line "Total" report.total,
    toList_render report, newline_not_mem_lines report, ?_, readRow_processLines report,
    readRow_line isCell_total report.total⟩⟩
  simp [titles, processLines]

end Report

end PagedMemory
