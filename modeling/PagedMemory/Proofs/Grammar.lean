import Mathlib.Algebra.Group.Nat.Defs
import PagedMemory.Proofs.Fields
import PagedMemory.Proofs.Spacing

/-!
# The grammar of workloads

A workload is written as two counts and then one block of words for each process, with blanks
between the words and whatever one likes behind the last block.  `Workload.read_grammar` proves that
these texts and no others are read, and that what is read is what the blocks say, so that a workload
that is written down comes back unchanged.

The reader takes the words from one cursor in two nested loops.  Each loop gets one lemma, which
says what it takes from the front of the words, and the loops inside it enter only through theirs.
-/

namespace PagedMemory

namespace Workload

/-- The words are those of one process. -/
def Block (searches : Nat) (block : List (List Char)) (spec : ProcessSpec) : Prop :=
  block.length = 1 + searches ∧ List.Forall₂ Numeral.Denotes block spec.numbers

/-- The numbers of a workload, in the order in which they are written. -/
def numbers (workload : Workload) : List Nat :=
  workload.processes.size :: workload.searchesPerProcess ::
    workload.processes.toList.flatMap ProcessSpec.numbers

/-- The text consists of the two counts, a block for each process and something behind them. -/
def Describes (text : List Char) (workload : Workload) : Prop :=
  ∃ word word' blocks rest,
    Text.Spaced Text.isBlank (word :: word' :: (blocks.flatten ++ rest)) text ∧
      Numeral.Denotes word workload.processes.size ∧
      Numeral.Denotes word' workload.searchesPerProcess ∧
      List.Forall₂ (Block workload.searchesPerProcess) blocks workload.processes.toList

/-! ## What the loops take -/

section Loops

variable {searches process count : Nat} {cursor later : Cursor} {spec : ProcessSpec}

theorem readProcess_eq_ok_iff : readProcess searches process cursor = .ok (spec, later) ↔
    ∃ block rest, cursor.words = block ++ rest ∧ Block searches block spec ∧
      later = ⟨cursor.position + (searches + 1), rest⟩ := by
  have hread : readProcess searches process cursor = .ok (spec, later) ↔
      cursor.nextAll (processFields searches process) = .ok (spec.numbers, later) := by
    rw [← readProcess_eq]
    cases readProcess searches process cursor with
    | error reason => simp [Except.map]
    | ok read =>
      simp [Except.map, Prod.ext_iff, ProcessSpec.numbers_injective.eq_iff]
  rw [hread, Cursor.nextAll_eq_ok_iff, length_processFields]
  constructor
  · rintro ⟨hlength, block, rest, hsplit, hblock, hlater⟩
    exact ⟨block, rest, hsplit,
      ⟨by rw [hblock.length_eq, hlength, Nat.add_comm], hblock⟩, hlater⟩
  · rintro ⟨block, rest, hsplit, ⟨hlength, hblock⟩, hlater⟩
    exact ⟨by rw [← hblock.length_eq, hlength, Nat.add_comm],
      block, rest, hsplit, hblock, hlater⟩

theorem readProcesses_eq_ok_iff {processes specs : Array ProcessSpec} :
    readProcesses searches cursor processes count = .ok specs ↔
      ∃ others blocks rest, specs = processes ++ others.toArray ∧ others.length = count ∧
        cursor.words = blocks.flatten ++ rest ∧ List.Forall₂ (Block searches) blocks others := by
  induction count generalizing cursor processes with
  | zero =>
    constructor
    · rintro ⟨⟩
      exact ⟨[], [], cursor.words, by simp, rfl, rfl, .nil⟩
    · rintro ⟨others, _, _, rfl, hnone, _, _⟩
      rw [List.length_eq_zero_iff.1 hnone]
      simp [readProcesses]
  | succ count ih =>
    unfold readProcesses
    constructor
    · intro hread
      cases hfirst : readProcess searches processes.size cursor with
      | error reason =>
        rw [hfirst] at hread
        cases hread
      | ok first =>
        obtain ⟨spec, next⟩ := first
        obtain ⟨block, rest, hsplit, hblock, rfl⟩ := readProcess_eq_ok_iff.1 hfirst
        rw [hfirst] at hread
        obtain ⟨others, blocks, rest', rfl, rfl, hrest, hblocks⟩ := ih.1 hread
        refine ⟨spec :: others, block :: blocks, rest', by simp, rfl, ?_, .cons hblock hblocks⟩
        rw [hsplit, List.flatten_cons, List.append_assoc, ← hrest]
    · rintro ⟨others, blocks, rest, rfl, hcount, hsplit, hblocks⟩
      cases hblocks with
      | nil => cases hcount
      | @cons block spec blocks others hblock hblocks =>
        rw [List.flatten_cons, List.append_assoc] at hsplit
        rw [readProcess_eq_ok_iff.2 ⟨block, blocks.flatten ++ rest, hsplit, hblock, rfl⟩]
        exact ih.2 ⟨others, blocks, rest, by simp, Nat.succ.inj hcount, rfl, hblocks⟩

end Loops

/-! ## Blocks -/

/-- Each member of a list has a counterpart exactly if the whole list has one. -/
theorem exists_forall₂_iff {α β : Type} {related : α → β → Prop} {left : List α} :
    (∃ right, List.Forall₂ related left right) ↔
      ∀ member ∈ left, ∃ other, related member other := by
  induction left with
  | nil => simp
  | cons member left ih => simp [List.forall₂_cons_left_iff, ← ih]

/-- As many words as a process needs describe one if all of them denote numbers. -/
theorem exists_block_iff {searches : Nat} {block : List (List Char)} :
    (∃ spec, Block searches block spec) ↔
      block.length = 1 + searches ∧ ∀ word ∈ block, ∃ value, Numeral.Denotes word value := by
  rw [← exists_forall₂_iff]
  constructor
  · rintro ⟨spec, hlength, hvalues⟩
    exact ⟨hlength, spec.numbers, hvalues⟩
  · rintro ⟨hlength, values, hvalues⟩
    cases hvalues with
    | nil => exact absurd hlength (by rw [List.length_nil]; omega)
    | @cons _ arraySize _ keys hword hwords =>
      exact ⟨⟨arraySize, keys.toArray⟩, hlength, .cons hword hwords⟩

/-- The words that denote the numbers of several processes are a block for each of them. -/
theorem exists_blocks {searches : Nat} {words : List (List Char)} {specs : List ProcessSpec}
    (hsearches : ∀ spec ∈ specs, spec.keys.size = searches)
    (hwords : List.Forall₂ Numeral.Denotes words (specs.flatMap ProcessSpec.numbers)) :
    ∃ blocks, words = blocks.flatten ∧ List.Forall₂ (Block searches) blocks specs := by
  induction specs generalizing words with
  | nil => exact ⟨[], List.forall₂_nil_right_iff.1 hwords, .nil⟩
  | cons spec specs ih =>
    obtain ⟨hspec, hspecs⟩ := List.forall_mem_cons.1 hsearches
    rw [List.flatMap_cons] at hwords
    have hblock := List.forall₂_take_append _ _ _ hwords
    obtain ⟨blocks, hrest, hblocks⟩ := ih hspecs (List.forall₂_drop_append _ _ _ hwords)
    have hlength : spec.numbers.length = 1 + searches := by
      simp [ProcessSpec.numbers, hspec, Nat.add_comm]
    refine ⟨_ :: blocks, ?_, .cons ⟨hblock.length_eq.trans hlength, hblock⟩ hblocks⟩
    rw [List.flatten_cons, ← hrest, List.take_append_drop]

/-! ## What is read -/

theorem read_eq_ok_iff {text : List Char} {workload : Workload} :
    read text = .ok workload ↔
      workload.processes.size < processLimit ∧ Describes text workload := by
  simp only [read_eq_ok_iff_loops, Describes, ← Text.pieces_eq_iff, ← Text.words_eq_pieces]
  constructor
  · rintro ⟨count, cursor, hcounts, hlimit, hprocesses⟩
    obtain ⟨word, word', rest, hwords, hword, hword', rfl⟩ := readCounts_eq_ok_iff.1 hcounts
    obtain ⟨others, blocks, rest', hspecs, rfl, rfl, hblocks⟩ :=
      readProcesses_eq_ok_iff.1 hprocesses
    rw [hspecs, Array.empty_append, List.size_toArray]
    exact ⟨hlimit, word, word', blocks, rest', hwords, hword, hword', hblocks⟩
  · rintro ⟨hlimit, word, word', blocks, rest, hwords, hword, hword', hblocks⟩
    refine ⟨workload.processes.size, ⟨2, blocks.flatten ++ rest⟩, readCounts_eq_ok_iff.2
      ⟨word, word', _, hwords, hword, hword', rfl⟩, hlimit, readProcesses_eq_ok_iff.2
      ⟨workload.processes.toList, blocks, rest, ?_, rfl, rfl, hblocks⟩⟩
    rw [Array.toArray_toList, Array.empty_append]

/-- A workload that is written down is described by what is written. -/
theorem describes_of_writes {workload : Workload} {words rest : List (List Char)}
    {text : List Char}
    (hsearches : ∀ spec ∈ workload.processes.toList, spec.keys.size = workload.searchesPerProcess)
    (hwords : List.Forall₂ Numeral.Writes words workload.numbers)
    (htext : Text.Spaced Text.isBlank (words ++ rest) text) : Describes text workload := by
  obtain _ | ⟨hword, _ | ⟨hword', hothers⟩⟩ := hwords.imp fun _ _ ↦ Numeral.Writes.denotes
  obtain ⟨blocks, rfl, hblocks⟩ := exists_blocks hsearches hothers
  exact ⟨_, _, blocks, rest, htext, hword, hword', hblocks⟩

/-- The texts that are read are those of the grammar, and what is read is what their blocks say.
In particular a workload that is written down, between any blanks and with any words behind it, is
read back. -/
theorem read_grammar :
    (∀ text workload, read text = .ok workload ↔
      workload.processes.size < 2 ^ 58 ∧ Describes text workload) ∧
    (∀ text, (∃ workload, read text = .ok workload) ↔
      ∃ (word word' : List Char) (count searches : Nat) (blocks : List (List (List Char)))
        (rest : List (List Char)),
        Text.Spaced Text.isBlank (word :: word' :: (blocks.flatten ++ rest)) text ∧
          Numeral.Denotes word count ∧ Numeral.Denotes word' searches ∧ count < 2 ^ 58 ∧
          blocks.length = count ∧ ∀ block ∈ blocks, block.length = 1 + searches ∧
            ∀ word ∈ block, ∃ value, Numeral.Denotes word value) ∧
    ∀ workload : Workload, workload.processes.size < 2 ^ 58 →
      (∀ spec ∈ workload.processes.toList, spec.keys.size = workload.searchesPerProcess) →
      ∀ words rest text, List.Forall₂ Numeral.Writes words workload.numbers →
        Text.Spaced Text.isBlank (words ++ rest) text → read text = .ok workload := by
  refine ⟨fun text workload ↦ read_eq_ok_iff, fun text ↦ ?_, ?_⟩
  · simp only [read_eq_ok_iff, Describes, ← exists_block_iff]
    simp only [← exists_forall₂_iff]
    constructor
    · rintro ⟨workload, hlimit, word, word', blocks, rest, htext, hword, hword', hblocks⟩
      exact ⟨word, word', _, _, blocks, rest, htext, hword, hword', hlimit, hblocks.length_eq,
        _, hblocks⟩
    · rintro ⟨word, word', _, searches, blocks, rest, htext, hword, hword', hlimit, rfl, specs,
        hblocks⟩
      rw [hblocks.length_eq] at hlimit hword
      exact ⟨⟨searches, specs.toArray⟩, hlimit, word, word', blocks, rest, htext, hword, hword',
        hblocks⟩
  · intro workload hlimit hsearches words rest text hwords htext
    exact read_eq_ok_iff.2 ⟨hlimit, describes_of_writes hsearches hwords htext⟩

/-- Two processes with one search each. -/
def pair : Workload := ⟨1, #[⟨7, #[3]⟩, ⟨40, #[9]⟩]⟩

/-- A way to write the two processes down. -/
def scattered : List Char := "2\t001\n\n7 3\n040 9\nand so on".toList

/-- The words that count, and those that follow. -/
def scatteredWords : List (List Char) × List (List Char) :=
  (["2", "001", "7", "3", "040", "9"].map String.toList, ["and", "so", "on"].map String.toList)

theorem read_grammar_scattered :
    pair.processes.size < 2 ^ 58 ∧
      (∀ spec ∈ pair.processes.toList, spec.keys.size = pair.searchesPerProcess) ∧
      List.Forall₂ Numeral.Writes scatteredWords.1 pair.numbers ∧
      Text.Spaced Text.isBlank (scatteredWords.1 ++ scatteredWords.2) scattered ∧
      read scattered = .ok pair := by
  have hsize : pair.processes.size < 2 ^ 58 := by decide
  have hsearches : ∀ spec ∈ pair.processes.toList, spec.keys.size = pair.searchesPerProcess := by
    decide
  have hwords : List.Forall₂ Numeral.Writes scatteredWords.1 pair.numbers :=
    .cons ⟨by decide, 0, by decide⟩ (.cons ⟨by decide, 2, by decide⟩
      (.cons ⟨by decide, 0, by decide⟩ (.cons ⟨by decide, 0, by decide⟩
      (.cons ⟨by decide, 1, by decide⟩ (.cons ⟨by decide, 0, by decide⟩ .nil)))))
  have htext : Text.Spaced Text.isBlank (scatteredWords.1 ++ scatteredWords.2) scattered :=
    Text.pieces_eq_iff.1 (by decide)
  exact ⟨hsize, hsearches, hwords, htext,
    read_grammar.2.2 pair hsize hsearches _ _ _ hwords htext⟩

end Workload

end PagedMemory
