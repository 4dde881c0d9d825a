import Mathlib.Algebra.Group.Nat.Defs
import PagedMemory.Proofs.Offences

/-!
# Texts that describe no workload

The counts at the front of a text say how many words have to follow.  The text is `Complete` if all
of them are there and denote numbers.  It is `Oversized` if the counts announce more processes than
memory could ever hold, whether or not their words follow.

The two properties tell in which of three ways reading ends.  An oversized text crashes the program
(`read_eq_crash_iff`), since room is set aside for all processes before the first of their words is
looked at.  Of the others, a complete text gives a workload (`exists_read_iff`) and an incomplete
one is reported.
-/

namespace PagedMemory.Workload

variable {words : List (List Char)} {text : List Char}

/-- All words that the counts call for are there, and denote numbers. -/
def Complete (words : List (List Char)) : Prop :=
  ∃ count searches, Counts words count searches ∧
    ∀ index < 2 + count * (searches + 1), Filled words index

/-- More processes are announced than there can be room for. -/
def Oversized (words : List (List Char)) : Prop :=
  ∃ count searches, Counts words count searches ∧ 2 ^ 58 ≤ count

/-! ## Texts with counts -/

theorem Complete.exists_counts (h : Complete words) :
    ∃ count searches, Counts words count searches := by
  obtain ⟨count, searches, hcounts, -⟩ := h
  exact ⟨count, searches, hcounts⟩

theorem Counts.complete_iff {count searches : Nat} (h : Counts words count searches) :
    Complete words ↔ ∀ index < count * (searches + 1), Filled (words.drop 2) index := by
  rw [← h.filled_iff, Nat.add_comm]
  constructor
  · rintro ⟨count', searches', hcounts, hfilled⟩
    obtain ⟨rfl, rfl⟩ := h.unique hcounts
    exact hfilled
  · exact fun hfilled ↦ ⟨count, searches, h, hfilled⟩

theorem Counts.oversized_iff {count searches : Nat} (h : Counts words count searches) :
    Oversized words ↔ processLimit ≤ count := by
  constructor
  · rintro ⟨count', searches', hcounts, hlarge⟩
    obtain ⟨rfl, rfl⟩ := h.unique hcounts
    exact hlarge
  · exact fun hlarge ↦ ⟨count, searches, h, hlarge⟩

/-- The processes are read exactly if each of their fields has a word that denotes a number. -/
theorem exists_readProcesses_iff {searches count : Nat} {cursor : Cursor}
    {processes : Array ProcessSpec} :
    (∃ specs, readProcesses searches cursor processes count = .ok specs) ↔
      ∀ index < count * (searches + 1), Filled cursor.words index := by
  rw [← length_fieldsFrom searches processes.size]
  constructor
  · rintro ⟨specs, hread⟩ index
    -- The first field without such a word would be reported.
    induction index using Nat.strongRecOn with
    | ind index ih =>
      intro hinside
      by_contra hunfilled
      obtain ⟨reason, hfault⟩ := Option.ne_none_iff_exists'.1
        (mt fault?_eq_none_iff.1 hunfilled)
      have herror := readProcesses_eq_error_iff.2 ⟨index, _, List.getElem?_eq_getElem hinside,
        fun earlier hearlier ↦ ih earlier hearlier (hearlier.trans hinside), hfault⟩
      rw [hread] at herror
      cases herror
  · intro hfilled
    cases hread : readProcesses searches cursor processes count with
    | ok specs => exact ⟨specs, rfl⟩
    | error reason =>
      obtain ⟨index, field, hfield, -, hfault⟩ := readProcesses_eq_error_iff.1 hread
      have hinside := (List.getElem?_eq_some_iff.1 hfield).1
      rw [fault?_eq_none_iff.2 (hfilled index hinside)] at hfault
      cases hfault

/-! ## How reading ends -/

theorem read_eq_crash_iff : read text = .crash ↔ Oversized (Text.words text) := by
  unfold read
  cases hread : readCounts { words := Text.words text } with
  | error reason =>
    apply iff_of_false nofun
    rintro ⟨count, searches, hcounts, _⟩
    rw [readCounts_eq_ok_iff_counts.2 ⟨hcounts, rfl⟩] at hread
    cases hread
  | ok counts =>
    obtain ⟨⟨count, searches⟩, cursor⟩ := counts
    rw [(readCounts_eq_ok_iff_counts.1 hread).1.oversized_iff]
    by_cases hlarge : processLimit ≤ count
    · exact iff_of_true (if_pos hlarge) hlarge
    · apply iff_of_false _ hlarge
      simp only [hlarge, if_false]
      cases readProcesses searches cursor #[] count <;> exact nofun

theorem exists_read_iff :
    (∃ workload, read text = .ok workload) ↔
      Complete (Text.words text) ∧ ¬ Oversized (Text.words text) := by
  simp only [read_eq_ok_iff_loops, readCounts_eq_ok_iff_counts]
  constructor
  · rintro ⟨workload, count, _, ⟨hcounts, rfl⟩, hlimit, hprocesses⟩
    rw [hcounts.complete_iff, hcounts.oversized_iff, Nat.not_le]
    exact ⟨exists_readProcesses_iff.1 ⟨_, hprocesses⟩, hlimit⟩
  · rintro ⟨hcomplete, hsmall⟩
    obtain ⟨count, searches, hcounts⟩ := hcomplete.exists_counts
    rw [hcounts.complete_iff] at hcomplete
    rw [hcounts.oversized_iff, Nat.not_le] at hsmall
    let cursor : Cursor := ⟨2, (Text.words text).drop 2⟩
    obtain ⟨specs, hprocesses⟩ : ∃ specs, readProcesses searches cursor #[] count = .ok specs :=
      exists_readProcesses_iff.2 hcomplete
    exact ⟨⟨searches, specs⟩, count, cursor, ⟨hcounts, rfl⟩, hsmall, hprocesses⟩

/-- A text from which a word is missing that its counts call for, or in which such a word denotes no
number, is reported as an error, whatever numbers it announces, as long as there can be room for its
processes.  If there cannot be, the program stops before it looks for any of the announced words. -/
theorem malformed_reported (text : List Char) :
    ∃ words, Text.Spaced Text.isBlank words text ∧
      (read text = .crash ↔ Oversized words) ∧
      ((∃ reason, read text = .error reason) ↔ ¬ Complete words ∧ ¬ Oversized words) := by
  refine ⟨Text.words text, Text.spaced_pieces _ _, read_eq_crash_iff, ?_⟩
  rw [Outcome.exists_error_iff, exists_read_iff, Ne, read_eq_crash_iff]
  tauto

/-- The counts of a workload for which there is no room, and nothing else. -/
def overcommitted : List Char := "288230376151711744 1".toList

theorem read_overcommitted_crashes :
    ¬ Complete (Text.words overcommitted) ∧ read overcommitted = .crash := by
  have hcrash : read overcommitted = .crash := by decide +kernel
  have hwords : Text.words overcommitted = ["288230376151711744".toList, "1".toList] := by
    decide +kernel
  refine ⟨?_, hcrash⟩
  rintro ⟨count, searches, hcounts, hfilled⟩
  have hlarge := hcounts.oversized_iff.1 (read_eq_crash_iff.1 hcrash)
  have hthird : 2 < 2 + count * (searches + 1) :=
    Nat.lt_add_of_pos_right (Nat.mul_pos (Nat.lt_of_lt_of_le (by decide) hlarge) (Nat.succ_pos _))
  obtain ⟨word, value, hword, -⟩ := hfilled 2 hthird
  rw [hwords] at hword
  cases hword

/-- Two processes with as many searches as can be written, of which only the first array size is
there. -/
def unfinished : List Char := "2 18446744073709551615 7".toList

theorem malformed_reported_unfinished :
    (∃ reason, read unfinished = .error reason) ∧ ∃ words,
      Text.Spaced Text.isBlank words unfinished ∧ ¬ Complete words ∧ ¬ Oversized words := by
  obtain ⟨words, hwords, -, herror⟩ := malformed_reported unfinished
  have hread : read unfinished = .error (.missing (.key 0 0) 4) := by decide +kernel
  exact ⟨⟨_, hread⟩, words, hwords, herror.1 ⟨_, hread⟩⟩

end PagedMemory.Workload
