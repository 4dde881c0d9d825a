import Mathlib.Data.List.TakeWhile
import PagedMemory.Text

/-!
# Spaced texts

Some characters separate.  The pieces of a text are its longest stretches of other characters, and
its words are the pieces between blanks.

`Text.Spaced` says the same from the writer's side: each piece stands behind separators, as many as
one likes, and at least one separator follows it unless the text ends there.  By
`Text.pieces_eq_iff` a text has exactly those pieces that it can be written from, so that no choice
of separators makes a difference to its reader.
-/

namespace PagedMemory.Text

/-- The longest stretches of a text without a separator. -/
def pieces (separates : Char → Bool) (text : List Char) : List (List Char) :=
  (text.splitOnP separates).filter fun piece ↦ !piece.isEmpty

theorem words_eq_pieces (text : List Char) : words text = pieces isBlank text := rfl

/-- The text consists of the pieces, with separators between them and around them. -/
inductive Spaced (separates : Char → Bool) : List (List Char) → List Char → Prop
  | gap {gap : List Char} (hgap : ∀ char ∈ gap, separates char = true) : Spaced separates [] gap
  | piece {gap piece text : List Char} {others : List (List Char)}
      (hgap : ∀ char ∈ gap, separates char = true) (hsome : piece ≠ [])
      (hsolid : ∀ char ∈ piece, separates char = false)
      (hapart : ∀ char ∈ text.head?, separates char = true)
      (hothers : Spaced separates others text) :
      Spaced separates (piece :: others) (gap ++ (piece ++ text))

variable {separates : Char → Bool}

/-! ## From the text to its pieces -/

theorem pieces_append_cons_of_separates {char : Char} (hseparates : separates char = true)
    (text text' : List Char) : pieces separates (text ++ char :: text') =
      pieces separates text ++ pieces separates text' := by
  unfold pieces
  rw [List.splitOnP_append_cons _ _ hseparates, List.filter_append]

theorem pieces_cons_of_separates {char : Char} (hseparates : separates char = true)
    (text : List Char) : pieces separates (char :: text) = pieces separates text :=
  pieces_append_cons_of_separates hseparates [] text

/-- Separators at the beginning do not show. -/
theorem pieces_gap_append {gap : List Char} (hgap : ∀ char ∈ gap, separates char = true)
    (text : List Char) : pieces separates (gap ++ text) = pieces separates text := by
  induction gap with
  | nil => rfl
  | cons char gap ih =>
    obtain ⟨hfirst, hrest⟩ := List.forall_mem_cons.1 hgap
    rw [List.cons_append, pieces_cons_of_separates hfirst, ih hrest]

/-- What stands in front of the first separator is a piece. -/
theorem pieces_piece_append {piece text : List Char} (hsome : piece ≠ [])
    (hsolid : ∀ char ∈ piece, separates char = false)
    (hapart : ∀ char ∈ text.head?, separates char = true) :
    pieces separates (piece ++ text) = piece :: pieces separates text := by
  have hkept (others : List (List Char)) : (piece :: others).filter (fun part ↦ !part.isEmpty) =
      piece :: others.filter fun part ↦ !part.isEmpty :=
    List.filter_cons_of_pos (by simpa using hsome)
  cases text with
  | nil =>
    unfold pieces
    rw [List.append_nil, List.splitOnP_eq_singleton hsolid, hkept]
    rfl
  | cons char text =>
    have hseparates := hapart char rfl
    rw [pieces_cons_of_separates hseparates]
    unfold pieces
    rw [List.splitOnP_append_cons_of_forall_mem hsolid char hseparates, hkept]

theorem Spaced.pieces_eq {text : List Char} {parts : List (List Char)}
    (h : Spaced separates parts text) : pieces separates text = parts := by
  induction h with
  | @gap gap hgap =>
    have hnone := pieces_gap_append hgap []
    rw [List.append_nil] at hnone
    exact hnone
  | piece hgap hsome hsolid hapart _ ih =>
    rw [pieces_gap_append hgap, pieces_piece_append hsome hsolid hapart, ih]

theorem ne_nil_of_mem_pieces {piece text : List Char} (hpiece : piece ∈ pieces separates text) :
    piece ≠ [] := by
  rintro rfl
  simp [pieces] at hpiece

/-! ## From the pieces to the text -/

/-- Every text is written from its pieces. -/
theorem spaced_pieces (separates : Char → Bool) (text : List Char) :
    Spaced separates (pieces separates text) text := by
  induction hlength : text.length using Nat.strongRecOn generalizing text with
  | ind length ih =>
    subst hlength
    have hgap : ∀ char ∈ text.takeWhile separates, separates char = true :=
      fun char hchar ↦ List.mem_takeWhile_imp hchar
    have hsplit := List.takeWhile_append_dropWhile (p := separates) (l := text)
    have hshorter := List.length_dropWhile_le separates text
    cases hrest : text.dropWhile separates with
    | nil =>
      rw [hrest, List.append_nil] at hsplit
      rw [hsplit] at hgap
      rw [(Spaced.gap hgap).pieces_eq]
      exact .gap hgap
    | cons char rest =>
      have hstarts := List.head?_dropWhile_not separates text
      rw [hrest] at hsplit hshorter hstarts
      have hsolid : ∀ other ∈ rest.takeWhile (!separates ·), separates other = false :=
        fun other hother ↦ by simpa using List.mem_takeWhile_imp hother
      have hapart : ∀ other ∈ (rest.dropWhile (!separates ·)).head?, separates other = true := by
        intro other hother
        have hends := List.head?_dropWhile_not (!separates ·) rest
        rw [hother] at hends
        simpa using hends
      have hlater := ih (rest.dropWhile (!separates ·)).length
        (Nat.lt_of_le_of_lt (List.length_dropWhile_le _ rest) hshorter) _ rfl
      have hspaced := Spaced.piece hgap (List.cons_ne_nil char _)
        (List.forall_mem_cons.2 ⟨hstarts, hsolid⟩) hapart hlater
      rw [List.cons_append, List.takeWhile_append_dropWhile, hsplit] at hspaced
      rw [hspaced.pieces_eq]
      exact hspaced

/-- There is nothing in a text but its pieces and what separates them. -/
theorem separates_or_mem_pieces {char : Char} {text : List Char} (hchar : char ∈ text) :
    separates char = true ∨ ∃ piece ∈ pieces separates text, char ∈ piece := by
  have hspaced := spaced_pieces separates text
  generalize pieces separates text = parts at hspaced
  induction hspaced with
  | gap hgap => exact .inl (hgap char hchar)
  | @piece gap piece text others hgap _ _ _ _ ih =>
    rcases List.mem_append.1 hchar with hgapped | hrest
    · exact .inl (hgap char hgapped)
    · rcases List.mem_append.1 hrest with hpiece | htext
      · exact .inr ⟨piece, List.mem_cons_self, hpiece⟩
      · refine (ih htext).imp_right ?_
        rintro ⟨other, hother, hmem⟩
        exact ⟨other, List.mem_cons_of_mem piece hother, hmem⟩

/-- A text has exactly the pieces that it is written from. -/
theorem pieces_eq_iff {text : List Char} {parts : List (List Char)} :
    pieces separates text = parts ↔ Spaced separates parts text := by
  constructor
  · rintro rfl
    exact spaced_pieces separates text
  · exact Spaced.pieces_eq

end PagedMemory.Text
