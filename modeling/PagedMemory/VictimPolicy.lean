import PagedMemory.PageTable

/-!
# Choosing a victim

When memory is short, an incoming page takes the place of a resident page of the same process, the
*victim*.  Who is the victim is a policy of its own: `VictimPolicy ρ` is a rule with a memory of
type `ρ`, asked with the table and the first page that may be given up.  Pages below that one are
pinned. Nothing forces a rule to name a resident page, or a page of the table at all; the machine
has to cope with every answer.

Two policies are given.  `Aging` gives up the page that was left alone for longest by its aging
register, and of several such pages the lowest.  Every resident page from the first candidate on can
be chosen, also when all registers are as fresh as they can be.  `Scripted` plays back a list of
answers and falls back to aging when the list is used up.
-/

namespace PagedMemory

/-- A rule with a memory of type `ρ` that names the page to give up, if any. -/
class VictimPolicy (ρ : Type) where
  pick : ρ → PageTable → Nat → Option Nat × ρ

namespace PageTable

/-- The resident pages from `firstCandidate` on, in page order. -/
def candidates (table : PageTable) (firstCandidate : Nat) : List (Nat × Slot) :=
  table.rows.filter fun (page, slot) ↦ firstCandidate ≤ page && slot.entry.valid

/-- The candidate with the smallest history, and the lowest such page on ties. -/
def oldest? (table : PageTable) (firstCandidate : Nat) : Option Nat :=
  ((table.candidates firstCandidate).minOn? fun (_, slot) ↦ slot.history.toNat).map (·.1)

end PageTable

/-- Gives up the page with the smallest aging register. -/
structure Aging where
deriving DecidableEq

instance : VictimPolicy Aging where
  pick policy table firstCandidate := (table.oldest? firstCandidate, policy)

/-- Answers from a list, and by aging once the list is used up. -/
structure Scripted where
  answers : List (Option Nat)
deriving DecidableEq

instance : VictimPolicy Scripted where
  pick policy table firstCandidate :=
    match policy.answers with
    | answer :: answers => (answer, ⟨answers⟩)
    | [] => (table.oldest? firstCandidate, policy)

end PagedMemory
