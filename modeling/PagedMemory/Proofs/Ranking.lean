import Mathlib.Data.Prod.Lex
import Mathlib.Order.Bounds.Basic
import PagedMemory.Proofs.Residents

/-!
# The rank of a page

Ageing gives up the page with the smallest register, and of several such pages the one in front.
The two conditions are one order: a page has as its rank the pair of its register and its number,
and ranks are compared lexicographically.  `PageTable.ranks` is the set of the ranks of the pages
that may be given up.  The slot of a page that is gone keeps its register and has no rank.

`PageTable.oldest?_eq_some_iff` says that the oldest page is the one whose rank is least.  Ranks are
told apart by their pages, so there is only one.  `Aging.pick_isLeast` adds that nothing is picked
only where there is no rank at all, and that the policy remembers nothing of its choice.
-/

namespace PagedMemory

namespace PageTable

/-- The first member with the smallest key comes first in lexicographic order, if the places of the
members increase along the list. -/
theorem lex_le_of_minOn? {α : Type} {key place : α → Nat} {list : List α} {least other : α}
    (hordered : list.Pairwise fun left right ↦ place left < place right)
    (hmin : list.minOn? key = some least) (hother : other ∈ list) :
    toLex (key least, place least) ≤ toLex (key other, place other) := by
  induction list generalizing least other with
  | nil => cases hother
  | cons front rest ih =>
    obtain ⟨hfront, hrest⟩ := List.pairwise_cons.1 hordered
    rw [List.minOn?_cons, Option.some.injEq] at hmin
    cases hbehind : rest.minOn? key with
    | none =>
      have hlast : rest = [] := by
        rwa [← Option.not_isSome_iff_eq_none, List.isSome_minOn?_iff, not_not] at hbehind
      rw [hlast, List.mem_singleton] at hother
      rw [hbehind, Option.elim_none] at hmin
      rw [← hmin, hother]
    | some second =>
      rw [hbehind, Option.elim_some] at hmin
      have hplace := hfront second (List.minOn?_mem hbehind)
      by_cases hwins : key front ≤ key second
      · -- The front wins every tie, and no place is before its own.
        rw [minOn_eq_left hwins] at hmin
        subst hmin
        have hbelow : toLex (key front, place front) ≤ toLex (key second, place second) := by
          rw [Prod.Lex.toLex_le_toLex]
          omega
        rcases List.mem_cons.1 hother with rfl | hrest'
        · exact le_rfl
        · exact hbelow.trans (ih hrest hbehind hrest')
      · rw [minOn_eq_right hwins] at hmin
        subst hmin
        rcases List.mem_cons.1 hother with rfl | hrest'
        · rw [Prod.Lex.toLex_le_toLex]
          exact .inl (Nat.lt_of_not_le hwins)
        · exact ih hrest hbehind hrest'

theorem pairwise_candidates (table : PageTable) (first : Nat) :
    (table.candidates first).Pairwise fun row row' ↦ row.1 < row'.1 :=
  table.pairwise_rows.filter _

/-- The pages that may be given up, each by its register and its number. -/
def ranks (table : PageTable) (first : Nat) : Set (Nat ×ₗ Nat) :=
  {rank | ∃ page slot, table.slot? page = some slot ∧ first ≤ page ∧ slot.entry.valid = true ∧
    toLex (slot.history.toNat, page) = rank}

/-- The oldest page has the least rank. -/
theorem isLeast_of_oldest? {table : PageTable} {first victim : Nat}
    (h : table.oldest? first = some victim) :
    ∃ slot, table.slot? victim = some slot ∧
      IsLeast (table.ranks first) (toLex (slot.history.toNat, victim)) := by
  obtain ⟨⟨page, slot⟩, hmin, rfl⟩ := Option.map_eq_some_iff.1 h
  obtain ⟨hslot, hfirst, hvalid⟩ := mem_candidates_iff.1 (List.minOn?_mem hmin)
  refine ⟨slot, hslot, ⟨page, slot, hslot, hfirst, hvalid, rfl⟩, ?_⟩
  rintro _ ⟨other, slot', hslot', hfirst', hvalid', rfl⟩
  have hother : (other, slot') ∈ table.candidates first :=
    mem_candidates_iff.2 ⟨hslot', hfirst', hvalid'⟩
  exact lex_le_of_minOn? (table.pairwise_candidates first) hmin hother

/-- No two pages have the same rank, so the least rank is that of one page only. -/
theorem oldest?_eq_some_iff {table : PageTable} {first victim : Nat} :
    table.oldest? first = some victim ↔ ∃ slot, table.slot? victim = some slot ∧
      IsLeast (table.ranks first) (toLex (slot.history.toNat, victim)) := by
  constructor
  · exact isLeast_of_oldest?
  · rintro ⟨slot, hslot, hleast⟩
    cases holdest : table.oldest? first with
    | none =>
      obtain ⟨page, slot', hslot', hfirst, hvalid, -⟩ := hleast.1
      exact absurd ⟨slot', hslot', hvalid⟩ (oldest?_eq_none_iff.1 holdest page hfirst)
    | some other =>
      obtain ⟨slot', hslot', hleast'⟩ := isLeast_of_oldest? holdest
      obtain ⟨-, rfl⟩ := Prod.mk.inj (toLex_inj.1 (hleast'.unique hleast))
      rfl

end PageTable

/-- Ageing gives up a resident page unless none may be given up, and then the one with the smallest
register, and the lowest of several such pages.  It remembers nothing. -/
theorem Aging.pick_isLeast (policy : Aging) (table : PageTable) (first : Nat) :
    ∃ choice, VictimPolicy.pick policy table first = (choice, policy) ∧
      (choice = none ↔ ∀ page, first ≤ page → ¬ table.Resident page) ∧
      ∀ victim, choice = some victim ↔ ∃ slot, table.slot? victim = some slot ∧
        IsLeast (table.ranks first) (toLex (slot.history.toNat, victim)) :=
  ⟨table.oldest? first, rfl, PageTable.oldest?_eq_none_iff, fun _ ↦ PageTable.oldest?_eq_some_iff⟩

/-- Pages `2` and `3` have the same register.  That of page `1` is smaller, but is left from a page
that is gone, and page `0` is pinned. -/
def drawn : PageTable :=
  ⟨#[⟨.mapping 4 false, 0x0001⟩, ⟨.empty, 0x0001⟩, ⟨.mapping 9 false, 0x7FFF⟩,
    ⟨.mapping 6 true, 0x7FFF⟩, ⟨.mapping 5 false, 0xFFFF⟩]⟩

theorem Aging.pick_isLeast_drawn :
    VictimPolicy.pick Aging.mk drawn 1 = (some 2, Aging.mk) ∧
      IsLeast (drawn.ranks 1) (toLex (0x7FFF, 2)) ∧
      VictimPolicy.pick Aging.mk drawn 7 = (none, Aging.mk) ∧
      ∀ page, 7 ≤ page → ¬ drawn.Resident page := by
  obtain ⟨choice, hpick, -, hleast⟩ := pick_isLeast Aging.mk drawn 1
  obtain ⟨choice', hpick', hnone, -⟩ := pick_isLeast Aging.mk drawn 7
  have htwo : VictimPolicy.pick Aging.mk drawn 1 = (some 2, Aging.mk) := by decide +kernel
  have hseven : VictimPolicy.pick Aging.mk drawn 7 = (none, Aging.mk) := by decide +kernel
  obtain ⟨slot, hslot, hrank⟩ := (hleast 2).1 (congrArg Prod.fst (hpick.symm.trans htwo))
  obtain rfl : ⟨.mapping 9 false, 0x7FFF⟩ = slot := Option.some.inj hslot
  exact ⟨htwo, hrank, hseven, hnone.1 (congrArg Prod.fst (hpick'.symm.trans hseven))⟩

end PagedMemory
