import Mathlib.Data.List.DropRight
import Mathlib.Data.Nat.Bitwise
import Mathlib.Data.Nat.Find
import PagedMemory.Proofs.Residents

/-!
# What an aging register remembers

A register moves at every clock tick while its page is resident, keeps still while it is not, and is
set to all ones when the page is brought in.  `PageTable.Change` lists the operations on a table,
and `PageTable.changed` is the table that a sequence of them leaves.

Ticks are counted from the latest one, which has age zero.  `Change.TouchedAt` says that at the tick
of some age a page had been touched since the tick before it, and `Change.ticksSinceMap` counts the
ticks since the page was brought in for the last time.  By `PageTable.history_eq_recency` the
register of a resident page holds one bit for each of the latest sixteen ticks, the latest on top:
whether the page was touched, and a one for the ticks before it was brought in.  So registers
compare as the touches do: the smaller one is that of the page that was left alone at the latest of
these ticks at which only one of the two pages was touched.
-/

namespace PagedMemory

/-! ## Operations on a table, and what they say about a page -/

/-- An operation on a page table. -/
inductive PageTable.Change where
  | map (page : Nat) (frame : FrameNumber)
  | markReferenced (page : Nat)
  | unmap (page : Nat)
  | tick
deriving DecidableEq

namespace PageTable

/-- The table after an operation. -/
def change (table : PageTable) : Change → PageTable
  | .map page frame => table.map page frame
  | .markReferenced page => table.markReferenced page
  | .unmap page => table.unmap page
  | .tick => table.tick

/-- The table after a sequence of operations, the earliest first. -/
def changed (table : PageTable) (changes : List Change) : PageTable := changes.foldl change table

theorem changed_concat (table : PageTable) (changes : List Change) (last : Change) :
    table.changed (changes ++ [last]) = (table.changed changes).change last :=
  List.foldl_concat ..

namespace Change

/-- The operation brings the page in. -/
def maps (page : Nat) : Change → Bool
  | .map other _ => other = page
  | _ => false

/-- The operation touches the page: it brings it in or marks it. -/
def touches (page : Nat) : Change → Bool
  | .map other _ | .markReferenced other => other = page
  | _ => false

/-- The number of ticks since the page was brought in for the last time. -/
def ticksSinceMap (changes : List Change) (page : Nat) : Nat :=
  (changes.rtakeWhile fun change ↦ !change.maps page).count .tick

/-- The page has been touched since the latest tick. -/
def TouchedSinceTick (changes : List Change) (page : Nat) : Prop :=
  ∃ change ∈ changes.rtakeWhile (· ≠ .tick), change.touches page

/-- At the tick of this age the page had been touched since the tick before. -/
def TouchedAt (changes : List Change) (page age : Nat) : Prop :=
  ∃ earlier later, changes = earlier ++ .tick :: later ∧ later.count .tick = age ∧
    TouchedSinceTick earlier page

/-- The page counts as referenced at the tick of this age: it had been touched, or it was brought in
only later. -/
def ReferencedAt (changes : List Change) (page age : Nat) : Prop :=
  ticksSinceMap changes page ≤ age ∨ TouchedAt changes page age

variable {changes : List Change} {last : Change} {page age : Nat}

theorem touches_of_maps (h : last.maps page = true) : last.touches page = true := by
  cases last <;> first | exact h | cases h

theorem ticksSinceMap_concat :
    ticksSinceMap (changes ++ [last]) page =
      if last.maps page then 0 else ticksSinceMap changes page + [last].count .tick := by
  unfold ticksSinceMap
  rw [List.rtakeWhile_concat]
  cases last.maps page with
  | true => rfl
  | false => exact List.count_append

theorem touchedSinceTick_concat :
    TouchedSinceTick (changes ++ [last]) page ↔
      last ≠ .tick ∧ (last.touches page = true ∨ TouchedSinceTick changes page) := by
  unfold TouchedSinceTick
  rw [List.rtakeWhile_concat]
  by_cases htick : last = .tick
  · simp [htick]
  · simp [htick, or_and_right, exists_or, or_comm]

/-- A tick that comes after the others has age zero, and makes all of them older by one. -/
theorem touchedAt_concat_iff :
    TouchedAt (changes ++ [last]) page age ↔
      (last = .tick ∧ age = 0 ∧ TouchedSinceTick changes page) ∨
        ∃ before, before + [last].count .tick = age ∧ TouchedAt changes page before := by
  constructor
  · rintro ⟨earlier, later, hsplit, hage, htouched⟩
    obtain rfl | ⟨later, final, rfl⟩ := later.eq_nil_or_concat'
    · obtain ⟨rfl, hlast⟩ := List.append_inj' hsplit rfl
      exact .inl ⟨List.head_eq_of_cons_eq hlast, hage.symm, htouched⟩
    · rw [← List.cons_append, ← List.append_assoc] at hsplit
      obtain ⟨rfl, hlast⟩ := List.append_inj' hsplit rfl
      cases hlast
      rw [List.count_append] at hage
      exact .inr ⟨_, hage, earlier, later, rfl, rfl, htouched⟩
  · rintro (⟨rfl, rfl, htouched⟩ | ⟨_, rfl, earlier, later, rfl, rfl, htouched⟩)
    · exact ⟨changes, [], rfl, rfl, htouched⟩
    · exact ⟨earlier, later ++ [last], by simp, List.count_append, htouched⟩

/-- A page that was brought in just now counts as referenced at every tick. -/
theorem referencedAt_concat_of_maps (hmaps : last.maps page = true) :
    ReferencedAt (changes ++ [last]) page age := by
  left
  rw [ticksSinceMap_concat, if_pos hmaps]
  exact Nat.zero_le age

/-- Other operations than ticks change nothing about the ticks behind them. -/
theorem referencedAt_concat_of_ne (hmaps : last.maps page = false) (hother : last ≠ .tick) :
    ReferencedAt (changes ++ [last]) page age ↔ ReferencedAt changes page age := by
  unfold ReferencedAt
  rw [touchedAt_concat_iff, ticksSinceMap_concat]
  simp [hmaps, hother]

theorem referencedAt_concat_tick_zero :
    ReferencedAt (changes ++ [.tick]) page 0 ↔ TouchedSinceTick changes page := by
  unfold ReferencedAt
  rw [touchedAt_concat_iff, ticksSinceMap_concat]
  simp [maps]

theorem referencedAt_concat_tick_succ :
    ReferencedAt (changes ++ [.tick]) page (age + 1) ↔ ReferencedAt changes page age := by
  unfold ReferencedAt
  rw [touchedAt_concat_iff, ticksSinceMap_concat]
  simp [maps]

end Change

end PageTable

/-! ## The bits of a register -/

namespace Slot

variable {slot : Slot}

/-- A tick puts the referenced bit of a resident page on top of its register. -/
theorem getLsbD_history_tick_zero (hvalid : slot.entry.valid = true) :
    slot.tick.history.getLsbD 15 = slot.entry.referenced := by
  unfold tick
  rw [if_pos hvalid, BitVec.getLsbD_or, BitVec.getLsbD_ushiftRight]
  cases slot.entry.referenced <;> simp

/-- A tick moves the other bits of the register down. -/
theorem getLsbD_history_tick_succ (hvalid : slot.entry.valid = true) {age : Nat}
    (hage : age + 1 < 16) :
    slot.tick.history.getLsbD (15 - (age + 1)) = slot.history.getLsbD (15 - age) := by
  have hcarry : (0x8000 : BitVec 16).getLsbD (15 - (age + 1)) = false := by
    rw [show (0x8000 : BitVec 16) = BitVec.twoPow 16 15 from rfl, BitVec.getLsbD_twoPow]
    simp
    omega
  have hplace : 1 + (15 - (age + 1)) = 15 - age := by omega
  unfold tick
  rw [if_pos hvalid, BitVec.getLsbD_or, BitVec.getLsbD_ushiftRight, hplace]
  cases slot.entry.referenced with
  | true => rw [if_pos rfl, hcarry, Bool.or_false]
  | false =>
    have hnone : (0 : BitVec 16).getLsbD (15 - (age + 1)) = false := BitVec.getLsbD_zero
    rw [if_neg Bool.false_ne_true, hnone, Bool.or_false]

theorem getLsbD_freshHistory {place : Nat} (hplace : place < 16) :
    freshHistory.getLsbD place = true := by
  rw [show freshHistory = BitVec.allOnes 16 from rfl, BitVec.getLsbD_allOnes]
  exact decide_eq_true hplace

open PageTable (Change)

/-- What the slot of a resident page says about the operations behind it. -/
structure Records (slot : Slot) (changes : List Change) (page : Nat) : Prop where
  referenced : slot.entry.referenced = true ↔ Change.TouchedSinceTick changes page
  history : ∀ age < 16, slot.history.getLsbD (15 - age) = true ↔
    Change.ReferencedAt changes page age

variable {changes : List Change} {last : Change} {page : Nat}

/-- A page that was just brought in has a slot that says so. -/
theorem records_loaded {frame : FrameNumber} :
    (loaded frame).Records (changes ++ [.map page frame]) page where
  referenced := by
    rw [Change.touchedSinceTick_concat]
    simp [loaded, Entry.mapping, Change.touches]
  history := by
    intro age _
    have hmaps : (Change.map page frame).maps page = true := decide_eq_true rfl
    exact iff_of_true (getLsbD_freshHistory (by omega)) (Change.referencedAt_concat_of_maps hmaps)

theorem Records.markReferenced (h : slot.Records changes page) :
    slot.markReferenced.Records (changes ++ [.markReferenced page]) page where
  referenced := by
    rw [Change.touchedSinceTick_concat]
    simp [Slot.markReferenced, Entry.markReferenced, Change.touches]
  history := by
    intro age hage
    have hmaps : (Change.markReferenced page).maps page = false := rfl
    have hother : Change.markReferenced page ≠ .tick := by simp
    rw [Change.referencedAt_concat_of_ne hmaps hother]
    exact h.history age hage

theorem Records.tick (h : slot.Records changes page) (hvalid : slot.entry.valid = true) :
    slot.tick.Records (changes ++ [.tick]) page where
  referenced := by
    rw [Change.touchedSinceTick_concat, Slot.tick, if_pos hvalid]
    simp [Entry.clearReferenced]
  history := by
    intro age hage
    cases age with
    | zero =>
      rw [Change.referencedAt_concat_tick_zero, getLsbD_history_tick_zero hvalid]
      exact h.referenced
    | succ age =>
      rw [Change.referencedAt_concat_tick_succ, getLsbD_history_tick_succ hvalid hage]
      exact h.history age (Nat.lt_of_succ_lt hage)

/-- An operation on other pages leaves everything that is said about this one. -/
theorem Records.of_other (h : slot.Records changes page) (hother : last ≠ .tick)
    (huntouched : last.touches page = false) : slot.Records (changes ++ [last]) page where
  referenced := by
    rw [Change.touchedSinceTick_concat, h.referenced]
    simp [hother, huntouched]
  history := by
    intro age hage
    have hmaps : last.maps page = false := by
      rw [Bool.eq_false_iff]
      intro hmaps
      rw [Change.touches_of_maps hmaps] at huntouched
      cases huntouched
    rw [Change.referencedAt_concat_of_ne hmaps hother]
    exact h.history age hage

end Slot

/-! ## Whole tables -/

namespace PageTable

/-- Whatever is done to a blank table, the slots of the resident pages say what was done. -/
theorem records_changed {size page : Nat} {slot : Slot} (changes : List Change)
    (hslot : ((blank size).changed changes).slot? page = some slot)
    (hvalid : slot.entry.valid = true) : slot.Records changes page := by
  induction changes using List.reverseRecOn generalizing slot with
  | nil => exact absurd ⟨slot, hslot, hvalid⟩ (not_resident_blank size page)
  | append_singleton changes last ih =>
    rw [changed_concat] at hslot
    cases last with
    | map other frame =>
      rw [change, slot?_map] at hslot
      split at hslot
      · rename_i hsame
        subst hsame
        obtain ⟨_, _, rfl⟩ := Option.map_eq_some_iff.1 hslot
        exact Slot.records_loaded
      · rename_i hne
        exact (ih hslot hvalid).of_other nofun (decide_eq_false hne)
    | markReferenced other =>
      rw [change, slot?_markReferenced] at hslot
      split at hslot
      · rename_i hsame
        subst hsame
        obtain ⟨before, hbefore, rfl⟩ := Option.map_eq_some_iff.1 hslot
        exact (ih hbefore hvalid).markReferenced
      · rename_i hne
        exact (ih hslot hvalid).of_other nofun (decide_eq_false hne)
    | unmap other =>
      rw [change, slot?_unmap] at hslot
      split at hslot
      · obtain ⟨_, _, rfl⟩ := Option.map_eq_some_iff.1 hslot
        cases hvalid
      · exact (ih hslot hvalid).of_other nofun rfl
    | tick =>
      rw [change, slot?_tick] at hslot
      obtain ⟨before, hbefore, rfl⟩ := Option.map_eq_some_iff.1 hslot
      rw [Slot.entry_tick_valid] at hvalid
      exact (ih hbefore hvalid).tick hvalid

/-- A tick leaves the slot of a page that is not resident as it is. -/
theorem slot?_tick_of_not_resident {table : PageTable} {page : Nat}
    (h : ¬ table.Resident page) : table.tick.slot? page = table.slot? page := by
  rw [slot?_tick]
  cases hslot : table.slot? page with
  | none => rfl
  | some slot =>
    have hinvalid : ¬ slot.entry.valid = true := fun hvalid ↦ h ⟨slot, hslot, hvalid⟩
    rw [Option.map_some, Slot.tick, if_neg hinvalid]

end PageTable

/-! ## Comparing registers -/

/-- The registers differ at this age, and the left one has the zero. -/
def Slot.LagsAt (left right : BitVec 16) (age : Nat) : Prop :=
  left.getLsbD (15 - age) = false ∧ right.getLsbD (15 - age) = true ∧
    ∀ later < age, left.getLsbD (15 - later) = right.getLsbD (15 - later)

/-- A register with the zero at the highest place at which the two differ is the smaller one. -/
theorem Slot.LagsAt.lt {left right : BitVec 16} {age : Nat} (hage : age < 16)
    (h : LagsAt left right age) : left < right := by
  obtain ⟨hleft, hright, hlater⟩ := h
  refine BitVec.lt_def.2 (Nat.lt_of_testBit (15 - age) hleft hright fun place hplace ↦ ?_)
  by_cases hhigh : place < 16
  · have hsame := hlater (15 - place) (by omega)
    rwa [show 15 - (15 - place) = place by omega] at hsame
  · exact (BitVec.getLsbD_of_ge left place (by omega)).trans
      (BitVec.getLsbD_of_ge right place (by omega)).symm

/-- Two registers are equal, or they differ at some age for the first time. -/
theorem Slot.eq_or_lagsAt (left right : BitVec 16) :
    left = right ∨ ∃ age < 16, LagsAt left right age ∨ LagsAt right left age := by
  by_cases hdiffer : ∃ age, age < 16 ∧ left.getLsbD (15 - age) ≠ right.getLsbD (15 - age)
  · right
    obtain ⟨hage, hne⟩ := Nat.find_spec hdiffer
    have hlater : ∀ later < Nat.find hdiffer,
        left.getLsbD (15 - later) = right.getLsbD (15 - later) := by
      intro later hlt
      have hmin := Nat.find_min hdiffer hlt
      by_contra hother
      exact hmin ⟨hlt.trans hage, hother⟩
    refine ⟨Nat.find hdiffer, hage, ?_⟩
    cases hleft : left.getLsbD (15 - Nat.find hdiffer) with
    | false =>
      rw [hleft, ne_comm, Bool.ne_false_iff] at hne
      exact .inl ⟨hleft, hne, hlater⟩
    | true =>
      rw [hleft, ne_comm, ne_eq, Bool.not_eq_true] at hne
      exact .inr ⟨hne, hleft, fun later hlt ↦ (hlater later hlt).symm⟩
  · left
    push Not at hdiffer
    refine BitVec.eq_of_getLsbD_eq fun place hplace ↦ ?_
    have hsame := hdiffer (15 - place) (by omega)
    rwa [show 15 - (15 - place) = place by omega] at hsame

/-- Of two registers the smaller one has the zero at the highest place at which they differ. -/
theorem Slot.lt_iff_lagsAt {left right : BitVec 16} :
    left < right ↔ ∃ age < 16, LagsAt left right age := by
  constructor
  · intro hlt
    obtain rfl | ⟨age, hage, hlags | hlags⟩ := eq_or_lagsAt left right
    · exact absurd hlt (BitVec.lt_irrefl left)
    · exact ⟨age, hage, hlags⟩
    · exact absurd (hlags.lt hage) (BitVec.lt_asymm hlt)
  · rintro ⟨age, hage, hlags⟩
    exact hlags.lt hage

namespace PageTable

open Change

variable {changes : List Change} {left right age : Nat}

/-- At the tick of this age only the right one of two pages was referenced, and at each later tick
both were or neither. -/
def Change.OvertakesAt (changes : List Change) (left right age : Nat) : Prop :=
  ¬ ReferencedAt changes left age ∧ ReferencedAt changes right age ∧
    ∀ later < age, ReferencedAt changes left later ↔ ReferencedAt changes right later

/-- Registers differ as what they record does. -/
theorem lagsAt_iff_overtakesAt {leftSlot rightSlot : Slot}
    (hleft : leftSlot.Records changes left) (hright : rightSlot.Records changes right)
    (hage : age < 16) :
    Slot.LagsAt leftSlot.history rightSlot.history age ↔ OvertakesAt changes left right age := by
  have hlater : ∀ later < age,
      (leftSlot.history.getLsbD (15 - later) = rightSlot.history.getLsbD (15 - later) ↔
        (ReferencedAt changes left later ↔ ReferencedAt changes right later)) := by
    intro later hlt
    rw [Bool.eq_iff_iff, hleft.history later (hlt.trans hage),
      hright.history later (hlt.trans hage)]
  unfold Slot.LagsAt OvertakesAt
  rw [Bool.eq_false_iff, ne_eq, hleft.history age hage, hright.history age hage,
    forall₂_congr hlater]

/-- The register of a resident page holds one bit for each of the latest sixteen ticks, the latest
on top: a one for a tick before the page was brought in for the last time, and for any other tick
whether the page had been touched since the tick before it.  So of two resident pages the one with
the smaller register is the one that was left alone at the latest of these ticks at which only one
of them was referenced.  The register of a page that is not resident does not move. -/
theorem history_eq_recency (size : Nat) (changes : List Change) :
    let table := (blank size).changed changes
    (∀ page slot, table.slot? page = some slot → slot.entry.valid = true → ∀ age < 16,
      (slot.history.getLsbD (15 - age) = true ↔
        ticksSinceMap changes page ≤ age ∨ TouchedAt changes page age)) ∧
    (∀ left right leftSlot rightSlot,
      table.slot? left = some leftSlot → leftSlot.entry.valid = true →
      table.slot? right = some rightSlot → rightSlot.entry.valid = true →
      (leftSlot.history < rightSlot.history ↔
        ∃ age < 16, OvertakesAt changes left right age)) ∧
    ∀ page, ¬ table.Resident page → table.tick.slot? page = table.slot? page := by
  refine ⟨?_, ?_, fun page ↦ slot?_tick_of_not_resident⟩
  · intro page slot hslot hvalid
    exact (records_changed changes hslot hvalid).history
  · intro left right leftSlot rightSlot hleft hleftValid hright hrightValid
    have hleftRecords := records_changed changes hleft hleftValid
    have hrightRecords := records_changed changes hright hrightValid
    rw [Slot.lt_iff_lagsAt]
    exact exists_congr fun age ↦ and_congr_right fun hage ↦
      lagsAt_iff_overtakesAt hleftRecords hrightRecords hage

/-- Page `0` is brought in twice, and marked only after the last of four ticks.  Page `2` is brought
in at the beginning and then left alone. -/
def remappings : List Change :=
  [.map 0 5, .map 1 6, .map 2 7, .tick, .unmap 0, .tick, .map 0 8, .markReferenced 1, .tick, .tick,
    .markReferenced 0, .unmap 1]

/-- The register of page `0` tells that it was left alone at the latest tick, and so does that of
page `2`; they differ at the tick before, at which only page `0` counted as referenced. -/
theorem history_eq_recency_remappings :
    let table := (blank 3).changed remappings
    table.slot? 2 = some ⟨.mapping 7 false, 0x1FFF⟩ ∧
      table.slot? 0 = some ⟨.mapping 8 true, 0x7FFF⟩ ∧
      ¬ TouchedAt remappings 0 0 ∧
      (∃ age < 16, OvertakesAt remappings 2 0 age) ∧
      table.tick.slot? 1 = table.slot? 1 := by
  obtain ⟨hbits, horder, hstill⟩ := history_eq_recency 3 remappings
  have htwo : ((blank 3).changed remappings).slot? 2 = some ⟨.mapping 7 false, 0x1FFF⟩ := by
    decide +kernel
  have hzero : ((blank 3).changed remappings).slot? 0 = some ⟨.mapping 8 true, 0x7FFF⟩ := by
    decide +kernel
  have hone : ((blank 3).changed remappings).Absent 1 :=
    ⟨⟨.empty, 0x5FFF⟩, by decide +kernel, rfl⟩
  refine ⟨htwo, hzero, ?_, ?_, hstill 1 hone.not_resident⟩
  · intro htouched
    have hbit := (hbits 0 _ hzero (by decide) 0 (by decide)).2 (.inr htouched)
    revert hbit
    decide
  · exact (horder 2 0 _ _ htwo (by decide) hzero (by decide)).1 (by decide)

end PageTable

end PagedMemory
