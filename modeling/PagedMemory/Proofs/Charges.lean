import PagedMemory.Counters

/-!
# What a reference is charged for

A reference is counted as an access, as an access and a fault, or as an access, a fault and a
replacement by an affinity rule.  `Counters.withAccess`, `Counters.withFault` and
`Counters.withReplacement` are the counters after the whole of it, without regard to the width of a
word.  Recording agrees with them whenever it succeeds.

`Counters.Consistent` says how the counters of a process, or of the machine, belong together.  It
follows that an access is the first thing to overflow.
-/

namespace PagedMemory

namespace AffinityTally

/-- One more for one rule is one more in total. -/
theorem total_set_succ (tally : AffinityTally) (affinity : Affinity) :
    (tally.set affinity (tally.get affinity + 1)).total = tally.total + 1 := by
  cases affinity <;> simp only [set, get, total] <;> omega

end AffinityTally

namespace Counters

/-- The counters after an access that is no fault. -/
def withAccess (counters : Counters) : Counters :=
  { counters with accesses := counters.accesses + 1 }

/-- The counters after an access that is a fault. -/
def withFault (counters : Counters) : Counters :=
  { counters with accesses := counters.accesses + 1, faults := counters.faults + 1 }

/-- The counters after a fault that a replacement by the given rule served. -/
def withReplacement (counters : Counters) (affinity : Affinity) : Counters where
  accesses := counters.accesses + 1
  faults := counters.faults + 1
  replacements := counters.replacements + 1
  attempts := counters.attempts.set affinity (counters.attempts.get affinity + 1)

theorem recordAccess?_eq_some_iff {counters next : Counters} :
    counters.recordAccess? = some next ↔
      counters.accesses + 1 < Word.bound ∧ next = counters.withAccess := by
  simp only [recordAccess?, Option.bind_eq_bind, Option.bind_eq_some_iff, Word.add?_eq_some_iff]
  constructor
  · rintro ⟨_, ⟨hfits, rfl⟩, hnext⟩
    cases hnext
    exact ⟨hfits, rfl⟩
  · rintro ⟨hfits, rfl⟩
    exact ⟨_, ⟨hfits, rfl⟩, rfl⟩

theorem recordFault?_withAccess_eq_some_iff {counters next : Counters} :
    counters.withAccess.recordFault? = some next ↔
      counters.faults + 1 < Word.bound ∧ next = counters.withFault := by
  simp only [recordFault?, Option.bind_eq_bind, Option.bind_eq_some_iff, Word.add?_eq_some_iff]
  constructor
  · rintro ⟨_, ⟨hfits, rfl⟩, hnext⟩
    cases hnext
    exact ⟨hfits, rfl⟩
  · rintro ⟨hfits, rfl⟩
    exact ⟨_, ⟨hfits, rfl⟩, rfl⟩

theorem recordReplacement?_withFault_eq_some_iff {counters next : Counters}
    {affinity : Affinity} :
    counters.withFault.recordReplacement? affinity = some next ↔
      (counters.replacements + 1 < Word.bound ∧
        counters.attempts.get affinity + 1 < Word.bound) ∧
      next = counters.withReplacement affinity := by
  simp only [recordReplacement?, Option.bind_eq_bind, Option.bind_eq_some_iff,
    Word.add?_eq_some_iff]
  constructor
  · rintro ⟨_, ⟨hreplacements, rfl⟩, _, ⟨hattempts, rfl⟩, hnext⟩
    cases hnext
    exact ⟨⟨hreplacements, hattempts⟩, rfl⟩
  · rintro ⟨⟨hreplacements, hattempts⟩, rfl⟩
    exact ⟨_, ⟨hreplacements, rfl⟩, _, ⟨hattempts, rfl⟩, rfl⟩

/-! ## Counters that belong together -/

/-- Every replacement serves a fault, every fault is an access, and every replacement is counted for
one rule. -/
structure Consistent (counters : Counters) : Prop where
  faults_le : counters.faults ≤ counters.accesses
  replacements_le : counters.replacements ≤ counters.faults
  total_attempts : counters.attempts.total = counters.replacements

theorem consistent_zero : ({} : Counters).Consistent := ⟨Nat.le_refl 0, Nat.le_refl 0, rfl⟩

variable {counters : Counters}

theorem Consistent.withAccess (h : counters.Consistent) : counters.withAccess.Consistent where
  faults_le := Nat.le_succ_of_le h.faults_le
  replacements_le := h.replacements_le
  total_attempts := h.total_attempts

theorem Consistent.withFault (h : counters.Consistent) : counters.withFault.Consistent where
  faults_le := Nat.succ_le_succ h.faults_le
  replacements_le := Nat.le_succ_of_le h.replacements_le
  total_attempts := h.total_attempts

theorem Consistent.withReplacement (h : counters.Consistent) (affinity : Affinity) :
    (counters.withReplacement affinity).Consistent where
  faults_le := Nat.succ_le_succ h.faults_le
  replacements_le := Nat.succ_le_succ h.replacements_le
  total_attempts := by
    simp only [Counters.withReplacement, AffinityTally.total_set_succ, h.total_attempts]

/-- A number that is kept for a rule is at most the number of replacements. -/
theorem Consistent.attempts_le (h : counters.Consistent) (affinity : Affinity) :
    counters.attempts.get affinity ≤ counters.replacements := by
  rw [← h.total_attempts]
  cases affinity <;> simp only [AffinityTally.get, AffinityTally.total] <;> omega

/-- While there is room for one more access, there is room for one more of everything. -/
theorem Consistent.room (h : counters.Consistent) (hroom : counters.accesses + 1 < Word.bound)
    (affinity : Affinity) :
    counters.faults + 1 < Word.bound ∧ counters.replacements + 1 < Word.bound ∧
      counters.attempts.get affinity + 1 < Word.bound := by
  have hfaults := h.faults_le
  have hreplacements := h.replacements_le
  have hattempts := h.attempts_le affinity
  omega

end Counters

end PagedMemory
