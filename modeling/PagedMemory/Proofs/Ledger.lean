import Mathlib.Algebra.BigOperators.Group.List.Basic
import Mathlib.Algebra.Ring.Nat
import Mathlib.Data.List.Induction
import PagedMemory.Proofs.Histories
import PagedMemory.Report

/-!
# Counters as counts of references

The counters of a process say how many references it made and how they went, and nothing else.
`Counters.ofReferences` reads all counters off a list of references, and `Session.Ledger` says that
those of a process and of the machine are what their references come to.  Every search keeps such a
ledger, whether or not it fails.

Since every reference is made by one process, `Counters.sum_ofReferences` splits the counters of the
machine into those of its processes.
-/

namespace PagedMemory

namespace Reference

/-- A fault that was served from the free list. -/
def Cold (reference : Reference) : Prop := reference.outcome = .ok .coldMiss

instance (reference : Reference) : Decidable reference.Cold :=
  inferInstanceAs (Decidable (_ = _))

/-- A fault that was served by a replacement, with a frame that this rule selected. -/
def Warm (reference : Reference) (affinity : Affinity) : Prop :=
  reference.outcome = .ok (.warmMiss affinity)

instance (reference : Reference) (affinity : Affinity) : Decidable (reference.Warm affinity) :=
  inferInstanceAs (Decidable (_ = _))

end Reference

/-- How many references each rule served. -/
def AffinityTally.ofReferences (references : List Reference) : AffinityTally where
  exactReuse := references.countP (·.Warm .exactReuse)
  unowned := references.countP (·.Warm .unowned)
  sameOwner := references.countP (·.Warm .sameOwner)
  fallback := references.countP (·.Warm .fallback)

namespace Counters

/-- What the references come to.  A reference that is no hit is a fault, also one that failed. -/
def ofReferences (references : List Reference) : Counters where
  accesses := references.length
  faults := references.countP (·.Cold) + (AffinityTally.ofReferences references).total +
    references.countP (·.Failed)
  replacements := (AffinityTally.ofReferences references).total
  attempts := .ofReferences references

/-- The counters after a reference that went like this. -/
def charged (counters : Counters) : Outcome PagingError Access → Counters
  | .ok .hit => counters.withAccess
  | .ok .coldMiss => counters.withFault
  | .ok (.warmMiss affinity) => counters.withReplacement affinity
  | .error _ => counters.withFault
  | .crash => counters.withAccess

theorem ofReferences_concat (past : List Reference) (reference : Reference) :
    ofReferences (past ++ [reference]) = (ofReferences past).charged reference.outcome := by
  obtain ⟨process, page, outcome⟩ := reference
  simp only [ofReferences, AffinityTally.ofReferences, AffinityTally.total, List.countP_append,
    List.countP_singleton, List.length_append, List.length_singleton, Reference.Cold,
    Reference.Warm, Reference.Failed]
  cases outcome with
  | ok access =>
    cases access with
    | hit => simp [charged, withAccess]
    | coldMiss =>
      simp only [charged, withFault]
      simp
      omega
    | warmMiss affinity =>
      cases affinity <;> simp [charged, withReplacement, AffinityTally.set, AffinityTally.get] <;>
        omega
  | error reason =>
    simp [charged, withFault]
    omega
  | crash => simp [charged, withAccess]

theorem consistent_ofReferences (references : List Reference) :
    (ofReferences references).Consistent := by
  induction references using List.reverseRecOn with
  | nil => exact consistent_zero
  | append_singleton past reference ih =>
    rw [ofReferences_concat]
    unfold charged
    split
    · exact ih.withAccess
    · exact ih.withFault
    · exact ih.withReplacement _
    · exact ih.withFault
    · exact ih.withAccess

/-- If there is room for the accesses, the tally has a total, and it is the number of replacements.
-/
theorem Consistent.attemptsTotal?_eq {counters : Counters} (h : counters.Consistent)
    (hroom : counters.accesses < Word.bound) :
    counters.attemptsTotal? = some counters.replacements := by
  have hfaults := h.faults_le
  have hreplacements := h.replacements_le
  have htotal := h.total_attempts
  unfold attemptsTotal?
  rw [htotal, if_pos (by omega)]

/-! ## The sum of several rows -/

/-- The sum of several records, counter by counter. -/
def sum (rows : List Counters) : Counters where
  accesses := (rows.map (·.accesses)).sum
  faults := (rows.map (·.faults)).sum
  replacements := (rows.map (·.replacements)).sum
  attempts :=
    { exactReuse := (rows.map (·.attempts.exactReuse)).sum
      unowned := (rows.map (·.attempts.unowned)).sum
      sameOwner := (rows.map (·.attempts.sameOwner)).sum
      fallback := (rows.map (·.attempts.fallback)).sum }

/-- References of one kind of the processes up to a number are those of the ones before it and those
of the process with this number. -/
theorem countP_filter_lt_succ (references : List Reference) (count : Nat)
    (kind : Reference → Bool) :
    (references.filter (·.process < count + 1)).countP kind =
      (references.filter (·.process < count)).countP kind +
        (references.filter (·.process = count)).countP kind := by
  induction references with
  | nil => rfl
  | cons reference references ih =>
    simp only [List.filter_cons, decide_eq_true_eq]
    obtain hless | hsame | hmore := Nat.lt_trichotomy reference.process count
    · rw [if_pos (Nat.lt_succ_of_lt hless), if_pos hless, if_neg (Nat.ne_of_lt hless),
        List.countP_cons, List.countP_cons, ih]
      omega
    · rw [if_pos (Nat.lt_succ_of_le (Nat.le_of_eq hsame)),
        if_neg (Nat.not_lt_of_ge (Nat.le_of_eq hsame.symm)), if_pos hsame,
        List.countP_cons, List.countP_cons, ih]
      omega
    · rw [if_neg (Nat.not_lt_of_ge hmore), if_neg (Nat.not_lt_of_gt hmore),
        if_neg (Nat.ne_of_gt hmore), ih]

/-- References of one kind are counted process by process. -/
theorem sum_countP_filter {references : List Reference} {count : Nat}
    (hknown : ∀ reference ∈ references, reference.process < count) (kind : Reference → Bool) :
    ((List.range count).map fun number ↦
      (references.filter (·.process = number)).countP kind).sum = references.countP kind := by
  have hbelow (count : Nat) : ((List.range count).map fun number ↦
      (references.filter (·.process = number)).countP kind).sum =
        (references.filter (·.process < count)).countP kind := by
    induction count with
    | zero => simp
    | succ count ih =>
      rw [List.range_succ, List.map_append, List.sum_append, ih, List.map_singleton,
        List.sum_singleton, countP_filter_lt_succ]
  rw [hbelow, List.filter_eq_self.2]
  intro reference hreference
  rw [decide_eq_true_eq]
  exact hknown reference hreference

/-- The rows of all processes add up to what all references come to. -/
theorem sum_ofReferences {references : List Reference} {count : Nat}
    (hknown : ∀ reference ∈ references, reference.process < count) :
    sum ((List.range count).map fun number ↦
      ofReferences (references.filter (·.process = number))) = ofReferences references := by
  have hcount := sum_countP_filter hknown
  have hlength : ((List.range count).map fun number ↦
      (references.filter (·.process = number)).length).sum = references.length := by
    simpa only [List.countP_true] using hcount fun _ ↦ true
  simp only [sum, ofReferences, AffinityTally.ofReferences, AffinityTally.total, List.map_map,
    Function.comp_def, List.sum_map_add, hcount, hlength]

end Counters

/-! ## Ledgers of sessions -/

namespace Session

variable {ρ : Type}

/-- The counters of the process are what its own references come to, and those of the machine are
what all references come to. -/
structure Ledger (session : Session ρ) (own all : List Reference) : Prop where
  own_eq : session.space.counters = .ofReferences own
  all_eq : session.memory.counters = .ofReferences all
  all_lt : all.length < Word.bound

variable [VictimPolicy ρ] {session : Session ρ} {own all : List Reference}

theorem Touch.charged {page : Nat} {reply : Answer (Session ρ) Access}
    (h : Touch session page reply) :
    reply.state.space.counters = session.space.counters.charged reply.outcome ∧
      reply.state.memory.counters = session.memory.counters.charged reply.outcome := by
  cases h <;> exact ⟨rfl, rfl⟩

/-- A reference that does not crash has room for one more access of the machine. -/
theorem accesses_lt_of_reference {page : Nat}
    (hrunning : (session.reference page).outcome ≠ .crash) :
    session.memory.counters.accesses + 1 < Word.bound := by
  by_contra hfull
  have hshared : session.memory.counters.recordAccess? = none := by
    rw [Option.eq_none_iff_forall_ne_some]
    intro next hnext
    exact hfull (Counters.recordAccess?_eq_some_iff.1 hnext).1
  have hcount : session.count? Counters.recordAccess? = none := by
    unfold count?
    cases session.space.counters.recordAccess? with
    | none => rfl
    | some own =>
      simp only [Option.bind_eq_bind, Option.bind_some, hshared]
      rfl
  unfold reference at hrunning
  rw [hcount] at hrunning
  exact hrunning rfl

omit [VictimPolicy ρ] in
/-- Giving frames back is not counted. -/
theorem Ledger.released (h : session.Ledger own all) : session.released.Ledger own all :=
  ⟨h.own_eq, h.all_eq, h.all_lt⟩

theorem Ledger.reference (h : session.Ledger own all) {page : Nat}
    (hrunning : (session.reference page).outcome ≠ .crash) :
    (session.reference page).state.Ledger (own ++ [session.referenceTo page])
      (all ++ [session.referenceTo page]) := by
  have hroom := accesses_lt_of_reference hrunning
  obtain ⟨hown, hall⟩ := (touch_reference hrunning).charged
  refine ⟨?_, ?_, ?_⟩
  · rw [hown, h.own_eq, Counters.ofReferences_concat, referenceTo]
  · rw [hall, h.all_eq, Counters.ofReferences_concat, referenceTo]
  · rw [h.all_eq] at hroom
    rw [List.length_append, List.length_singleton]
    exact hroom

/-- A search keeps the ledger. -/
theorem Ledger.search (h : session.Ledger own all) {arraySize key : Nat}
    (hrunning : (session.search arraySize key).outcome ≠ .crash) :
    let made := session.references (Search.pages session.memory.settings arraySize key)
    (session.search arraySize key).state.Ledger (own ++ made) (all ++ made) := by
  refine search_records (fun past later ↦ later.Ledger (own ++ past) (all ++ past)) []
    ?_ ?_ ?_ hrunning
  · intro past later page _ hlater hserved
    rw [← List.append_assoc, ← List.append_assoc]
    exact hlater.reference hserved
  · exact fun past later hlater ↦ ⟨hlater.own_eq, hlater.all_eq, hlater.all_lt⟩
  · rw [List.append_nil, List.append_nil]
    exact h

end Session

end PagedMemory
