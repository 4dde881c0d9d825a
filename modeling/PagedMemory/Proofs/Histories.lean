import Mathlib.Data.List.Induction
import PagedMemory.Proofs.Calls

/-!
# What a machine has been through

Between two calls a machine shows only its state.  Here the way that led to it is written down as
well: `Machine.turnsTaken` lists the machines that the turns of a sequence of calls find, those
inside runs among them, and `Machine.references` lists the references of one turn, each with what
came of it.  `Machine.probes` lists them with the sessions that they find.  All of them only repeat
what turns and references do anyway.

`Machine.Recorded.after` carries a property of a machine and the turns behind it through any
sequence of calls, `Machine.Recorded.turnsTaken` gives it to the machine that any of the turns
finds, and `Session.search_records` does the same for a session and the references behind it.
-/

namespace PagedMemory

instance {ε α : Type} (outcome : Outcome ε α) : Decidable (∃ reason, outcome = .error reason) :=
  match outcome with
  | .ok _ => isFalse nofun
  | .error reason => isTrue ⟨reason, rfl⟩
  | .crash => isFalse nofun

/-! ## References -/

/-- A reference that a process made, and what came of it. -/
structure Reference where
  process : ProcessId
  page : Nat
  outcome : Outcome PagingError Access
deriving DecidableEq

/-- The reference failed. -/
def Reference.Failed (reference : Reference) : Prop := ∃ reason, reference.outcome = .error reason

instance (reference : Reference) : Decidable reference.Failed :=
  inferInstanceAs (Decidable (∃ reason, reference.outcome = .error reason))

/-- A session that is about to make a reference, and the page. -/
structure Probe (ρ : Type) where
  session : Session ρ
  page : Nat

namespace Session

variable {ρ : Type} [VictimPolicy ρ]

/-- The reference that a session makes of a page. -/
def referenceTo (session : Session ρ) (page : Nat) : Reference :=
  ⟨session.space.process, page, (session.reference page).outcome⟩

/-- The references that a session makes of the given pages: up to the first that does not succeed.
-/
def references (session : Session ρ) : List (Option Nat) → List Reference
  | [] => []
  | none :: _ => []
  | some page :: pages =>
    session.referenceTo page ::
      match (session.reference page).outcome with
      | .ok _ => (session.reference page).state.references pages
      | _ => []

/-- The same references, with the sessions that they find. -/
def probes (session : Session ρ) : List (Option Nat) → List (Probe ρ)
  | [] => []
  | none :: _ => []
  | some page :: pages =>
    ⟨session, page⟩ ::
      match (session.reference page).outcome with
      | .ok _ => (session.reference page).state.probes pages
      | _ => []

end Session

section

variable {ρ : Type} [VictimPolicy ρ]

/-- The reply to a probe. -/
def Probe.reply (probe : Probe ρ) : Answer (Session ρ) Access :=
  probe.session.reference probe.page

/-- The reference that a probe leads to. -/
def Probe.reference (probe : Probe ρ) : Reference := probe.session.referenceTo probe.page

end

namespace Session

variable {ρ : Type} [VictimPolicy ρ]

theorem references_eq_map (session : Session ρ) (pages : List (Option Nat)) :
    session.references pages = (session.probes pages).map (·.reference) := by
  induction pages generalizing session with
  | nil => rfl
  | cons page pages ih =>
    cases page with
    | none => rfl
    | some page =>
      unfold references probes
      rw [List.map_cons]
      congr 1
      cases houtcome : (session.reference page).outcome with
      | ok access => exact ih _
      | error reason => rfl
      | crash => rfl

/-- What every single reference preserves, also one that fails, a sequence of them preserves. -/
theorem referenceAll_follows (holds : List (Probe ρ) → Session ρ → Prop)
    (past : List (Probe ρ)) {pages : List (Option Nat)} {session : Session ρ}
    (hstep : ∀ past session page, some page ∈ pages → holds past session →
      (session.reference page).outcome ≠ .crash →
      holds (past ++ [⟨session, page⟩]) (session.reference page).state)
    (hstart : holds past session) (hrunning : (session.referenceAll pages).outcome ≠ .crash) :
    holds (past ++ session.probes pages) (session.referenceAll pages).state := by
  induction pages generalizing past session with
  | nil =>
    rw [probes, List.append_nil]
    exact hstart
  | cons page pages ih =>
    cases page with
    | none => exact absurd rfl hrunning
    | some page =>
      rw [referenceAll_cons] at hrunning ⊢
      have hfirst := Reply.ne_crash_of_andThen hrunning
      have hnext := hstep past session page List.mem_cons_self hstart hfirst
      unfold probes
      unfold Reply.andThen at hrunning ⊢
      cases houtcome : (session.reference page).outcome with
      | ok access =>
        simp only [houtcome] at hrunning ⊢
        rw [List.append_cons]
        exact ih _ (fun past session page hpage ↦
          hstep past session page (List.mem_cons_of_mem _ hpage)) hnext hrunning
      | error reason => exact hnext
      | crash => exact absurd houtcome hfirst

/-- What every single reference preserves, with what came of it, a sequence of them preserves. -/
theorem referenceAll_records (holds : List Reference → Session ρ → Prop) (past : List Reference)
    {pages : List (Option Nat)} {session : Session ρ}
    (hstep : ∀ past session page, some page ∈ pages → holds past session →
      (session.reference page).outcome ≠ .crash →
      holds (past ++ [session.referenceTo page]) (session.reference page).state)
    (hstart : holds past session) (hrunning : (session.referenceAll pages).outcome ≠ .crash) :
    holds (past ++ session.references pages) (session.referenceAll pages).state := by
  rw [references_eq_map]
  refine referenceAll_follows
    (fun probes later ↦ holds (past ++ probes.map (·.reference)) later) [] ?_ ?_ hrunning
  · intro probes later page hpage hlater hserved
    rw [List.map_append, ← List.append_assoc]
    exact hstep _ later page hpage hlater hserved
  · rw [List.map_nil, List.append_nil]
    exact hstart

/-- A sequence of references fails at its last reference or nowhere. -/
theorem countP_failed_references {session : Session ρ} {pages : List (Option Nat)}
    (hrunning : (session.referenceAll pages).outcome ≠ .crash) :
    (session.references pages).countP (·.Failed) =
      if ∃ reason, (session.referenceAll pages).outcome = .error reason then 1 else 0 := by
  induction pages generalizing session with
  | nil => rfl
  | cons page pages ih =>
    cases page with
    | none => exact absurd rfl hrunning
    | some page =>
      have hfailed : (session.referenceTo page).Failed ↔
          ∃ reason, (session.reference page).outcome = .error reason := Iff.rfl
      rw [referenceAll_cons] at hrunning ⊢
      have hfirst := Reply.ne_crash_of_andThen hrunning
      unfold references
      unfold Reply.andThen at hrunning ⊢
      rw [List.countP_cons]
      simp only [hfailed]
      cases houtcome : (session.reference page).outcome with
      | ok access =>
        simp only [houtcome] at hrunning ⊢
        rw [ih hrunning]
        simp
      | error reason => simp
      | crash => exact absurd houtcome hfirst

/-- A search fails at its last reference or nowhere. -/
theorem countP_failed_search {session : Session ρ} {arraySize key : Nat}
    (hrunning : (session.search arraySize key).outcome ≠ .crash) :
    (session.references (Search.pages session.memory.settings arraySize key)).countP (·.Failed) =
      if ∃ reason, (session.search arraySize key).outcome = .error reason then 1 else 0 := by
  have hreferences := referenceAll_ne_crash_of_search hrunning
  rw [countP_failed_references hreferences]
  cases houtcome : (session.referenceAll
      (Search.pages session.memory.settings arraySize key)).outcome with
  | ok _ => rw [search_of_ok houtcome]
  | error reason => rw [search_of_error houtcome]
  | crash => exact absurd houtcome hreferences

theorem process_of_mem_references {session : Session ρ} {pages : List (Option Nat)}
    {reference : Reference} (h : reference ∈ session.references pages)
    (hrunning : (session.referenceAll pages).outcome ≠ .crash) :
    reference.process = session.space.process := by
  have hrecords := referenceAll_records
    (fun past later ↦ later.space.process = session.space.process ∧
      ∀ reference ∈ past, reference.process = session.space.process)
    [] ?_ ⟨rfl, nofun⟩ hrunning
  · exact hrecords.2 reference h
  · rintro past later page _ ⟨hprocess, hpast⟩ hserved
    refine ⟨(touch_reference hserved).process_eq.trans hprocess, ?_⟩
    intro reference hreference
    obtain hold | hnew := List.mem_append.1 hreference
    · exact hpast reference hold
    · rw [List.mem_singleton.1 hnew]
      exact hprocess

/-- What every reference and the clock tick preserve, a search preserves. -/
theorem search_follows (holds : List (Probe ρ) → Session ρ → Prop) {arraySize key : Nat}
    {session : Session ρ}
    (hstep : ∀ past later page,
      some page ∈ Search.pages session.memory.settings arraySize key → holds past later →
        (later.reference page).outcome ≠ .crash →
        holds (past ++ [⟨later, page⟩]) (later.reference page).state)
    (htick : ∀ past session, holds past session →
      holds past (session.withTable session.space.table.tick))
    (hstart : holds [] session) (hrunning : (session.search arraySize key).outcome ≠ .crash) :
    holds (session.probes (Search.pages session.memory.settings arraySize key))
      (session.search arraySize key).state := by
  have hreferences := referenceAll_ne_crash_of_search hrunning
  have hserved := referenceAll_follows holds [] hstep hstart hreferences
  cases houtcome : (session.referenceAll
      (Search.pages session.memory.settings arraySize key)).outcome with
  | ok _ =>
    rw [search_of_ok houtcome]
    exact htick _ _ hserved
  | error reason =>
    rw [search_of_error houtcome]
    exact hserved
  | crash => exact absurd houtcome hreferences

/-- What every reference, with what came of it, and the clock tick preserve, a search preserves. -/
theorem search_records (holds : List Reference → Session ρ → Prop) (past : List Reference)
    {arraySize key : Nat} {session : Session ρ}
    (hstep : ∀ past later page,
      some page ∈ Search.pages session.memory.settings arraySize key → holds past later →
        (later.reference page).outcome ≠ .crash →
        holds (past ++ [later.referenceTo page]) (later.reference page).state)
    (htick : ∀ past session, holds past session →
      holds past (session.withTable session.space.table.tick))
    (hstart : holds past session) (hrunning : (session.search arraySize key).outcome ≠ .crash) :
    holds (past ++ session.references (Search.pages session.memory.settings arraySize key))
      (session.search arraySize key).state := by
  rw [references_eq_map]
  refine search_follows (fun probes later ↦ holds (past ++ probes.map (·.reference)) later)
    ?_ ?_ ?_ hrunning
  · intro probes later page hpage hlater hserved
    rw [List.map_append, ← List.append_assoc]
    exact hstep _ later page hpage hlater hserved
  · exact fun probes later hlater ↦ htick _ later hlater
  · rw [List.map_nil, List.append_nil]
    exact hstart

end Session

/-! ## Turns -/

namespace Machine

variable {ρ : Type} [VictimPolicy ρ]

/-- The references of the turn that the machine is about to take. -/
def references (machine : Machine ρ) : List Reference :=
  match machine.ready with
  | [] => []
  | number :: _ =>
    match machine.processes[number]? with
    | none => []
    | some process =>
      match process.nextKey? with
      | none => []
      | some key => (machine.session process).references
          (Search.pages machine.memory.settings process.arraySize key)

/-- The references of that turn, with the sessions that they find. -/
def probes (machine : Machine ρ) : List (Probe ρ) :=
  match machine.ready with
  | [] => []
  | number :: _ =>
    match machine.processes[number]? with
    | none => []
    | some process =>
      match process.nextKey? with
      | none => []
      | some key => (machine.session process).probes
          (Search.pages machine.memory.settings process.arraySize key)

theorem references_eq_map (machine : Machine ρ) :
    machine.references = machine.probes.map (·.reference) := by
  unfold references probes
  split
  · rfl
  · split
    · rfl
    · split
      · rfl
      · exact Session.references_eq_map ..

/-- It is this process's turn, and the turn fails. -/
def Fails (machine : Machine ρ) (number : ProcessId) : Prop :=
  machine.ready.head? = some number ∧ ∃ reason, machine.turn.outcome = .error reason

instance (machine : Machine ρ) (number : ProcessId) : Decidable (machine.Fails number) :=
  inferInstanceAs (Decidable (_ ∧ ∃ reason, machine.turn.outcome = .error reason))

/-- Only the process at the front can fail. -/
theorem fails_iff_of_ready {machine : Machine ρ} {number : ProcessId} {waiting : List ProcessId}
    (hready : machine.ready = number :: waiting) (other : ProcessId) :
    machine.Fails other ↔ number = other ∧ ∃ reason, machine.turn.outcome = .error reason := by
  unfold Fails
  rw [hready, List.head?_cons, Option.some.injEq]

theorem not_fails_of_ok {machine : Machine ρ} {more : Bool}
    (hok : machine.turn.outcome = .ok more) (number : ProcessId) : ¬ machine.Fails number := by
  rintro ⟨_, reason, hfailed⟩
  cases hok.symm.trans hfailed

/-- The machines that the turns of a run find. -/
def runTurns (machine : Machine ρ) : List (Machine ρ) :=
  machine ::
    match _answered : machine.turn with
    | ⟨.ok true, next, _⟩ => next.runTurns
    | _ => []
termination_by machine.turnsLeft
decreasing_by
  have ready : machine.ready ≠ [] := by
    intro empty
    simp [turn, empty, Reply.ok] at _answered
  simpa only [_answered] using turnsLeft_turn_lt machine ready (congrArg Reply.outcome _answered)

end Machine

/-- The machines that the turns of a call find. -/
def Visit.turns {ρ : Type} [VictimPolicy ρ] (visit : Visit ρ) : List (Machine ρ) :=
  match visit.call with
  | .spawn _ _ => []
  | .turn => [visit.before]
  | .run => visit.before.runTurns

namespace Machine

variable {ρ : Type} [VictimPolicy ρ]

/-- The machines that the turns of a sequence of calls find. -/
def turnsTaken (machine : Machine ρ) (calls : List Call) : List (Machine ρ) :=
  (machine.visits calls).flatMap Visit.turns

/-- The references of several turns. -/
def trace (turns : List (Machine ρ)) : List Reference := turns.flatMap references

theorem trace_append (turns turns' : List (Machine ρ)) :
    trace (turns ++ turns') = trace turns ++ trace turns' := List.flatMap_append

section

variable {machine next : Machine ρ} {events : List Event}

theorem runTurns_of_more (hturn : machine.turn = ⟨.ok true, next, events⟩) :
    machine.runTurns = machine :: next.runTurns := by
  rw [runTurns]
  split <;> simp_all

theorem runTurns_of_last (hturn : machine.turn.outcome ≠ .ok true) :
    machine.runTurns = [machine] := by
  rw [runTurns]
  split <;> simp_all

end

/-- What every turn preserves, also one that fails, a sequence of turns preserves. -/
theorem takeTurns_records (holds : List (Machine ρ) → Machine ρ → Prop)
    (hturn : ∀ past machine, holds past machine → Turn machine machine.turn →
      holds (past ++ [machine]) machine.turn.state)
    {past : List (Machine ρ)} {machine : Machine ρ} {journal : Array Event}
    (hstart : holds past machine) (hrunning : (machine.takeTurns journal).outcome ≠ .crash) :
    holds (past ++ machine.runTurns) (machine.takeTurns journal).state := by
  induction machine, journal using takeTurns.induct generalizing past with
  | case1 machine journal next events hanswered ih =>
    have hnext := hturn past machine hstart (turn_cases (turn_ne_crash_of_takeTurns hrunning))
    rw [takeTurns_of_more journal hanswered] at hrunning ⊢
    rw [runTurns_of_more hanswered, List.append_cons]
    rw [hanswered] at hnext
    exact ih hnext hrunning
  | case2 machine journal next events hanswered =>
    have hnext := hturn past machine hstart (turn_cases (turn_ne_crash_of_takeTurns hrunning))
    rw [takeTurns_of_done journal hanswered, runTurns_of_last (by simp [hanswered])]
    rw [hanswered] at hnext
    exact hnext
  | case3 machine journal reason next events hanswered =>
    have hnext := hturn past machine hstart (turn_cases (turn_ne_crash_of_takeTurns hrunning))
    rw [takeTurns_of_error journal hanswered, runTurns_of_last (by simp [hanswered])]
    rw [hanswered] at hnext
    exact hnext
  | case4 machine journal next events hanswered =>
    rw [takeTurns_of_crash journal hanswered] at hrunning
    exact absurd rfl hrunning

/-- A property of a machine and the turns behind it that spawns and turns preserve, also those that
fail. -/
structure Recorded (holds : List (Machine ρ) → Machine ρ → Prop) : Prop where
  pinned_le : ∀ past machine, holds past machine →
    machine.memory.settings.essentialPages ≤ machine.memory.settings.tableEntries
  spawn : ∀ past machine arraySize keys reply, holds past machine →
    Spawn machine arraySize keys reply → holds past reply.state
  turn : ∀ past machine, holds past machine → Turn machine machine.turn →
    holds (past ++ [machine]) machine.turn.state

/-- What the turns and the spawns of a sequence of calls preserve, the sequence preserves. -/
theorem after_records (holds : List (Machine ρ) → Machine ρ → Prop)
    (hturn : ∀ past machine, holds past machine → Turn machine machine.turn →
      holds (past ++ [machine]) machine.turn.state)
    {past : List (Machine ρ)} {machine : Machine ρ} {calls : List Call}
    (hspawn : ∀ past machine arraySize keys, Call.spawn arraySize keys ∈ calls →
      holds past machine → (machine.spawn arraySize keys).outcome ≠ .crash →
      holds past (machine.spawn arraySize keys).state)
    (hstart : holds past machine) (hendures : machine.Endures calls) :
    holds (past ++ machine.turnsTaken calls) (machine.after calls) := by
  induction calls generalizing past machine with
  | nil =>
    rw [turnsTaken, visits, List.flatMap_nil, List.append_nil]
    exact hstart
  | cons call calls ih =>
    obtain ⟨hfirst, hrest⟩ := endures_cons_iff.1 hendures
    have htaken : machine.turnsTaken (call :: calls) =
        (Visit.mk machine call).turns ++ (machine.serve call).state.turnsTaken calls := rfl
    rw [htaken, ← List.append_assoc]
    refine ih (fun past machine arraySize keys hmem ↦
      hspawn past machine arraySize keys (List.mem_cons_of_mem _ hmem)) ?_ hrest
    obtain ⟨arraySize, keys, rfl, hcall, hstate⟩ | ⟨rfl, hcall, hstate⟩ | ⟨rfl, hcall, hstate⟩ :=
      serve_cases hfirst
    · rw [hstate, Visit.turns, List.append_nil]
      exact hspawn past machine arraySize keys List.mem_cons_self hstart hcall
    · rw [hstate]
      exact hturn past machine hstart (turn_cases hcall)
    · rw [hstate]
      exact takeTurns_records holds hturn hstart hcall

/-- What a spawn and a turn preserve, a sequence of calls preserves. -/
theorem Recorded.after {holds : List (Machine ρ) → Machine ρ → Prop} (hkept : Recorded holds)
    {past : List (Machine ρ)} {machine : Machine ρ} {calls : List Call}
    (hstart : holds past machine) (hendures : machine.Endures calls) :
    holds (past ++ machine.turnsTaken calls) (machine.after calls) := by
  refine after_records holds hkept.turn ?_ hstart hendures
  intro past machine arraySize keys _ hnow hcall
  exact hkept.spawn past machine arraySize keys _ hnow
    (spawn_cases (hkept.pinned_le past machine hnow) hcall)

/-- What spawns and turns preserve holds of every machine that a turn finds, with the turns before
this one behind it. -/
theorem Recorded.turnsTaken {holds : List (Machine ρ) → Machine ρ → Prop} (hkept : Recorded holds)
    {machine : Machine ρ} {calls : List Call} (hstart : holds [] machine)
    (hendures : machine.Endures calls) {earlier later : List (Machine ρ)} {before : Machine ρ}
    (hsplit : machine.turnsTaken calls = earlier ++ before :: later) :
    holds earlier before ∧ Turn before before.turn := by
  have hnone : ∀ earlier before later, ([] : List (Machine ρ)) = earlier ++ before :: later →
      holds earlier before ∧ Turn before before.turn := by
    intro earlier before later hnil
    cases earlier <;> cases hnil
  have heach : Recorded fun past machine ↦ holds past machine ∧ ∀ earlier before later,
      past = earlier ++ before :: later → holds earlier before ∧ Turn before before.turn := by
    refine ⟨fun past machine h ↦ hkept.pinned_le past machine h.1, ?_, ?_⟩
    · exact fun past machine arraySize keys reply h hreply ↦
        ⟨hkept.spawn past machine arraySize keys reply h.1 hreply, h.2⟩
    · rintro past machine ⟨hnow, hbefore⟩ hreply
      refine ⟨hkept.turn past machine hnow hreply, ?_⟩
      intro earlier before later hsame
      cases later using List.reverseRecOn with
      | nil =>
        obtain ⟨rfl, hlast⟩ := List.append_inj' hsame rfl
        cases hlast
        exact ⟨hnow, hreply⟩
      | append_singleton later last =>
        rw [← List.cons_append, ← List.append_assoc] at hsame
        exact hbefore earlier before later (List.append_inj' hsame rfl).1
  exact (heach.after ⟨hstart, hnone⟩ hendures).2 earlier before later hsplit

/-! ## The references of a turn -/

section

variable {machine : Machine ρ} {number : ProcessId} {waiting : List ProcessId}
  {process : UserProcess}

theorem references_of_idle (hready : machine.ready = []) : machine.references = [] := by
  unfold references
  simp only [hready]

theorem references_of_key {key : Nat} (hready : machine.ready = number :: waiting)
    (hfound : machine.processes[number]? = some process) (hkey : process.nextKey? = some key) :
    machine.references = (machine.session process).references
      (Search.pages machine.memory.settings process.arraySize key) := by
  unfold references
  simp only [hready, hfound, hkey]

theorem references_of_keyless (hready : machine.ready = number :: waiting)
    (hfound : machine.processes[number]? = some process) (hkey : process.nextKey? = none) :
    machine.references = [] := by
  unfold references
  simp only [hready, hfound, hkey]

theorem probes_of_idle (hready : machine.ready = []) : machine.probes = [] := by
  unfold probes
  simp only [hready]

theorem probes_of_key {key : Nat} (hready : machine.ready = number :: waiting)
    (hfound : machine.processes[number]? = some process) (hkey : process.nextKey? = some key) :
    machine.probes = (machine.session process).probes
      (Search.pages machine.memory.settings process.arraySize key) := by
  unfold probes
  simp only [hready, hfound, hkey]

theorem probes_of_keyless (hready : machine.ready = number :: waiting)
    (hfound : machine.processes[number]? = some process) (hkey : process.nextKey? = none) :
    machine.probes = [] := by
  unfold probes
  simp only [hready, hfound, hkey]

/-- A turn that does not crash makes no reference, or those of the search of the process at the
front. -/
theorem references_cases (hrunning : machine.turn.outcome ≠ .crash) :
    machine.references = [] ∨ ∃ number waiting process key,
      machine.ready = number :: waiting ∧ machine.processes[number]? = some process ∧
      ((machine.session process).search process.arraySize key).outcome ≠ .crash ∧
      machine.references = (machine.session process).references
        (Search.pages machine.memory.settings process.arraySize key) := by
  cases hready : machine.ready with
  | nil => exact .inl (references_of_idle hready)
  | cons number waiting =>
    cases hfound : machine.processes[number]? with
    | none =>
      left
      unfold references
      simp only [hready, hfound]
    | some process =>
      cases hkey : process.nextKey? with
      | none => exact .inl (references_of_keyless hready hfound hkey)
      | some key =>
        exact .inr ⟨number, waiting, process, key, rfl, hfound,
          fun hcrash ↦ hrunning (turn_of_crash hready hfound hkey hcrash),
          references_of_key hready hfound hkey⟩

/-- A turn makes one failed reference if it fails, and none otherwise. -/
theorem Turn.countP_failed_references (h : Turn machine machine.turn) :
    machine.references.countP (·.Failed) =
      if ∃ reason, machine.turn.outcome = .error reason then 1 else 0 := by
  have hsearched {number : ProcessId} {waiting : List ProcessId} {process : UserProcess} {key : Nat}
      {outcome : Outcome PagingError Unit} {session : Session ρ} {events : List Event}
      (hready : machine.ready = number :: waiting)
      (hfound : machine.processes[number]? = some process) (hkey : process.nextKey? = some key)
      (hsearch : (machine.session process).search process.arraySize key =
        ⟨outcome, session, events⟩) (hrunning : outcome ≠ .crash) :
      machine.references.countP (·.Failed) =
        if ∃ reason, outcome = .error reason then 1 else 0 := by
    have hcount := Session.countP_failed_search (by rw [hsearch]; exact hrunning)
    rw [hsearch] at hcount
    rw [references_of_key hready hfound hkey]
    exact hcount
  generalize machine.turn = reply at h
  cases h with
  | idle hready => simp [references_of_idle hready]
  | failed hready hfound hkey hsearch =>
    rw [hsearched hready hfound hkey hsearch nofun]
    simp
  | requeued hready hfound hkey hsearch =>
    rw [hsearched hready hfound hkey hsearch nofun]
    simp
  | ended hready hfound hkey hsearch =>
    rw [hsearched hready hfound hkey hsearch nofun]
    simp
  | keyless hready hfound hkey => simp [references_of_keyless hready hfound hkey]

end

end Machine

end PagedMemory
