import PagedMemory.Program
import PagedMemory.Proofs.Completion
import PagedMemory.Proofs.RoundRobin
import PagedMemory.Proofs.Transparency

/-!
# Runs that end well

A run goes well exactly if each of its turns does, and processes are created one after the other
exactly if each spawn goes well on the machine that the ones before it leave.  If everything goes
well, every process leaves after its last search, and its counters and the frames are what they
should be.  `Machine.Finished` says so of the machine that is left.
-/

namespace PagedMemory

namespace Reply

variable {ε η σ α β : Type} {reply : Reply ε η σ α} {next : α → σ → Reply ε η σ β}

/-- A chain succeeds exactly if both of its parts do. -/
theorem andThen_eq_ok_iff {value : β} : (reply.andThen next).outcome = .ok value ↔
    ∃ first, reply.outcome = .ok first ∧ (next first reply.state).outcome = .ok value := by
  unfold andThen
  cases reply.outcome <;> simp

/-- A chain fails exactly if its first part does, or its second part after the first succeeded. -/
theorem andThen_eq_error_iff {reason : ε} : (reply.andThen next).outcome = .error reason ↔
    reply.outcome = .error reason ∨
      ∃ first, reply.outcome = .ok first ∧ (next first reply.state).outcome = .error reason := by
  unfold andThen
  cases reply.outcome <;> simp

end Reply

/-- The calls that create processes with these workloads, in order. -/
def Program.spawns (specs : List ProcessSpec) : List Call :=
  specs.map fun spec ↦ .spawn spec.arraySize spec.keys

namespace Visit

variable {ρ : Type} [VictimPolicy ρ] {visit : Visit ρ}

/-- The call creates a process. -/
def Creates (visit : Visit ρ) : Prop := ∃ number, visit.reply.outcome = .ok (.created number)

theorem Creates.ne_crash (h : visit.Creates) : visit.reply.outcome ≠ .crash := by
  obtain ⟨number, hcreated⟩ := h
  rw [hcreated]
  exact Outcome.ok_ne_crash

/-- No frame is lost when a process is created. -/
theorem Creates.lostFrames_eq_nil (h : visit.Creates) : visit.lostFrames = [] := by
  obtain ⟨number, hcreated⟩ := h
  rw [List.eq_nil_iff_forall_not_mem]
  intro frame hframe
  obtain ⟨⟨_, process, hdry⟩, _⟩ := mem_lostFrames_iff.1 hframe
  cases hcreated.symm.trans hdry

end Visit

namespace Machine

variable {ρ : Type} [VictimPolicy ρ] {machine : Machine ρ} {reason : PagingError}

/-! ## Turns -/

/-- The turn does not fail. -/
def Succeeds (machine : Machine ρ) : Prop := ∃ more, machine.turn.outcome = .ok more

theorem succeeds_iff {outcome : Outcome PagingError Bool} {next : Machine ρ} {events : List Event}
    (hanswered : machine.turn = ⟨outcome, next, events⟩) :
    machine.Succeeds ↔ ∃ more, outcome = .ok more := by
  unfold Succeeds
  rw [hanswered]

/-- Turns are taken to the end exactly if none of them fails. -/
theorem takeTurns_eq_ok_iff {journal : Array Event} :
    (machine.takeTurns journal).outcome = .ok () ↔
      ∀ before ∈ machine.runTurns, before.Succeeds := by
  induction machine, journal using takeTurns.induct with
  | case1 machine journal next events hanswered ih =>
    rw [takeTurns_of_more journal hanswered, runTurns_of_more hanswered, List.forall_mem_cons, ih]
    exact (and_iff_right ((succeeds_iff hanswered).2 ⟨true, rfl⟩)).symm
  | case2 machine journal next events hanswered =>
    rw [takeTurns_of_done journal hanswered, runTurns_of_last (by simp [hanswered]),
      List.forall_mem_singleton, succeeds_iff hanswered]
    simp
  | case3 machine journal reason next events hanswered =>
    rw [takeTurns_of_error journal hanswered, runTurns_of_last (by simp [hanswered]),
      List.forall_mem_singleton, succeeds_iff hanswered]
    simp
  | case4 machine journal next events hanswered =>
    rw [takeTurns_of_crash journal hanswered, runTurns_of_last (by simp [hanswered]),
      List.forall_mem_singleton, succeeds_iff hanswered]
    simp

/-- Taking turns fails exactly if one of the turns does. -/
theorem takeTurns_eq_error_iff {journal : Array Event} :
    (machine.takeTurns journal).outcome = .error reason ↔
      ∃ before ∈ machine.runTurns, before.turn.outcome = .error reason := by
  have hlast {before next : Machine ρ} {outcome : Outcome PagingError Bool} {events : List Event}
      (hanswered : before.turn = ⟨outcome, next, events⟩) (hmore : outcome ≠ .ok true) :
      (∃ found ∈ before.runTurns, found.turn.outcome = .error reason) ↔
        outcome = .error reason := by
    rw [runTurns_of_last (by rw [hanswered]; exact hmore)]
    simp [hanswered]
  induction machine, journal using takeTurns.induct with
  | case1 machine journal next events hanswered ih =>
    rw [takeTurns_of_more journal hanswered, runTurns_of_more hanswered]
    refine ih.trans ?_
    simp [hanswered]
  | case2 machine journal next events hanswered =>
    rw [takeTurns_of_done journal hanswered, hlast hanswered (by simp)]
    simp
  | case3 machine journal reason' next events hanswered =>
    rw [takeTurns_of_error journal hanswered, hlast hanswered (by simp)]
    simp
  | case4 machine journal next events hanswered =>
    rw [takeTurns_of_crash journal hanswered, hlast hanswered (by simp)]
    simp

/-- The machine that a run leaves is the one that its turns leave. -/
theorem after_concat_run (calls : List Call) : machine.after (calls ++ [.run]) =
    ((machine.after calls).takeTurns #[]).state := by
  rw [after_append, after, after, serve_run, state_run]

/-! ## Spawns -/

section Spawns

variable {specs : List ProcessSpec} {spec : ProcessSpec}

theorem creates_spawn_iff : (Visit.mk machine (.spawn spec.arraySize spec.keys)).Creates ↔
    ∃ number, (machine.spawn spec.arraySize spec.keys).outcome = .ok number := by
  unfold Visit.Creates Visit.reply
  simp [serve_spawn, Outcome.map_eq_ok_iff]

theorem visits_spawns_cons : machine.visits (Program.spawns (spec :: specs)) =
    ⟨machine, .spawn spec.arraySize spec.keys⟩ ::
      (machine.spawn spec.arraySize spec.keys).state.visits (Program.spawns specs) := by
  unfold Program.spawns
  rw [List.map_cons, visits, serve_spawn]

theorem after_spawns_cons : machine.after (Program.spawns (spec :: specs)) =
    (machine.spawn spec.arraySize spec.keys).state.after (Program.spawns specs) := by
  unfold Program.spawns
  rw [List.map_cons, after, serve_spawn]

/-- Processes are created to the end exactly if each spawn creates one. -/
theorem spawnAll_eq_ok_iff : (Program.spawnAll machine specs).outcome = .ok () ↔
    ∀ visit ∈ machine.visits (Program.spawns specs), visit.Creates := by
  induction specs generalizing machine with
  | nil => exact iff_of_true rfl nofun
  | cons spec specs ih =>
    rw [visits_spawns_cons, List.forall_mem_cons, creates_spawn_iff, ← ih, Program.spawnAll,
      Reply.andThen_eq_ok_iff, exists_and_right]

theorem state_spawnAll (hspawned : (Program.spawnAll machine specs).outcome = .ok ()) :
    (Program.spawnAll machine specs).state = machine.after (Program.spawns specs) := by
  induction specs generalizing machine with
  | nil => rfl
  | cons spec specs ih =>
    obtain ⟨number, _, hrest, hstate⟩ := Reply.of_andThen_ok hspawned
    rw [after_spawns_cons, ← ih hrest]
    exact hstate

/-- Creating processes fails exactly if one spawn does after all before it went well. -/
theorem spawnAll_eq_error_iff : (Program.spawnAll machine specs).outcome = .error reason ↔
    ∃ front spec back, specs = front ++ spec :: back ∧
      (∀ visit ∈ machine.visits (Program.spawns front), visit.Creates) ∧
      ((machine.after (Program.spawns front)).spawn spec.arraySize spec.keys).outcome =
        .error reason := by
  induction specs generalizing machine with
  | nil =>
    refine iff_of_false nofun ?_
    rintro ⟨front, spec, back, hnil, _⟩
    cases front <;> cases hnil
  | cons first specs ih =>
    rw [Program.spawnAll, Reply.andThen_eq_error_iff]
    constructor
    · rintro (hfailed | ⟨number, hcreated, hrest⟩)
      · exact ⟨[], first, specs, rfl, nofun, hfailed⟩
      · obtain ⟨front, spec, back, rfl, hfront, hfailed⟩ := ih.1 hrest
        refine ⟨first :: front, spec, back, rfl, ?_, ?_⟩
        · rw [visits_spawns_cons, List.forall_mem_cons, creates_spawn_iff]
          exact ⟨⟨number, hcreated⟩, hfront⟩
        · rw [after_spawns_cons]
          exact hfailed
    · rintro ⟨front, spec, back, hsplit, hfront, hfailed⟩
      cases front with
      | nil =>
        cases hsplit
        exact .inl hfailed
      | cons spec' front =>
        cases hsplit
        rw [visits_spawns_cons, List.forall_mem_cons, creates_spawn_iff] at hfront
        rw [after_spawns_cons] at hfailed
        obtain ⟨⟨number, hcreated⟩, hfront⟩ := hfront
        exact .inr ⟨number, hcreated, ih.2 ⟨front, spec, back, rfl, hfront, hfailed⟩⟩

end Spawns

end Machine

/-! ## What is left in the end -/

/-- The indices that the searches of a process look at, one after the other. -/
def ProcessSpec.midpoints (spec : ProcessSpec) : List Nat :=
  spec.keys.toList.flatMap fun key ↦
    (Search.intervals spec.arraySize key).map Search.Interval.midpoint

theorem ProcessSpec.length_pages (settings : Settings) (spec : ProcessSpec) :
    (spec.pages settings).length = spec.midpoints.length := by
  unfold pages midpoints Search.pages
  simp only [List.length_flatMap, List.length_map]

/-- The process has done its searches and left, and its counters say so. -/
structure UserProcess.Done (process : UserProcess) : Prop where
  terminated : process.terminated = true
  searched : process.currentSearch = process.keys.size
  accesses_eq : process.space.counters.accesses = process.spec.midpoints.length
  replacements_eq : process.space.counters.replacements = process.space.counters.attempts.total

namespace Machine

variable {ρ : Type} {machine : Machine ρ} {settings : Settings} {specs : List ProcessSpec}

/-- All processes have done their searches and left, and all frames are free. -/
structure Finished (settings : Settings) (specs : List ProcessSpec) (machine : Machine ρ) :
    Prop where
  specs_eq : machine.specs = specs
  done : ∀ (number : ProcessId) (process : UserProcess),
    machine.processes[number]? = some process → process.Done
  total_eq : machine.report.total = Counters.sum machine.report.processes
  freeFrames_perm : machine.freeFrames.Perm settings.allFrames

variable [VictimPolicy ρ] {past : List (Machine ρ)} {number : ProcessId} {process : UserProcess}

/-- When nobody is ready, and no turn has failed, every process has left after its last search. -/
theorem Attended.departed (h : machine.Attended past) (hready : machine.ready = [])
    (hfine : ∀ before ∈ past, before.Succeeds)
    (hfound : machine.processes[number]? = some process) :
    process.terminated = true ∧ process.currentSearch = process.keys.size := by
  have hnever : past.countP (·.Fails number) = 0 := by
    rw [List.countP_eq_zero]
    intro before hbefore
    obtain ⟨more, hok⟩ := hfine before hbefore
    simpa using not_fails_of_ok hok number
  obtain ⟨situation, hother, hsituation⟩ := h.ready_eq_nil_iff.1 hready number process hfound
  cases situation with
  | queued => exact absurd rfl hother
  | departed => exact ⟨hsituation.2.1, hsituation.2.2.1⟩
  | stranded => exact absurd (hnever.symm.trans hsituation.2.2.1) (by decide)

/-- A process that has left after its last search, and no turn of which has failed, has been charged
for all its searches. -/
theorem Books.done (h : machine.Books settings past) (hfaithful : machine.Faithful settings past)
    (hfine : ∀ before ∈ past, before.Succeeds)
    (hfound : machine.processes[number]? = some process) (hterminated : process.terminated = true)
    (hsearched : process.currentSearch = process.keys.size) : process.Done := by
  have hunfailed : ¬ ∃ turn ∈ past, turn.Fails number := by
    rintro ⟨turn, hturn, hfails⟩
    obtain ⟨more, hok⟩ := hfine turn hturn
    exact not_fails_of_ok hok number hfails
  have hcounters := (h.sheet number process hfound).counters_eq
  refine ⟨hterminated, hsearched, ?_, ?_⟩
  · calc
      process.space.counters.accesses = (madeBy past number).length := by
        rw [hcounters]
        rfl
      _ = (process.touched settings).length := by
        rw [← hfaithful number process hfound hunfailed, List.length_map]
      _ = process.spec.midpoints.length := by
        rw [UserProcess.touched_of_finished (Nat.le_of_eq hsearched.symm),
          ProcessSpec.length_pages]
  · rw [hcounters]
    exact (Counters.consistent_ofReferences _).total_attempts.symm

theorem Books.total_eq (h : machine.Books settings past) :
    machine.report.total = Counters.sum machine.report.processes := by
  rw [h.report_processes]
  exact h.ledger.trans (Counters.sum_ofReferences h.known).symm

/-- Processes that have left hold no frames. -/
theorem Books.mappedFrames_eq_nil (h : machine.Books settings past)
    (hterminated : ∀ (number : ProcessId) (process : UserProcess),
      machine.processes[number]? = some process → process.terminated = true) :
    machine.mappedFrames = [] := by
  unfold mappedFrames
  rw [List.flatMap_eq_nil_iff]
  intro process hprocess
  obtain ⟨number, hfound⟩ := List.getElem?_of_mem hprocess
  rw [Array.getElem?_toList] at hfound
  rw [(h.sheet number process hfound).vacated (hterminated number process hfound)]
  rfl

/-! ## From the first spawn to the last turn -/

theorem turnsTaken_spawns (machine : Machine ρ) (specs : List ProcessSpec) :
    machine.turnsTaken (Program.spawns specs) = [] := by
  induction specs generalizing machine with
  | nil => rfl
  | cons spec specs ih =>
    unfold turnsTaken
    rw [visits_spawns_cons, List.flatMap_cons]
    exact ih _

/-- What spawns and turns preserve holds when all processes were created and have had all their
turns. -/
theorem Recorded.spawns_takeTurns {holds : List (Machine ρ) → Machine ρ → Prop}
    (hkept : Recorded holds) (hstart : holds [] machine)
    (hspawned : ∀ visit ∈ machine.visits (Program.spawns specs), visit.Creates)
    (hok : ((machine.after (Program.spawns specs)).takeTurns #[]).outcome = .ok ()) :
    holds (machine.after (Program.spawns specs)).runTurns
      ((machine.after (Program.spawns specs)).takeTurns #[]).state := by
  have hcreated := hkept.after hstart fun visit hvisit ↦ (hspawned visit hvisit).ne_crash
  rw [turnsTaken_spawns, List.append_nil] at hcreated
  have hended := takeTurns_records holds hkept.turn hcreated
    (by rw [hok]; exact Outcome.ok_ne_crash)
  rw [List.nil_append] at hended
  exact hended

theorem specs_after_spawns {policy : ρ} (hcreate : create settings policy = .ok machine)
    (hspawned : ∀ visit ∈ machine.visits (Program.spawns specs), visit.Creates) :
    (machine.after (Program.spawns specs)).specs = specs := by
  have hok := spawnAll_eq_ok_iff.2 hspawned
  have hassembled := (assembled_create hcreate).spawnAll hok
  rw [state_spawnAll hok] at hassembled
  exact hassembled.specs_eq

/-- No frame is lost if all processes are created. -/
theorem Accounts.spawns {lost : List FrameNumber} (h : machine.Accounts settings lost)
    (hvalid : settings.Valid)
    (hspawned : ∀ visit ∈ machine.visits (Program.spawns specs), visit.Creates) :
    (machine.after (Program.spawns specs)).Accounts settings lost := by
  have hnone : (machine.visits (Program.spawns specs)).flatMap Visit.lostFrames = [] :=
    List.flatMap_eq_nil_iff.2 fun visit hvisit ↦ (hspawned visit hvisit).lostFrames_eq_nil
  have hafter := h.after hvalid fun visit hvisit ↦ (hspawned visit hvisit).ne_crash
  rw [hnone, List.append_nil] at hafter
  exact hafter

section Run

variable {policy : ρ} (hcreate : create settings policy = .ok machine)
  (hspawned : ∀ visit ∈ machine.visits (Program.spawns specs), visit.Creates)

include hcreate hspawned

theorem specs_spawns_takeTurns
    (hrunning : ((machine.after (Program.spawns specs)).takeTurns #[]).outcome ≠ .crash) :
    ((machine.after (Program.spawns specs)).takeTurns #[]).state.specs = specs :=
  takeTurns_preserves (fun later ↦ later.specs = specs)
    (fun _ _ hlater hturn ↦ hturn.specs_eq.trans hlater)
    (specs_after_spawns hcreate hspawned) hrunning

theorem accounts_spawns_takeTurns
    (hrunning : ((machine.after (Program.spawns specs)).takeTurns #[]).outcome ≠ .crash) :
    ((machine.after (Program.spawns specs)).takeTurns #[]).state.Accounts settings [] := by
  obtain ⟨hvalid, haccounts⟩ := accounts_create hcreate
  exact takeTurns_preserves (fun later ↦ later.Accounts settings [])
    (fun _ _ hlater hturn ↦ hlater.turn hvalid hturn) (haccounts.spawns hvalid hspawned) hrunning

theorem ready_spawns_takeTurns
    (hok : ((machine.after (Program.spawns specs)).takeTurns #[]).outcome = .ok ()) :
    ((machine.after (Program.spawns specs)).takeTurns #[]).state.ready = [] := by
  have hassembled := attended_recorded.after (attended_create hcreate)
    fun visit hvisit ↦ (hspawned visit hvisit).ne_crash
  exact ((hassembled.runLength_le (by rw [hok]; exact Outcome.ok_ne_crash)).2 hok).2

/-- If all processes are created, and no turn fails, all of them have left in the end. -/
theorem finished_of_succeeds
    (hfine : ∀ before ∈ (machine.after (Program.spawns specs)).runTurns, before.Succeeds) :
    ((machine.after (Program.spawns specs)).takeTurns #[]).state.Finished settings specs := by
  have hok : ((machine.after (Program.spawns specs)).takeTurns #[]).outcome = .ok () :=
    takeTurns_eq_ok_iff.2 hfine
  have hrunning : ((machine.after (Program.spawns specs)).takeTurns #[]).outcome ≠ .crash := by
    rw [hok]
    exact Outcome.ok_ne_crash
  obtain ⟨hvalid, hempty⟩ := books_create hcreate
  obtain ⟨hbooks, hfaithful⟩ := (faithful_recorded hvalid).spawns_takeTurns
    ⟨hempty, faithful_create hcreate⟩ hspawned hok
  have hattended := attended_recorded.spawns_takeTurns (attended_create hcreate) hspawned hok
  have hready := ready_spawns_takeTurns hcreate hspawned hok
  have hdone : ∀ (number : ProcessId) (process : UserProcess),
      ((machine.after (Program.spawns specs)).takeTurns #[]).state.processes[number]? =
        some process → process.Done := by
    intro number process hfound
    obtain ⟨hterminated, hsearched⟩ := hattended.departed hready hfine hfound
    exact hbooks.done hfaithful hfine hfound hterminated hsearched
  refine ⟨specs_spawns_takeTurns hcreate hspawned hrunning, hdone, hbooks.total_eq, ?_⟩
  -- Processes that have left hold no frames, and none is lost.
  have hnone := hbooks.mappedFrames_eq_nil fun number process hfound ↦
    (hdone number process hfound).terminated
  have hcomplete := (accounts_spawns_takeTurns hcreate hspawned hrunning).complete
  rw [heldFrames, hnone, List.nil_append, List.append_nil] at hcomplete
  exact hcomplete

end Run

end Machine

end PagedMemory
