import PagedMemory.Proofs.Turns

/-!
# The life of a machine

What a caller can do with a machine is to spawn processes, to take single turns and to run it to the
end; turns and runs are the quiet calls, they create nobody.  `Machine.serve` answers one such call,
`Machine.visits` lists the calls of a sequence with the machines that they find, and `Machine.after`
is the machine that the sequence leaves.  A call that fails ends nothing: the next one finds the
machine as the failure left it.  Only a crash is the end, and a machine `Endures` a sequence if no
call crashes.

By `Machine.serve_preserves` and `Machine.after_preserves` whatever a spawn and a turn preserve
holds at the end of every such life.
-/

namespace PagedMemory

/-- What can be asked of a machine. -/
inductive Call where
  | spawn (arraySize : Nat) (keys : Array Nat)
  | turn
  | run
deriving DecidableEq

/-- The call creates no process. -/
def Call.Quiet : Call → Prop
  | .spawn _ _ => False
  | .turn | .run => True

instance (call : Call) : Decidable call.Quiet :=
  match call with
  | .spawn _ _ => isFalse nofun
  | .turn | .run => isTrue trivial

/-- What a machine answers. -/
inductive Response where
  | created (process : ProcessId)
  | turned (more : Bool)
  | reported (report : Report)
deriving DecidableEq

/-- A call, with the machine that it finds. -/
structure Visit (ρ : Type) where
  before : Machine ρ
  call : Call

namespace Machine

variable {ρ : Type} [VictimPolicy ρ]

/-- Answers a call. -/
def serve (machine : Machine ρ) : Call → Answer (Machine ρ) Response
  | .spawn arraySize keys =>
    (machine.spawn arraySize keys).andThen fun process machine ↦ .ok (.created process) machine
  | .turn => machine.turn.andThen fun more machine ↦ .ok (.turned more) machine
  | .run => machine.run.andThen fun report machine ↦ .ok (.reported report) machine

/-- The calls of a sequence, with the machines that they find. -/
def visits (machine : Machine ρ) : List Call → List (Visit ρ)
  | [] => []
  | call :: calls => ⟨machine, call⟩ :: (machine.serve call).state.visits calls

/-- The machine that a sequence of calls leaves. -/
def after (machine : Machine ρ) : List Call → Machine ρ
  | [] => machine
  | call :: calls => (machine.serve call).state.after calls

end Machine

/-- The reply to a call. -/
def Visit.reply {ρ : Type} [VictimPolicy ρ] (visit : Visit ρ) : Answer (Machine ρ) Response :=
  visit.before.serve visit.call

namespace Machine

variable {ρ : Type} [VictimPolicy ρ]

/-- No call of the sequence crashes. -/
def Endures (machine : Machine ρ) (calls : List Call) : Prop :=
  ∀ visit ∈ machine.visits calls, visit.reply.outcome ≠ .crash

instance (machine : Machine ρ) (calls : List Call) : Decidable (machine.Endures calls) :=
  inferInstanceAs (Decidable (∀ visit ∈ machine.visits calls, visit.reply.outcome ≠ .crash))

theorem endures_cons_iff {machine : Machine ρ} {call : Call} {calls : List Call} :
    machine.Endures (call :: calls) ↔
      (machine.serve call).outcome ≠ .crash ∧ (machine.serve call).state.Endures calls :=
  List.forall_mem_cons

/-! ## Splitting a sequence of calls -/

theorem after_append (machine : Machine ρ) (calls calls' : List Call) :
    machine.after (calls ++ calls') = (machine.after calls).after calls' := by
  induction calls generalizing machine with
  | nil => rfl
  | cons call calls ih => exact ih _

theorem endures_append_iff {machine : Machine ρ} {calls calls' : List Call} :
    machine.Endures (calls ++ calls') ↔
      machine.Endures calls ∧ (machine.after calls).Endures calls' := by
  induction calls generalizing machine with
  | nil => exact (and_iff_right nofun).symm
  | cons call calls ih =>
    rw [List.cons_append, endures_cons_iff, endures_cons_iff, ih, after, and_assoc]

/-- A call of a sequence finds the machine that the calls before it leave. -/
theorem exists_of_mem_visits {machine : Machine ρ} {calls : List Call} {visit : Visit ρ}
    (h : visit ∈ machine.visits calls) :
    ∃ front back, calls = front ++ visit.call :: back ∧ visit.before = machine.after front := by
  induction calls generalizing machine with
  | nil => cases h
  | cons call calls ih =>
    obtain rfl | hlater := List.mem_cons.1 h
    · exact ⟨[], calls, rfl, rfl⟩
    · obtain ⟨front, back, rfl, hbefore⟩ := ih hlater
      exact ⟨call :: front, back, rfl, hbefore⟩

/-! ## Birth -/

omit [VictimPolicy ρ] in
/-- A machine is created exactly from valid settings, with all its frames free. -/
theorem create_eq_ok_iff {settings : Settings} {policy : ρ} {machine : Machine ρ} :
    create settings policy = .ok machine ↔
      settings.Valid ∧ machine =
        { memory :=
            { settings := settings
              free := .full settings.userFrames settings.fallback
              policy := policy } } := by
  unfold create Memory.create Settings.Valid
  cases settings.flaw? with
  | none => simp [Except.map, eq_comm]
  | some flaw => simp [Except.map]

/-! ## Replies to single calls -/

theorem serve_spawn (machine : Machine ρ) (arraySize : Nat) (keys : Array Nat) :
    machine.serve (.spawn arraySize keys) =
      let reply := machine.spawn arraySize keys
      ⟨reply.outcome.map .created, reply.state, reply.events⟩ :=
  Reply.andThen_answer (machine.spawn arraySize keys) fun process _ ↦ Response.created process

theorem serve_turn (machine : Machine ρ) :
    machine.serve .turn =
      ⟨machine.turn.outcome.map .turned, machine.turn.state, machine.turn.events⟩ :=
  Reply.andThen_answer machine.turn fun more _ ↦ Response.turned more

theorem serve_run (machine : Machine ρ) :
    machine.serve .run =
      ⟨machine.run.outcome.map .reported, machine.run.state, machine.run.events⟩ :=
  Reply.andThen_answer machine.run fun report _ ↦ Response.reported report

/-- A call that does not crash is a spawn, a turn or a sequence of turns that does not crash. -/
theorem serve_cases {machine : Machine ρ} {call : Call}
    (hrunning : (machine.serve call).outcome ≠ .crash) :
    (∃ arraySize keys, call = .spawn arraySize keys ∧
        (machine.spawn arraySize keys).outcome ≠ .crash ∧
        (machine.serve call).state = (machine.spawn arraySize keys).state) ∨
      (call = .turn ∧ machine.turn.outcome ≠ .crash ∧
        (machine.serve call).state = machine.turn.state) ∨
      (call = .run ∧ (machine.takeTurns #[]).outcome ≠ .crash ∧
        (machine.serve call).state = (machine.takeTurns #[]).state) := by
  cases call with
  | spawn arraySize keys =>
    rw [serve_spawn] at hrunning ⊢
    exact .inl ⟨arraySize, keys, rfl, Outcome.ne_crash_of_map hrunning, rfl⟩
  | turn =>
    rw [serve_turn] at hrunning ⊢
    exact .inr (.inl ⟨rfl, Outcome.ne_crash_of_map hrunning, rfl⟩)
  | run =>
    rw [serve_run, run_eq] at hrunning ⊢
    exact .inr (.inr ⟨rfl, Outcome.ne_crash_of_map (Outcome.ne_crash_of_map hrunning), rfl⟩)

/-! ## What lasts -/

/-- What a spawn and a turn preserve, a call preserves. -/
theorem serve_preserves (holds : Machine ρ → Prop)
    (hpinned : ∀ machine, holds machine →
      machine.memory.settings.essentialPages ≤ machine.memory.settings.tableEntries)
    (hspawn : ∀ machine arraySize keys reply, holds machine →
      Spawn machine arraySize keys reply → holds reply.state)
    (hturn : ∀ machine reply, holds machine → Turn machine reply → holds reply.state)
    {machine : Machine ρ} {call : Call} (hstart : holds machine)
    (hrunning : (machine.serve call).outcome ≠ .crash) : holds (machine.serve call).state := by
  obtain ⟨arraySize, keys, _, hcall, hstate⟩ | ⟨_, hcall, hstate⟩ | ⟨_, hcall, hstate⟩ :=
    serve_cases hrunning
  · rw [hstate]
    exact hspawn machine arraySize keys _ hstart (spawn_cases (hpinned machine hstart) hcall)
  · rw [hstate]
    exact hturn machine _ hstart (turn_cases hcall)
  · rw [hstate]
    exact takeTurns_preserves holds hturn hstart hcall

/-- A call changes no settings. -/
theorem serve_settings_eq {machine : Machine ρ} {call : Call}
    (hpinned : machine.memory.settings.essentialPages ≤ machine.memory.settings.tableEntries)
    (hrunning : (machine.serve call).outcome ≠ .crash) :
    (machine.serve call).state.memory.settings = machine.memory.settings := by
  refine serve_preserves (fun later ↦ later.memory.settings = machine.memory.settings) ?_ ?_ ?_ rfl
    hrunning
  · intro later hlater
    rw [hlater]
    exact hpinned
  · exact fun later arraySize keys reply hlater hspawn ↦ hspawn.settings_eq.trans hlater
  · exact fun later reply hlater hturn ↦ hturn.settings_eq.trans hlater

/-- What every call preserves, also one that fails, a sequence of calls preserves. -/
theorem after_preserves (holds : Machine ρ → Prop)
    (hcall : ∀ machine call, holds machine → (machine.serve call).outcome ≠ .crash →
      holds (machine.serve call).state)
    {machine : Machine ρ} {calls : List Call} (hstart : holds machine)
    (hendures : machine.Endures calls) : holds (machine.after calls) := by
  induction calls generalizing machine with
  | nil => exact hstart
  | cons call calls ih =>
    obtain ⟨hfirst, hrest⟩ := endures_cons_iff.1 hendures
    exact ih (hcall machine call hstart hfirst) hrest

/-! ## Where processes come from -/

/-- A call that creates a process is a spawn that finds frames enough. -/
theorem of_created {machine : Machine ρ} {call : Call} {number : ProcessId}
    (hpinned : machine.memory.settings.essentialPages ≤ machine.memory.settings.tableEntries)
    (hcreated : (machine.serve call).outcome = .ok (.created number)) :
    ∃ arraySize keys, call = .spawn arraySize keys ∧ number = machine.processes.size ∧
      machine.memory.settings.essentialPages ≤ machine.memory.free.size ∧
      (machine.serve call).state =
        { memory := { machine.memory with
            free := machine.memory.free.dropLast machine.memory.settings.essentialPages }
          processes := machine.processes.push (machine.newborn arraySize keys)
          ready := machine.ready ++ [machine.processes.size] } := by
  cases call with
  | spawn arraySize keys =>
    rw [serve_spawn] at hcreated ⊢
    obtain ⟨created, hspawned, hsame⟩ := Outcome.map_eq_ok_iff.1 hcreated
    cases hsame
    have hspawn := spawn_cases hpinned
      (show (machine.spawn arraySize keys).outcome ≠ .crash by
        rw [hspawned]
        exact Outcome.ok_ne_crash)
    generalize machine.spawn arraySize keys = reply at hspawn hspawned ⊢
    cases hspawn with
    | refused => cases hspawned
    | drained => cases hspawned
    | created _ hplenty =>
      cases hspawned
      exact ⟨arraySize, keys, rfl, rfl, hplenty, rfl⟩
  | turn =>
    rw [serve_turn] at hcreated
    obtain ⟨_, _, hother⟩ := Outcome.map_eq_ok_iff.1 hcreated
    cases hother
  | run =>
    rw [serve_run] at hcreated
    obtain ⟨_, _, hother⟩ := Outcome.map_eq_ok_iff.1 hcreated
    cases hother

/-- A call creates at most one process, under the next number. -/
theorem created_or_size_eq {machine : Machine ρ} {call : Call}
    (hpinned : machine.memory.settings.essentialPages ≤ machine.memory.settings.tableEntries)
    (hrunning : (machine.serve call).outcome ≠ .crash) :
    ((machine.serve call).outcome = .ok (.created machine.processes.size) ∧
        (machine.serve call).state.processes.size = machine.processes.size + 1) ∨
      (machine.serve call).state.processes.size = machine.processes.size := by
  obtain ⟨arraySize, keys, rfl, hcall, hstate⟩ | ⟨rfl, hcall, hstate⟩ | ⟨rfl, hcall, hstate⟩ :=
    serve_cases hrunning
  · have hspawn := spawn_cases hpinned hcall
    rw [serve_spawn]
    generalize machine.spawn arraySize keys = reply at hspawn ⊢
    cases hspawn with
    | refused => exact .inr rfl
    | drained => exact .inr rfl
    | created => exact .inl ⟨rfl, Array.size_push _⟩
  · rw [hstate]
    exact .inr (turn_cases hcall).size_processes_eq
  · rw [hstate]
    exact .inr (takeTurns_preserves (fun later ↦ later.processes.size = machine.processes.size)
      (fun _ _ hlater hturn ↦ hturn.size_processes_eq.trans hlater) rfl hcall)

/-- Every process that is not there in the beginning is created in one of the calls. -/
theorem exists_created {machine : Machine ρ} {calls : List Call} {number : Nat}
    (hpinned : machine.memory.settings.essentialPages ≤ machine.memory.settings.tableEntries)
    (hendures : machine.Endures calls) (hlate : machine.processes.size ≤ number)
    (hin : number < (machine.after calls).processes.size) :
    ∃ visit ∈ machine.visits calls, visit.reply.outcome = .ok (.created number) := by
  induction calls generalizing machine with
  | nil => exact absurd hin (Nat.not_lt_of_le hlate)
  | cons call calls ih =>
    obtain ⟨hfirst, hrest⟩ := endures_cons_iff.1 hendures
    by_cases hnow : number < (machine.serve call).state.processes.size
    · obtain ⟨hcreated, hsize⟩ | hsize := created_or_size_eq hpinned hfirst
      · obtain rfl : number = machine.processes.size := by omega
        exact ⟨⟨machine, call⟩, List.mem_cons_self, hcreated⟩
      · omega
    · have hsettings := serve_settings_eq hpinned hfirst
      rw [← hsettings] at hpinned
      obtain ⟨visit, hvisit, hcreated⟩ := ih hpinned hrest (Nat.le_of_not_lt hnow) hin
      exact ⟨visit, List.mem_cons_of_mem _ hvisit, hcreated⟩

end Machine

end PagedMemory
