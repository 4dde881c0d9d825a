import PagedMemory.Machine.Basic

/-!
# Running a machine to the end

`Machine.run` takes turns until nobody is ready or a turn fails.  It needs no bound from outside.  A
queued process has a turn left for each of its remaining keys, and one to leave in if it has none;
by `turnsLeft_turn_lt` every turn that does not fail uses up one of the turns that the queued
processes have left together.
-/

namespace PagedMemory.Machine

variable {ρ : Type}

/-! ## How many turns are left -/

/-- The turns that a process has left when it is queued: one for each key, and one to leave if it
has none. -/
def turnsOf (machine : Machine ρ) (number : ProcessId) : Nat :=
  match machine.processes[number]? with
  | none => 1
  | some process => max 1 (process.keys.size - process.currentSearch)

/-- The turns that the queued processes have left together. -/
def turnsLeft (machine : Machine ρ) : Nat :=
  machine.ready.foldr (fun number turns ↦ machine.turnsOf number + turns) 0

theorem turnsOf_of_found {machine : Machine ρ} {number : ProcessId} {process : UserProcess}
    (found : machine.processes[number]? = some process) :
    machine.turnsOf number = max 1 (process.keys.size - process.currentSearch) := by
  simp only [turnsOf, found]

theorem turnsLeft_of_ready {machine : Machine ρ} {number : ProcessId} {waiting : List ProcessId}
    (queue : machine.ready = number :: waiting) :
    machine.turnsLeft = machine.turnsOf number + turnsLeft { machine with ready := waiting } := by
  simp only [turnsLeft, queue, List.foldr_cons]
  rfl

/-- Machines with the same queue compare by the turns that each process has left. -/
theorem turnsLeft_le_of_turnsOf_le {left right : Machine ρ} (same : left.ready = right.ready)
    (pointwise : ∀ number, left.turnsOf number ≤ right.turnsOf number) :
    left.turnsLeft ≤ right.turnsLeft := by
  simp only [turnsLeft, same]
  induction right.ready with
  | nil => exact Nat.le_refl 0
  | cons number _ ih => exact Nat.add_le_add (pointwise number) ih

/-- A process at the end of the queue adds the turns that it has left. -/
theorem turnsLeft_enqueue (machine : Machine ρ) (number : ProcessId) :
    turnsLeft { machine with ready := machine.ready ++ [number] } =
      machine.turnsLeft + machine.turnsOf number := by
  have turns (queue : List ProcessId) (start : Nat) :
      queue.foldr (fun number turns ↦ machine.turnsOf number + turns) start =
        queue.foldr (fun number turns ↦ machine.turnsOf number + turns) 0 + start := by
    induction queue with
    | nil => simp
    | cons other _ ih => simp only [List.foldr_cons, ih]; omega
  exact (List.foldr_append ..).trans (turns machine.ready _)

theorem turnsOf_adopt_self (machine : Machine ρ) (memory : Memory ρ) {number : ProcessId}
    {process : UserProcess} (inside : number < machine.processes.size) :
    (machine.adopt memory number process).turnsOf number =
      max 1 (process.keys.size - process.currentSearch) := by
  simp [turnsOf, adopt, inside]

theorem turnsOf_adopt_le (machine : Machine ρ) (memory : Memory ρ) {number : ProcessId}
    {old new : UserProcess} (found : machine.processes[number]? = some old)
    (keys : new.keys = old.keys) (search : old.currentSearch ≤ new.currentSearch)
    (other : ProcessId) :
    (machine.adopt memory number new).turnsOf other ≤ machine.turnsOf other := by
  obtain ⟨inside, rfl⟩ := Array.getElem?_eq_some_iff.1 found
  by_cases same : number = other
  · subst same
    rw [turnsOf_adopt_self machine memory inside, keys]
    simp only [turnsOf, found]
    omega
  · simp [turnsOf, adopt, same]

/-- What a process is after its search, and what the machine is. -/
theorem of_searchNext_ok [VictimPolicy ρ] {machine : Machine ρ} {number : ProcessId}
    {process searched : UserProcess}
    (succeeded : (machine.searchNext number process).outcome = .ok searched) :
    (process.nextKey? = none ∧ searched = process ∧
        (machine.searchNext number process).state = machine) ∨
      (process.nextKey?.isSome ∧ searched.keys = process.keys ∧
        searched.currentSearch = process.currentSearch + 1 ∧
        ∃ memory, (machine.searchNext number process).state =
          machine.adopt memory number searched) := by
  unfold searchNext at succeeded ⊢
  split at succeeded
  · rename_i none_left
    left
    simp_all [Reply.ok]
  · rename_i key some_left
    right
    simp only [Reply.announcing] at succeeded ⊢
    cases outcome : ((Session.mk machine.memory process.space).search process.arraySize
        key).outcome with
    | ok _ =>
      simp only [outcome, Outcome.map, Outcome.ok.injEq] at succeeded
      subst succeeded
      exact ⟨by simp [some_left], rfl, rfl, _, rfl⟩
    | error _ => simp [outcome, Outcome.map] at succeeded
    | crash => simp [outcome, Outcome.map] at succeeded

/-- Ending a process leaves the turns of the others alone, and sending it to the end of the queue
gives it back the turns of its remaining keys. -/
theorem turnsLeft_conclude_le (machine : Machine ρ) {number : ProcessId} {process : UserProcess}
    (found : machine.processes[number]? = some process) :
    (machine.conclude number process).state.turnsLeft ≤
      machine.turnsLeft + (process.keys.size - process.currentSearch) := by
  unfold conclude
  split
  · apply Nat.le_add_right_of_le
    exact turnsLeft_le_of_turnsOf_le rfl (turnsOf_adopt_le machine _ found rfl (Nat.le_refl _))
  · rename_i unfinished
    have turns : machine.turnsOf number = process.keys.size - process.currentSearch := by
      simp only [UserProcess.finished, decide_eq_true_eq] at unfinished
      simp only [turnsOf, found]
      omega
    simp only [Reply.ok, turnsLeft_enqueue, turns, Nat.le_refl]

/-- A process that has searched, or has left for want of a key, has used up one of its turns. -/
theorem turnsLeft_conclude_searchNext_lt [VictimPolicy ρ] {machine : Machine ρ}
    {number : ProcessId} {process searched : UserProcess}
    (found : machine.processes[number]? = some process)
    (succeeded : (machine.searchNext number process).outcome = .ok searched) :
    ((machine.searchNext number process).state.conclude number searched).state.turnsLeft <
      max 1 (process.keys.size - process.currentSearch) + machine.turnsLeft := by
  rcases of_searchNext_ok succeeded with
    ⟨none_left, rfl, state⟩ | ⟨some_left, keys, search, memory, state⟩
  · rw [state]
    have bound := turnsLeft_conclude_le machine found
    have exhausted : searched.keys.size ≤ searched.currentSearch := by
      simpa [UserProcess.nextKey?] using none_left
    omega
  · rw [state]
    have inside := (Array.getElem?_eq_some_iff.1 found).1
    have adopted : (machine.adopt memory number searched).processes[number]? = some searched := by
      simp [adopt, inside]
    have bound := turnsLeft_conclude_le _ adopted
    have smaller : (machine.adopt memory number searched).turnsLeft ≤ machine.turnsLeft :=
      turnsLeft_le_of_turnsOf_le rfl (turnsOf_adopt_le machine memory found keys (by omega))
    have under : process.currentSearch < process.keys.size := by
      simpa [UserProcess.nextKey?] using some_left
    rw [keys, search] at bound
    omega

/-- A turn that does not fail uses up one of the turns that are left. -/
theorem turnsLeft_turn_lt [VictimPolicy ρ] (machine : Machine ρ) {more : Bool}
    (ready : machine.ready ≠ []) (succeeded : machine.turn.outcome = .ok more) :
    machine.turn.state.turnsLeft < machine.turnsLeft := by
  obtain ⟨number, waiting, queue⟩ := List.exists_cons_of_ne_nil ready
  cases found : machine.processes[number]? with
  | none => simp [turn, queue, found, Reply.crash] at succeeded
  | some process =>
    have unfolded : machine.turn =
        (searchNext { machine with ready := waiting } number process).andThen
          fun process machine ↦ (machine.conclude number process).andThen
            fun _ machine ↦ .ok (!machine.ready.isEmpty) machine := by
      simp only [turn, queue, found]
    rw [unfolded] at succeeded ⊢
    obtain ⟨searched, search_ok, rest_ok, same_state⟩ := Reply.of_andThen_ok succeeded
    obtain ⟨_, _, _, same_end⟩ := Reply.of_andThen_ok rest_ok
    rw [same_state, same_end, turnsLeft_of_ready queue, turnsOf_of_found found]
    exact turnsLeft_conclude_searchNext_lt found search_ok

/-! ## Running -/

/-- Takes turns until nobody is ready or a turn fails.  The events so far are in `journal`. -/
def takeTurns [VictimPolicy ρ] (machine : Machine ρ) (journal : Array Event) :
    Answer (Machine ρ) Unit :=
  match _answered : machine.turn with
  | ⟨.ok true, next, events⟩ => next.takeTurns (journal ++ events)
  | ⟨.ok false, next, events⟩ => ⟨.ok (), next, (journal ++ events).toList⟩
  | ⟨.error reason, next, events⟩ => ⟨.error reason, next, (journal ++ events).toList⟩
  | ⟨.crash, next, events⟩ => ⟨.crash, next, (journal ++ events).toList⟩
termination_by machine.turnsLeft
decreasing_by
  have ready : machine.ready ≠ [] := by
    intro empty
    simp [turn, empty, Reply.ok] at _answered
  simpa only [_answered] using turnsLeft_turn_lt machine ready (congrArg Reply.outcome _answered)

/-- Takes turns until nobody is ready, and reports. -/
def run [VictimPolicy ρ] (machine : Machine ρ) : Answer (Machine ρ) Report :=
  Reply.announcing (.runStarted machine.processes.size machine.memory.free.size) <|
    (machine.takeTurns #[]).andThen fun _ machine ↦ .ok machine.report machine

end PagedMemory.Machine
