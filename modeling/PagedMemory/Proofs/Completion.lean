import Mathlib.Data.List.Perm.Subperm
import PagedMemory.Proofs.Situations

/-!
# How a run ends

A process in the queue has a turn left for each of its remaining keys, or one to leave in.  A turn
that goes well uses up exactly one of the turns that the queue has left together, and a turn that
fails uses up all that its process had.  So a run takes at most as many turns as are left when it
begins.  If it succeeds it has taken exactly that many, and nobody is ready any more.  If it fails,
exactly one process has left the queue because its turn failed, and everybody else who is gone has
left after its last search.

A run that fails can be called again, and as every failure costs the queue a process, there are at
most as many failures as processes were ready.  When nobody is ready, turns and runs change nothing.
`Machine.completion_after` puts this together for every machine that any calls can lead to.
-/

namespace PagedMemory.Machine

variable {ρ : Type}

/-! ## The turns that are left -/

section

variable {machine : Machine ρ} {number : ProcessId} {waiting : List ProcessId}

/-- The turns that are left depend on the processes in the queue only. -/
theorem turnsLeft_congr {left right : Machine ρ} (hqueue : left.ready = right.ready)
    (hsame : ∀ number ∈ right.ready, left.turnsOf number = right.turnsOf number) :
    left.turnsLeft = right.turnsLeft := by
  unfold turnsLeft
  rw [hqueue]
  generalize right.ready = queue at hsame
  induction queue with
  | nil => rfl
  | cons number queue ih =>
    rw [List.foldr_cons, List.foldr_cons, hsame number List.mem_cons_self,
      ih fun other hother ↦ hsame other (List.mem_cons_of_mem _ hother)]

theorem turnsLeft_of_idle (hready : machine.ready = []) : machine.turnsLeft = 0 := by
  unfold turnsLeft
  rw [hready]
  rfl

theorem turnsOf_pos (machine : Machine ρ) (number : ProcessId) : 0 < machine.turnsOf number := by
  unfold turnsOf
  split
  · exact Nat.zero_lt_one
  · exact Nat.le_max_left 1 _

theorem turnsLeft_pos_of_ready (hready : machine.ready = number :: waiting) :
    0 < machine.turnsLeft := by
  rw [turnsLeft_of_ready hready]
  exact Nat.add_pos_left (turnsOf_pos machine number) _

/-- What becomes of one process does not change the turns that the others have left. -/
theorem turnsLeft_resume (hnowhere : number ∉ waiting) (session : Session ρ)
    (process : UserProcess) :
    (machine.resume session number process waiting).turnsLeft =
      turnsLeft { machine with ready := waiting } := by
  have hqueue : (machine.resume session number process waiting).ready =
      ({ machine with ready := waiting } : Machine ρ).ready := rfl
  refine turnsLeft_congr hqueue fun other hother ↦ ?_
  have hne : number ≠ other := fun hsame ↦ hnowhere (hsame ▸ hother)
  unfold turnsOf
  rw [getElem?_resume_of_ne hne]

/-- A process that goes to the end of the queue takes the turns of its remaining keys along. -/
theorem turnsLeft_resume_concat (hnowhere : number ∉ waiting)
    (hin : number < machine.processes.size) (session : Session ρ) (process : UserProcess) :
    (machine.resume session number process (waiting ++ [number])).turnsLeft =
      turnsLeft { machine with ready := waiting } +
        max 1 (process.keys.size - process.currentSearch) := by
  have hturns := turnsOf_of_found (getElem?_resume_self hin session process waiting)
  rw [← turnsLeft_resume hnowhere session process]
  exact (turnsLeft_enqueue (machine.resume session number process waiting) number).trans
    (congrArg _ hturns)

end

variable [VictimPolicy ρ] {settings : Settings} {past : List (Machine ρ)} {machine : Machine ρ}
  {number : ProcessId} {waiting : List ProcessId}

/-- A turn that goes well uses up one of the turns that are left, and one that fails uses up those
of its process. -/
theorem Attended.turnsLeft_turn (h : machine.Attended past)
    (hready : machine.ready = number :: waiting) (hturn : Turn machine machine.turn) :
    machine.turnsLeft = machine.turn.state.turnsLeft +
      if machine.Fails number then machine.turnsOf number else 1 := by
  have hnowhere := h.front_not_mem hready
  rw [turnsLeft_of_ready hready]
  generalize hanswered : machine.turn = reply at hturn
  cases hturn with
  | idle hidle => cases hidle.symm.trans hready
  | failed hfront =>
    cases hready.symm.trans hfront
    have hfails := (fails_iff_of_ready hready number).2 ⟨rfl, _, congrArg Reply.outcome hanswered⟩
    rw [if_pos hfails, turnsLeft_resume hnowhere, Nat.add_comm]
  | requeued hfront hfound _ _ hmore =>
    cases hready.symm.trans hfront
    have hfine := not_fails_of_ok (congrArg Reply.outcome hanswered) number
    rw [if_neg hfine, turnsOf_of_found hfound,
      turnsLeft_resume_concat hnowhere (Array.getElem?_eq_some_iff.1 hfound).1]
    simp only
    omega
  | ended hfront hfound _ _ hlast =>
    cases hready.symm.trans hfront
    have hfine := not_fails_of_ok (congrArg Reply.outcome hanswered) number
    rw [if_neg hfine, turnsOf_of_found hfound, turnsLeft_resume hnowhere]
    omega
  | keyless hfront hfound hkey =>
    cases hready.symm.trans hfront
    have hfine := not_fails_of_ok (congrArg Reply.outcome hanswered) number
    have hnone := nextKey?_eq_none_iff.1 hkey
    rw [if_neg hfine, turnsOf_of_found hfound, turnsLeft_resume hnowhere]
    omega

/-! ## The length of a run -/

/-- How many turns a run takes.  A turn that finds nobody ready does not count. -/
def runLength (machine : Machine ρ) : Nat :=
  machine.runTurns.countP fun before ↦ ¬ before.ready = []

theorem ready_ne_nil_of_more {next : Machine ρ} {events : List Event}
    (hanswered : machine.turn = ⟨.ok true, next, events⟩) : machine.ready ≠ [] := by
  intro hready
  rw [turn_of_idle hready] at hanswered
  cases congrArg Reply.outcome hanswered

theorem runLength_of_more {next : Machine ρ} {events : List Event}
    (hanswered : machine.turn = ⟨.ok true, next, events⟩) :
    machine.runLength = next.runLength + 1 := by
  unfold runLength
  rw [runTurns_of_more hanswered]
  exact List.countP_cons_of_pos (decide_eq_true (ready_ne_nil_of_more hanswered))

theorem runLength_of_last (hlast : machine.turn.outcome ≠ .ok true) :
    machine.runLength = if machine.ready = [] then 0 else 1 := by
  unfold runLength
  rw [runTurns_of_last hlast, List.countP_singleton]
  by_cases hready : machine.ready = [] <;> simp [hready]

/-- The last turn of a run is the only one that was left, unless nobody was ready for it. -/
theorem Attended.turnsLeft_of_done (h : machine.Attended past) {next : Machine ρ}
    {events : List Event} (hanswered : machine.turn = ⟨.ok false, next, events⟩) :
    machine.turnsLeft = if machine.ready = [] then 0 else 1 := by
  have hturn : Turn machine machine.turn :=
    turn_cases (by rw [hanswered]; exact Outcome.ok_ne_crash)
  cases hready : machine.ready with
  | nil => rw [turnsLeft_of_idle hready, if_pos rfl]
  | cons number waiting =>
    have hone := h.turnsLeft_turn hready hturn
    rw [if_neg (not_fails_of_ok (congrArg Reply.outcome hanswered) number), hanswered,
      turnsLeft_of_idle (ready_of_done hanswered)] at hone
    rw [hone, if_neg (List.cons_ne_nil _ _)]

/-- A run takes at most the turns that are left.  If it succeeds it takes all of them, and nobody is
ready any more. -/
theorem Attended.runLength_le (h : machine.Attended past) {journal : Array Event}
    (hrunning : (machine.takeTurns journal).outcome ≠ .crash) :
    machine.runLength ≤ machine.turnsLeft ∧
      ((machine.takeTurns journal).outcome = .ok () →
        machine.runLength = machine.turnsLeft ∧ (machine.takeTurns journal).state.ready = []) := by
  induction machine, journal using takeTurns.induct generalizing past with
  | case1 machine journal next events hanswered ih =>
    have hturn := turn_cases (turn_ne_crash_of_takeTurns hrunning)
    have hnext := h.turn hturn
    obtain ⟨number, waiting, hready⟩ :=
      List.exists_cons_of_ne_nil (ready_ne_nil_of_more hanswered)
    have hone := h.turnsLeft_turn hready hturn
    rw [if_neg (not_fails_of_ok (congrArg Reply.outcome hanswered) number)] at hone
    rw [hanswered] at hnext hone
    rw [takeTurns_of_more journal hanswered] at hrunning ⊢
    rw [runLength_of_more hanswered, hone]
    obtain ⟨hle, hall⟩ := ih hnext hrunning
    exact ⟨Nat.succ_le_succ hle, fun hok ↦ ⟨congrArg Nat.succ (hall hok).1, (hall hok).2⟩⟩
  | case2 machine journal next events hanswered =>
    rw [takeTurns_of_done journal hanswered, runLength_of_last (by simp [hanswered]),
      h.turnsLeft_of_done hanswered]
    exact ⟨Nat.le_refl _, fun _ ↦ ⟨rfl, ready_of_done hanswered⟩⟩
  | case3 machine journal reason next events hanswered =>
    rw [takeTurns_of_error journal hanswered, runLength_of_last (by simp [hanswered])]
    refine ⟨?_, fun hok ↦ ?_⟩
    · cases hready : machine.ready with
      | nil => exact Nat.zero_le _
      | cons number waiting => exact turnsLeft_pos_of_ready hready
    · cases hok
  | case4 machine journal next events hanswered =>
    rw [takeTurns_of_crash journal hanswered] at hrunning
    exact absurd rfl hrunning

/-! ## The queue of a run -/

/-- Nobody comes into the queue in a turn. -/
theorem Turn.ready_subset {reply : Answer (Machine ρ) Bool} (h : Turn machine reply) :
    reply.state.ready ⊆ machine.ready := by
  cases h with
  | idle => exact List.Subset.refl _
  | failed hready | ended hready | keyless hready =>
    rw [hready]
    exact List.subset_cons_self _ _
  | requeued hready =>
    rw [hready]
    refine List.append_subset.2 ⟨List.subset_cons_self _ _, ?_⟩
    exact List.cons_subset.2 ⟨List.mem_cons_self, List.nil_subset _⟩

/-- Nobody comes into the queue during a run. -/
theorem ready_subset_of_takeTurns {journal : Array Event}
    (hrunning : (machine.takeTurns journal).outcome ≠ .crash) :
    (∀ before ∈ machine.runTurns, before.ready ⊆ machine.ready) ∧
      (machine.takeTurns journal).state.ready ⊆ machine.ready := by
  have hstart : (∀ before ∈ ([] : List (Machine ρ)), before.ready ⊆ machine.ready) ∧
      machine.ready ⊆ machine.ready := ⟨nofun, List.Subset.refl _⟩
  refine takeTurns_records (fun past later ↦ (∀ before ∈ past, before.ready ⊆ machine.ready) ∧
    later.ready ⊆ machine.ready) ?_ hstart hrunning
  rintro past later ⟨hpast, hlater⟩ hturn
  refine ⟨?_, fun number hmem ↦ hlater (hturn.ready_subset hmem)⟩
  exact List.forall_mem_append.2 ⟨hpast, List.forall_mem_singleton.2 hlater⟩

/-- Nobody waits twice. -/
theorem Attended.ready_nodup (h : machine.Attended past) :
    machine.ready.Nodup := by
  refine List.nodup_iff_count_eq_one.2 fun number hmem ↦ ?_
  obtain ⟨_, _, honce, _⟩ := h.of_mem hmem
  exact honce

/-! ## A run that fails -/

/-- In a run that fails, one turn of one process does, and no other. -/
theorem exists_countP_fails_eq {journal : Array Event} {reason : PagingError}
    (hfailed : (machine.takeTurns journal).outcome = .error reason) :
    ∃ number, ∀ other, machine.runTurns.countP (·.Fails other) =
      if number = other then 1 else 0 := by
  induction machine, journal using takeTurns.induct with
  | case1 machine journal next events hanswered ih =>
    rw [takeTurns_of_more journal hanswered] at hfailed
    obtain ⟨number, hnumber⟩ := ih hfailed
    refine ⟨number, fun other ↦ ?_⟩
    have hfine := not_fails_of_ok (congrArg Reply.outcome hanswered) other
    rw [runTurns_of_more hanswered, List.countP_cons_of_neg (by simp only [hfine]; decide)]
    exact hnumber other
  | case2 machine journal next events hanswered =>
    rw [takeTurns_of_done journal hanswered] at hfailed
    cases hfailed
  | case3 machine journal reason next events hanswered =>
    cases hready : machine.ready with
    | nil =>
      rw [turn_of_idle hready] at hanswered
      cases congrArg Reply.outcome hanswered
    | cons number waiting =>
      refine ⟨number, fun other ↦ ?_⟩
      have hfails : machine.Fails other ↔ number = other :=
        (fails_iff_of_ready hready other).trans
          (and_iff_left ⟨reason, congrArg Reply.outcome hanswered⟩)
      rw [runTurns_of_last (by simp [hanswered]), List.countP_singleton]
      simp only [hfails, decide_eq_true_eq]
  | case4 machine journal next events hanswered =>
    rw [takeTurns_of_crash journal hanswered] at hfailed
    cases hfailed

/-- A run that fails leaves out exactly one process because its turn failed.  The others are still
ready, or have left after their last search. -/
theorem Attended.exists_failed (h : machine.Attended past) {journal : Array Event}
    {reason : PagingError} (hfailed : (machine.takeTurns journal).outcome = .error reason) :
    ∃ number ∈ machine.ready, number ∉ (machine.takeTurns journal).state.ready ∧
      (∀ other, machine.runTurns.countP (·.Fails other) = if number = other then 1 else 0) ∧
      ∀ other ∈ machine.ready, other ≠ number →
        other ∈ (machine.takeTurns journal).state.ready ∨
          ∃ process, (machine.takeTurns journal).state.processes[other]? = some process ∧
            process.terminated = true ∧ process.currentSearch = process.keys.size := by
  have hrunning : (machine.takeTurns journal).outcome ≠ .crash := by
    rw [hfailed]
    exact nofun
  have hend := takeTurns_records _ attended_recorded.turn h hrunning
  have hsize := takeTurns_preserves (fun later ↦ later.processes.size = machine.processes.size)
    (fun _ _ hlater hturn ↦ hturn.size_processes_eq.trans hlater) rfl hrunning
  obtain ⟨number, hcount⟩ := exists_countP_fails_eq hfailed
  obtain ⟨before, hbefore, hfails⟩ : ∃ before ∈ machine.runTurns, before.Fails number := by
    have hpos : 0 < machine.runTurns.countP (·.Fails number) := by
      rw [hcount number, if_pos rfl]
      exact Nat.zero_lt_one
    obtain ⟨before, hbefore, hfails⟩ := List.countP_pos_iff.1 hpos
    exact ⟨before, hbefore, of_decide_eq_true hfails⟩
  refine ⟨number, ?_, ?_, hcount, ?_⟩
  · exact (ready_subset_of_takeTurns hrunning).1 before hbefore (List.mem_of_mem_head? hfails.1)
  · intro hmem
    obtain ⟨_, _, _, _, hunfailed, _⟩ := hend.of_mem hmem
    rw [List.countP_append, hcount number, if_pos rfl] at hunfailed
    omega
  · intro other hmem hne
    obtain ⟨_, hfound, _, _, hunfailed, _⟩ := h.of_mem hmem
    have hin := (Array.getElem?_eq_some_iff.1 hfound).1
    rw [← hsize] at hin
    have hlater := Array.getElem?_eq_getElem hin
    obtain ⟨situation, hsituation⟩ := hend.placed other _ hlater
    cases situation with
    | queued => exact .inl (List.count_pos_iff.1 (by rw [hsituation.1]; exact Nat.zero_lt_one))
    | departed => exact .inr ⟨_, hlater, hsituation.2.1, hsituation.2.2.1⟩
    | stranded =>
      have hstranded := hsituation.2.2.1
      rw [List.countP_append, hunfailed, hcount other, if_neg (Ne.symm hne)] at hstranded
      cases hstranded

/-- A run that fails costs the queue a process. -/
theorem Attended.length_ready_lt (h : machine.Attended past) {journal : Array Event}
    {reason : PagingError} (hfailed : (machine.takeTurns journal).outcome = .error reason) :
    (machine.takeTurns journal).state.ready.length < machine.ready.length := by
  have hrunning : (machine.takeTurns journal).outcome ≠ .crash := by
    rw [hfailed]
    exact nofun
  have hend := takeTurns_records _ attended_recorded.turn h hrunning
  obtain ⟨number, hmem, hgone, _⟩ := h.exists_failed hfailed
  have hnodup := List.nodup_cons.2 ⟨hgone, hend.ready_nodup⟩
  have hsubset := List.cons_subset.2 ⟨hmem, (ready_subset_of_takeTurns hrunning).2⟩
  exact (hnodup.subperm hsubset).length_le

/-! ## Nobody ready -/

/-- When nobody is ready, a quiet call is answered at once and leaves the machine as it is. -/
theorem serve_of_idle (hready : machine.ready = []) {call : Call} (hquiet : call.Quiet) :
    (machine.serve call).state = machine ∧ (machine.serve call).outcome =
      .ok (if call = .turn then .turned false else .reported machine.report) := by
  have hturn := turn_of_idle hready
  cases call with
  | spawn => exact hquiet.elim
  | turn =>
    rw [serve_turn, hturn]
    exact ⟨rfl, rfl⟩
  | run =>
    rw [serve_run, run_eq, takeTurns_of_done _ hturn]
    exact ⟨rfl, rfl⟩

/-- When nobody is ready, quiet calls leave the machine as it is. -/
theorem after_of_idle (hready : machine.ready = []) {calls : List Call}
    (hquiet : ∀ call ∈ calls, call.Quiet) :
    machine.after calls = machine ∧ ∀ visit ∈ machine.visits calls,
      visit.before = machine ∧ visit.call.Quiet := by
  induction calls with
  | nil => exact ⟨rfl, nofun⟩
  | cons call calls ih =>
    obtain ⟨hcall, hcalls⟩ := List.forall_mem_cons.1 hquiet
    have hsame := (serve_of_idle hready hcall).1
    rw [after, visits, hsame]
    exact ⟨(ih hcalls).1, List.forall_mem_cons.2 ⟨⟨rfl, hcall⟩, (ih hcalls).2⟩⟩

/-! ## Runs that follow one another -/

theorem state_run (machine : Machine ρ) : machine.run.state = (machine.takeTurns #[]).state := by
  rw [run_eq]

theorem takeTurns_of_run_ne_crash (hrunning : machine.run.outcome ≠ .crash) :
    (machine.takeTurns #[]).outcome ≠ .crash := by
  rw [run_eq] at hrunning
  exact Outcome.ne_crash_of_map hrunning

theorem takeTurns_of_run_error {reason : PagingError}
    (hfailed : machine.run.outcome = .error reason) :
    (machine.takeTurns #[]).outcome = .error reason := by
  rw [run_eq] at hfailed
  exact Outcome.map_eq_error_iff.1 hfailed

/-- A run that succeeds takes all the turns that are left, leaves nobody ready, and reports on the
machine that it leaves. -/
theorem Attended.of_run_ok (h : machine.Attended past) {report : Report}
    (hok : machine.run.outcome = .ok report) :
    machine.runLength = machine.turnsLeft ∧ machine.run.state.ready = [] ∧
      machine.run.state.report = report := by
  rw [run_eq] at hok ⊢
  obtain ⟨_, hended, hreport⟩ := Outcome.map_eq_ok_iff.1 hok
  obtain ⟨hlength, hready⟩ := (h.runLength_le (by rw [hended]; exact nofun)).2 hended
  exact ⟨hlength, hready, hreport⟩

theorem endures_runs_succ_iff {count : Nat} :
    machine.Endures (List.replicate (count + 1) .run) ↔
      machine.run.outcome ≠ .crash ∧ machine.run.state.Endures (List.replicate count .run) := by
  have hcrash : machine.run.outcome.map Response.reported ≠ .crash ↔
      machine.run.outcome ≠ .crash := by
    cases machine.run.outcome <;> simp [Outcome.map]
  rw [List.replicate_succ, endures_cons_iff, serve_run, hcrash]

theorem after_runs_succ (machine : Machine ρ) (count : Nat) :
    machine.after (List.replicate (count + 1) .run) =
      machine.run.state.after (List.replicate count .run) := by
  rw [List.replicate_succ, after, serve_run]

/-- A run that succeeds leaves nothing to do for those that follow it. -/
theorem Attended.exists_report (h : machine.Attended past) {report : Report}
    (hrun : machine.run.outcome = .ok report) (index : Nat) :
    ∃ report, (machine.after (List.replicate index .run)).run.outcome = .ok report := by
  cases index with
  | zero => exact ⟨report, hrun⟩
  | succ index =>
    have hidle := (h.of_run_ok hrun).2.1
    have hquiet : ∀ call ∈ List.replicate index Call.run, call.Quiet := by
      intro call hcall
      rw [List.eq_of_mem_replicate hcall]
      trivial
    have hsame := (after_of_idle hidle hquiet).1
    rw [after_runs_succ, hsame, run_eq, takeTurns_of_done _ (turn_of_idle hidle)]
    exact ⟨_, rfl⟩

/-- Runs that follow one another fail at most as often as there are processes in the queue, and do
not fail any more once one of them has succeeded. -/
theorem Attended.exists_failures (h : machine.Attended past) :
    ∃ failures ≤ machine.ready.length, ∀ index,
      machine.Endures (List.replicate (index + 1) .run) →
      if index < failures then
        ∃ reason, (machine.after (List.replicate index .run)).run.outcome = .error reason
      else ∃ report, (machine.after (List.replicate index .run)).run.outcome = .ok report := by
  -- The induction is on the length of the queue: a failure makes it shorter.
  induction hlength : machine.ready.length using Nat.strongRecOn
    generalizing machine past with
  | ind length ih =>
    subst hlength
    cases hrun : machine.run.outcome with
    | crash =>
      refine ⟨0, Nat.zero_le _, fun index hserved ↦ ?_⟩
      exact absurd hrun (endures_runs_succ_iff.1 hserved).1
    | ok report =>
      refine ⟨0, Nat.zero_le _, fun index _ ↦ ?_⟩
      rw [if_neg (Nat.not_lt_zero index)]
      exact h.exists_report hrun index
    | error reason =>
      have hfailed := takeTurns_of_run_error hrun
      have hshorter := h.length_ready_lt hfailed
      have hnext := takeTurns_records _ attended_recorded.turn h
        (by rw [hfailed]; exact nofun : (machine.takeTurns #[]).outcome ≠ .crash)
      rw [← state_run] at hshorter hnext
      obtain ⟨failures, hle, hruns⟩ := ih _ hshorter hnext rfl
      refine ⟨failures + 1, Nat.lt_of_le_of_lt hle hshorter, fun index hserved ↦ ?_⟩
      cases index with
      | zero =>
        rw [if_pos (Nat.succ_pos failures)]
        exact ⟨reason, hrun⟩
      | succ index =>
        rw [after_runs_succ]
        simp only [Nat.add_lt_add_iff_right]
        exact hruns index (endures_runs_succ_iff.1 hserved).2

/-! ## The end of a run -/

/-- Whatever is asked of a machine, and whatever its policy answers, the next run takes at most the
turns that are left.  If it succeeds, it takes all of them, nobody is ready any more, and until the
next spawn every turn and every run gives the same answer and changes nothing.  If it fails, exactly
one process has left the queue because its turn failed.  And if it is called again and again, it
fails at most as often as there are processes in the queue, and succeeds from then on. -/
theorem completion_after {policy : ρ} {calls : List Call} {later : Machine ρ}
    (hcreate : create settings policy = .ok machine) (hendures : machine.Endures calls)
    (hlater : machine.after calls = later) :
    (later.run.outcome ≠ .crash → later.runLength ≤ later.turnsLeft) ∧
    (∀ report, later.run.outcome = .ok report →
      later.runLength = later.turnsLeft ∧ later.run.state.ready = [] ∧
      ∀ further : List Call, (∀ call ∈ further, call.Quiet) →
        ∀ visit ∈ later.run.state.visits further, visit.reply.state = later.run.state ∧
          visit.reply.outcome =
            .ok (if visit.call = .turn then .turned false else .reported report)) ∧
    (∀ reason, later.run.outcome = .error reason →
      ∃ number ∈ later.ready, number ∉ later.run.state.ready ∧
        (∀ other, later.runTurns.countP (·.Fails other) = if number = other then 1 else 0) ∧
        ∀ other ∈ later.ready, other ≠ number →
          other ∈ later.run.state.ready ∨
            ∃ process, later.run.state.processes[other]? = some process ∧
              process.terminated = true ∧ process.currentSearch = process.keys.size) ∧
    ∃ failures ≤ later.ready.length, ∀ index,
      later.Endures (List.replicate (index + 1) .run) →
      if index < failures then
        ∃ reason, (later.after (List.replicate index .run)).run.outcome = .error reason
      else ∃ report, (later.after (List.replicate index .run)).run.outcome = .ok report := by
  have h := attended_recorded.after (attended_create hcreate) hendures
  rw [hlater] at h
  refine ⟨?_, ?_, ?_, h.exists_failures⟩
  · exact fun hrunning ↦ (h.runLength_le (takeTurns_of_run_ne_crash hrunning)).1
  · intro report hok
    obtain ⟨hlength, hidle, hreport⟩ := h.of_run_ok hok
    refine ⟨hlength, hidle, fun further hquiet visit hvisit ↦ ?_⟩
    obtain ⟨hbefore, hcall⟩ := (after_of_idle hidle hquiet).2 visit hvisit
    rw [Visit.reply, hbefore, ← hreport]
    exact serve_of_idle hidle hcall
  · intro reason hfailed
    rw [state_run]
    exact h.exists_failed (takeTurns_of_run_error hfailed)

/-- The processes of `medley`, before any turn. -/
def arrivals : List Call := medley.take 3

/-- The three processes that arrive at the vacant machine have four turns left.  In the first run
the second process fails in the second turn, and the second run takes the turns that are left. -/
theorem completion_after_sparse :
    create sparse Aging.mk = .ok vacant ∧ vacant.Endures arrivals ∧
      (vacant.after arrivals).turnsLeft = 4 ∧
      (vacant.after arrivals).runLength = 2 ∧
      (∃ number ∈ (vacant.after arrivals).ready,
        number ∉ (vacant.after arrivals).run.state.ready) ∧
      ∃ failures ≤ 3, ∀ index < 4,
        if index < failures then ∃ reason,
          (vacant.after (arrivals ++ List.replicate index .run)).run.outcome = .error reason
        else ∃ report,
          (vacant.after (arrivals ++ List.replicate index .run)).run.outcome = .ok report := by
  have hcreate : create sparse Aging.mk = .ok vacant := rfl
  have hendures : vacant.Endures arrivals := by decide +kernel
  have hruns : ∀ index < 4, (vacant.after arrivals).Endures
      (List.replicate (index + 1) .run) := by decide +kernel
  have hfailed : ∃ reason, (vacant.after arrivals).run.outcome = .error reason := by
    decide +kernel
  obtain ⟨_, _, herror, failures, hle, hall⟩ := completion_after hcreate hendures rfl
  obtain ⟨reason, hreason⟩ := hfailed
  obtain ⟨number, hmem, hgone, _⟩ := herror reason hreason
  refine ⟨hcreate, hendures, by decide +kernel, by decide +kernel, ⟨number, hmem, hgone⟩,
    failures, hle, fun index hindex ↦ ?_⟩
  rw [after_append]
  exact hall index (hruns index hindex)

end PagedMemory.Machine
