import Mathlib.Data.List.MinMax
import Mathlib.Data.Prod.Lex
import PagedMemory.Proofs.Plenty
import PagedMemory.Proofs.Situations

/-!
# Round robin

If all processes are created before the first turn, the turns go by rounds: every process has one
turn in each round, in the order of their numbers, until its searches are done, and a process
without keys has a turn in the first round to leave in.  `Program.timetable` lists these turns.

The queue never holds more of the timetable than a round: each turn in it is later than the ones in
front of it and earlier than their turns of the next round.  `Appointment.SameLap` says this of two
turns; it survives when the process at the front goes to the end with its next turn, and also when
it leaves or fails.  So the process at the front always has the earliest turn that is still due, and
`Machine.turns_round_robin` follows: the turns taken are those of the timetable, in its order,
without those that a process misses because it has failed before.
-/

namespace PagedMemory

/-- The turn of a process in a round.  Rounds are counted from zero. -/
structure Appointment where
  round : Nat
  process : ProcessId
deriving DecidableEq

namespace Appointment

variable {earlier later : Appointment}

/-- Rounds come one after the other, and in a round the processes by their numbers. -/
instance : Preorder Appointment :=
  Preorder.lift fun appointment ↦ toLex (appointment.round, appointment.process)

theorem lt_iff : earlier < later ↔
    earlier.round < later.round ∨
      earlier.round = later.round ∧ earlier.process < later.process :=
  Prod.Lex.toLex_lt_toLex

instance : DecidableLT Appointment := fun _ _ ↦ decidable_of_iff _ lt_iff.symm

/-- What is before a turn is before all later turns of the same process. -/
theorem lt_of_lt_of_round_le {last : Appointment} (h : earlier < later)
    (hprocess : later.process = last.process) (hround : later.round ≤ last.round) :
    earlier < last := by
  rw [lt_iff] at h ⊢
  obtain hless | ⟨hsame, hless⟩ := h
  · exact .inl (Nat.lt_of_lt_of_le hless hround)
  · rw [hprocess] at hless
    obtain hlater | hnow := Nat.lt_or_eq_of_le hround
    · exact .inl (hsame ▸ hlater)
    · exact .inr ⟨hsame.trans hnow, hless⟩

/-- The turn of the same process in the next round. -/
def next (appointment : Appointment) : Appointment := ⟨appointment.round + 1, appointment.process⟩

theorem next_lt_next_iff : earlier.next < later.next ↔ earlier < later := by
  simp only [lt_iff, next, Nat.add_lt_add_iff_right, Nat.add_right_cancel_iff]

/-- A turn is later than another, but earlier than the next turn of the other process. -/
def SameLap (earlier later : Appointment) : Prop := earlier < later ∧ later < earlier.next

/-- The next turn of a process is in the same lap as all turns up to then. -/
theorem SameLap.next (h : earlier.SameLap later) : later.SameLap earlier.next :=
  ⟨h.2, next_lt_next_iff.2 h.1⟩

end Appointment

/-- In how many rounds a process with this workload has a turn: in one for each key, and in the
first one even without a key. -/
def ProcessSpec.rounds (spec : ProcessSpec) : Nat := max 1 spec.keys.size

namespace Program

/-- The turns of all processes with these workloads, by rounds and then by numbers. -/
def timetable (specs : List ProcessSpec) : List Appointment :=
  (List.range ((specs.map (·.rounds)).foldr max 0)).flatMap fun round ↦
    ((List.range specs.length).filter fun number ↦
      specs[number]?.any (round < ·.rounds)).map (Appointment.mk round)

theorem mem_timetable_iff {specs : List ProcessSpec} {appointment : Appointment} :
    appointment ∈ timetable specs ↔ ∃ spec, specs[appointment.process]? = some spec ∧
      appointment.round < spec.rounds := by
  obtain ⟨round, number⟩ := appointment
  have hattends : specs[number]?.any (round < ·.rounds) = true ↔
      ∃ spec, specs[number]? = some spec ∧ round < spec.rounds := by
    cases specs[number]? <;> simp
  unfold timetable
  constructor
  · intro hmem
    obtain ⟨round', _, hmem⟩ := List.mem_flatMap.1 hmem
    obtain ⟨number', hnumber, hsame⟩ := List.mem_map.1 hmem
    cases hsame
    exact hattends.1 (List.mem_filter.1 hnumber).2
  · rintro ⟨spec, hspec, hround⟩
    have hmost : spec.rounds ≤ (specs.map (·.rounds)).foldr max 0 :=
      List.le_max_of_le' 0 (List.mem_map_of_mem (List.mem_of_getElem? hspec)) (Nat.le_refl _)
    have hin : number < specs.length := (List.getElem?_eq_some_iff.1 hspec).1
    refine List.mem_flatMap.2 ⟨round, List.mem_range.2 (Nat.lt_of_lt_of_le hround hmost), ?_⟩
    refine List.mem_map.2 ⟨number, ?_, rfl⟩
    exact List.mem_filter.2 ⟨List.mem_range.2 hin, hattends.2 ⟨spec, hspec, hround⟩⟩

theorem pairwise_timetable (specs : List ProcessSpec) : (timetable specs).Pairwise (· < ·) := by
  unfold timetable
  rw [List.pairwise_flatMap]
  constructor
  · intro round _
    rw [List.pairwise_map]
    refine (List.pairwise_lt_range.filter _).imp ?_
    intro number number' hless
    exact Appointment.lt_iff.2 (.inr ⟨rfl, hless⟩)
  · refine List.pairwise_lt_range.imp ?_
    intro round round' hless earlier hearlier later hlater
    obtain ⟨_, _, rfl⟩ := List.mem_map.1 hearlier
    obtain ⟨_, _, rfl⟩ := List.mem_map.1 hlater
    exact Appointment.lt_iff.2 (.inl hless)

end Program

namespace Machine

variable {ρ : Type}

/-! ## Turns that are due -/

/-- How many searches a process has done. -/
def searchesDone (machine : Machine ρ) (number : ProcessId) : Nat :=
  (machine.processes[number]?.map (·.currentSearch)).getD 0

/-- The next turn of a process, whose round is the index of its next search. -/
def appointment (machine : Machine ρ) (number : ProcessId) : Appointment :=
  ⟨machine.searchesDone number, number⟩

theorem eq_appointment_iff {machine : Machine ρ} {number : ProcessId} {due : Appointment} :
    due = machine.appointment number ↔
      due.process = number ∧ due.round = machine.searchesDone number := by
  obtain ⟨round, process⟩ := due
  rw [appointment, Appointment.mk.injEq, and_comm]

/-- The turn that the machine is about to take. -/
def appointment? (machine : Machine ρ) : Option Appointment :=
  machine.ready.head?.map machine.appointment

theorem appointment?_of_ready {machine : Machine ρ} {number : ProcessId}
    {waiting : List ProcessId} (hready : machine.ready = number :: waiting) :
    machine.appointment? = some (machine.appointment number) := by
  unfold appointment?
  rw [hready, List.head?_cons, Option.map_some]

/-- The turn lies ahead of a process in the queue, unless the process fails before. -/
def Due (machine : Machine ρ) (due : Appointment) : Prop :=
  due.process ∈ machine.ready ∧ machine.searchesDone due.process ≤ due.round ∧
    ∃ spec, machine.specs[due.process]? = some spec ∧ due.round < spec.rounds

/-- The process misses the turn because it fails in an earlier one. -/
def Missed [VictimPolicy ρ] (turns : List (Machine ρ)) (missed : Appointment) : Prop :=
  ∃ turn ∈ turns, turn.Fails missed.process ∧ ∃ failed ∈ turn.appointment?, failed < missed

instance [VictimPolicy ρ] (turns : List (Machine ρ)) (missed : Appointment) :
    Decidable (Missed turns missed) :=
  inferInstanceAs (Decidable (∃ turn ∈ turns, _ ∧ ∃ failed ∈ turn.appointment?, failed < missed))

theorem searchesDone_of_found {machine : Machine ρ} {number : ProcessId} {process : UserProcess}
    (hfound : machine.processes[number]? = some process) :
    machine.searchesDone number = process.currentSearch := by
  unfold searchesDone
  rw [hfound, Option.map_some, Option.getD_some]

theorem specs_of_found {machine : Machine ρ} {number : ProcessId} {process : UserProcess}
    (hfound : machine.processes[number]? = some process) :
    machine.specs[number]? = some process.spec := by
  unfold specs
  rw [List.getElem?_map, Array.getElem?_toList, hfound, Option.map_some]

theorem searchesDone_resume_self {machine : Machine ρ} {number : ProcessId}
    (hin : number < machine.processes.size) (session : Session ρ) (process : UserProcess)
    (ready : List ProcessId) :
    (machine.resume session number process ready).searchesDone number = process.currentSearch := by
  rw [searchesDone_of_found (getElem?_resume_self hin session process ready)]

theorem searchesDone_resume_of_ne {number other : ProcessId} (hne : number ≠ other)
    (machine : Machine ρ) (session : Session ρ) (process : UserProcess) (ready : List ProcessId) :
    (machine.resume session number process ready).searchesDone other =
      machine.searchesDone other := by
  unfold searchesDone
  rw [getElem?_resume_of_ne hne]

/-- A process that has at most one key left has no turn ahead but the next one. -/
theorem Due.eq_appointment {machine : Machine ρ} {number : ProcessId} {process : UserProcess}
    {due : Appointment} (h : machine.Due due) (hprocess : due.process = number)
    (hfound : machine.processes[number]? = some process)
    (hlast : process.keys.size ≤ process.currentSearch + 1) :
    due = machine.appointment number := by
  obtain ⟨_, hreached, spec, hspec, hround⟩ := h
  rw [hprocess] at hreached hspec
  cases (specs_of_found hfound).symm.trans hspec
  rw [← searchesDone_of_found hfound] at hlast
  have hrounds : due.round < max 1 process.keys.size := hround
  exact eq_appointment_iff.2 ⟨hprocess, by omega⟩

variable [VictimPolicy ρ] {past : List (Machine ρ)} {machine : Machine ρ} {number : ProcessId}
  {waiting : List ProcessId} {due : Appointment}

/-- Everybody in the queue has a turn ahead. -/
theorem Attended.due_appointment (h : machine.Attended past) (hmem : number ∈ machine.ready) :
    machine.Due (machine.appointment number) := by
  obtain ⟨process, hfound, _, _, _, hmore⟩ := h.of_mem hmem
  refine ⟨hmem, Nat.le_refl _, process.spec, specs_of_found hfound, ?_⟩
  have hsearched := h.searched_le number process hfound
  show machine.searchesDone number < max 1 process.keys.size
  rw [searchesDone_of_found hfound]
  omega

/-- What a turn does to the queue: the process at the front goes to the end with its next turn, or
it goes out, because it fails or because it has no turn after this one. -/
inductive Rotates (machine : Machine ρ) (number : ProcessId) (waiting : List ProcessId) : Prop
  | onward (hqueue : machine.turn.state.ready = waiting ++ [number])
    (hnext : machine.turn.state.appointment number = (machine.appointment number).next)
    (hfine : ¬ machine.Fails number)
  | out (hqueue : machine.turn.state.ready = waiting)
    (hlast : ∀ due, machine.Due due → due.process = number →
      due = machine.appointment number ∨ machine.Fails number)

theorem Turn.rotates (hturn : Turn machine machine.turn)
    (hready : machine.ready = number :: waiting) : machine.Rotates number waiting := by
  generalize hanswered : machine.turn = reply at hturn
  cases hturn with
  | idle hidle => cases hidle.symm.trans hready
  | failed hfront =>
    cases hready.symm.trans hfront
    have hfails := (fails_iff_of_ready hready number).2 ⟨rfl, _, congrArg Reply.outcome hanswered⟩
    refine .out ?_ fun _ _ _ ↦ .inr hfails
    rw [hanswered]
    rfl
  | requeued hfront hfound =>
    cases hready.symm.trans hfront
    refine .onward ?_ ?_ (not_fails_of_ok (congrArg Reply.outcome hanswered) number)
    · rw [hanswered]
      rfl
    · rw [hanswered, appointment, appointment, searchesDone_of_found hfound,
        searchesDone_resume_self (Array.getElem?_eq_some_iff.1 hfound).1]
      rfl
  | ended hfront hfound _ _ hlast =>
    cases hready.symm.trans hfront
    refine .out ?_ fun due hdue hprocess ↦
      .inl (hdue.eq_appointment hprocess hfound (Nat.le_of_eq hlast))
    rw [hanswered]
    rfl
  | keyless hfront hfound hkey =>
    cases hready.symm.trans hfront
    refine .out ?_ fun due hdue hprocess ↦
      .inl (hdue.eq_appointment hprocess hfound (Nat.le_succ_of_le (nextKey?_eq_none_iff.1 hkey)))
    rw [hanswered]
    rfl

/-- A turn moves no appointment but that of the process at the front. -/
theorem Turn.searchesDone_of_ne {reply : Answer (Machine ρ) Bool} {other : ProcessId}
    (h : Turn machine reply) (hready : machine.ready = number :: waiting) (hne : number ≠ other) :
    reply.state.searchesDone other = machine.searchesDone other := by
  cases h with
  | idle => rfl
  | failed hfront | requeued hfront | ended hfront | keyless hfront =>
    cases hready.symm.trans hfront
    exact searchesDone_resume_of_ne hne _ _ _ _

/-- A turn takes from what is due of the process at the front this turn, and if it fails, all other
turns of the process. -/
theorem Attended.due_turn_iff_of_front (h : machine.Attended past)
    (hready : machine.ready = number :: waiting) (hturn : Turn machine machine.turn)
    (hsame : number = due.process) :
    machine.turn.state.Due due ↔
      machine.Due due ∧ due ≠ machine.appointment number ∧ ¬ machine.Fails due.process := by
  cases hturn.rotates hready with
  | onward hqueue hnext hfine =>
    have hlater : machine.turn.state.searchesDone number = machine.searchesDone number + 1 :=
      congrArg Appointment.round hnext
    unfold Due
    rw [hqueue, hturn.specs_eq, Ne, eq_appointment_iff, ← hsame, hlater, hready]
    constructor
    · rintro ⟨_, hreached, hspec⟩
      exact ⟨⟨List.mem_cons_self, by omega, hspec⟩, by omega, hfine⟩
    · rintro ⟨⟨_, hreached, hspec⟩, hother, _⟩
      have hround : due.round ≠ machine.searchesDone number := fun hnow ↦ hother ⟨rfl, hnow⟩
      exact ⟨List.mem_concat_self, by omega, hspec⟩
  | out hqueue hlast =>
    refine iff_of_false ?_ ?_
    · rintro ⟨hmem, _⟩
      rw [hqueue, ← hsame] at hmem
      exact h.front_not_mem hready hmem
    · rintro ⟨hdue, hother, hfine⟩
      rw [← hsame] at hfine
      exact (hlast due hdue hsame.symm).elim hother hfine

/-- A turn leaves what is due of the others. -/
theorem Turn.due_iff_of_ne (hturn : Turn machine machine.turn)
    (hready : machine.ready = number :: waiting) (hne : number ≠ due.process) :
    machine.turn.state.Due due ↔ machine.Due due := by
  have hmem : due.process ∈ machine.turn.state.ready ↔ due.process ∈ machine.ready := by
    rw [hready, List.mem_cons, or_iff_right (Ne.symm hne)]
    cases hturn.rotates hready with
    | onward hqueue =>
      rw [hqueue, List.mem_append, List.mem_singleton, or_iff_left (Ne.symm hne)]
    | out hqueue => rw [hqueue]
  unfold Due
  rw [hmem, hturn.specs_eq, hturn.searchesDone_of_ne hready hne]

/-- A turn takes from what is due the turn of the process at the front, and if that fails, all other
turns of the process. -/
theorem Attended.due_turn_iff (h : machine.Attended past)
    (hready : machine.ready = number :: waiting) (hturn : Turn machine machine.turn) :
    machine.turn.state.Due due ↔
      machine.Due due ∧ due ≠ machine.appointment number ∧ ¬ machine.Fails due.process := by
  by_cases hsame : number = due.process
  · exact h.due_turn_iff_of_front hready hturn hsame
  · have hother : due ≠ machine.appointment number := by
      rintro rfl
      exact hsame rfl
    have hfine : ¬ machine.Fails due.process := fun hfails ↦
      hsame ((fails_iff_of_ready hready _).1 hfails).1
    rw [hturn.due_iff_of_ne hready hsame]
    exact (and_iff_left ⟨hother, hfine⟩).symm

/-! ## Laps -/

/-- The next turns of the processes in the queue are in one lap. -/
def OneLap (machine : Machine ρ) : Prop :=
  machine.ready.Pairwise fun earlier later ↦
    (machine.appointment earlier).SameLap (machine.appointment later)

/-- A turn keeps the queue in one lap. -/
theorem Attended.oneLap_turn (h : machine.Attended past) (hlap : machine.OneLap)
    (hturn : Turn machine machine.turn) : machine.turn.state.OneLap := by
  cases hready : machine.ready with
  | nil =>
    rw [turn_of_idle hready]
    exact hlap
  | cons number waiting =>
    have hnowhere := h.front_not_mem hready
    have hkept {other : ProcessId} (hother : other ∈ waiting) :
        machine.turn.state.appointment other = machine.appointment other := by
      have hne : number ≠ other := fun hsame ↦ hnowhere (hsame ▸ hother)
      rw [appointment, hturn.searchesDone_of_ne hready hne, appointment]
    unfold OneLap at hlap ⊢
    rw [hready, List.pairwise_cons] at hlap
    obtain ⟨hfirst, hwaiting⟩ := hlap
    have hrest : waiting.Pairwise fun earlier later ↦
        (machine.turn.state.appointment earlier).SameLap
          (machine.turn.state.appointment later) := by
      refine hwaiting.imp_of_mem ?_
      intro earlier later hearlier hlater hlap
      rw [hkept hearlier, hkept hlater]
      exact hlap
    cases hturn.rotates hready with
    | onward hqueue hnext =>
      rw [hqueue, List.pairwise_append]
      refine ⟨hrest, List.pairwise_singleton _ _, ?_⟩
      intro earlier hearlier later hlater
      rw [List.mem_singleton.1 hlater, hkept hearlier, hnext]
      exact (hfirst earlier hearlier).next
    | out hqueue =>
      rw [hqueue]
      exact hrest

omit [VictimPolicy ρ] in
/-- The turn of the process at the front is the earliest one that is due. -/
theorem OneLap.lt_of_due (hlap : machine.OneLap) (hready : machine.ready = number :: waiting)
    (hdue : machine.Due due) (hother : due ≠ machine.appointment number) :
    machine.appointment number < due := by
  obtain ⟨hmem, hreached, _⟩ := hdue
  unfold OneLap at hlap
  rw [hready, List.pairwise_cons] at hlap
  rw [hready, List.mem_cons] at hmem
  obtain hfront | hwaits := hmem
  · rw [Ne, eq_appointment_iff, hfront] at hother
    rw [hfront] at hreached
    refine Appointment.lt_iff.2 (.inl (Nat.lt_of_le_of_ne hreached fun hnow ↦ ?_))
    exact hother ⟨rfl, hnow.symm⟩
  · exact Appointment.lt_of_lt_of_round_le (hlap.1 _ hwaits).1 rfl hreached

/-- If the turns that are due stand in a list in their order, the turn of the process at the front
stands first. -/
theorem Attended.exists_rest (h : machine.Attended past) (hlap : machine.OneLap)
    (hready : machine.ready = number :: waiting) {pending : List Appointment}
    (hsorted : pending.Pairwise (· < ·)) (hpending : ∀ due, due ∈ pending ↔ machine.Due due) :
    ∃ rest, pending = machine.appointment number :: rest := by
  have hfront : machine.appointment number ∈ pending :=
    (hpending _).2 (h.due_appointment (hready ▸ List.mem_cons_self))
  cases pending with
  | nil => cases hfront
  | cons head rest =>
    obtain rfl : head = machine.appointment number := by
      by_contra hother
      have hless := hlap.lt_of_due hready ((hpending head).1 List.mem_cons_self) hother
      obtain hsame | hin := List.mem_cons.1 hfront
      · exact hother hsame.symm
      · exact lt_asymm hless ((List.pairwise_cons.1 hsorted).1 _ hin)
    exact ⟨rest, rfl⟩

/-- Behind it stand the turns that will be due next, and those that its process misses if it fails
now. -/
theorem Attended.mem_rest_iff (h : machine.Attended past)
    (hready : machine.ready = number :: waiting) (hturn : Turn machine machine.turn)
    {rest : List Appointment} (hafter : ∀ later ∈ rest, machine.appointment number < later)
    (hpending : ∀ due, due ∈ machine.appointment number :: rest ↔ machine.Due due) :
    (due ∈ rest.filter fun later ↦ ¬ machine.Fails later.process) ↔
      machine.turn.state.Due due := by
  rw [h.due_turn_iff hready hturn, ← hpending, List.mem_filter, decide_eq_true_eq, List.mem_cons]
  constructor
  · rintro ⟨hin, hfine⟩
    exact ⟨.inr hin, (ne_of_lt (hafter due hin)).symm, hfine⟩
  · rintro ⟨hin, hother, hfine⟩
    exact ⟨hin.resolve_left hother, hfine⟩

/-! ## The turns taken -/

theorem turnsTaken_turn (machine : Machine ρ) (calls : List Call) :
    machine.turnsTaken (.turn :: calls) = machine :: machine.turn.state.turnsTaken calls := by
  unfold turnsTaken
  rw [visits, List.flatMap_cons, serve_turn]
  rfl

theorem missed_cons_iff {turns : List (Machine ρ)} (hready : machine.ready = number :: waiting) :
    Missed (machine :: turns) due ↔
      (machine.Fails due.process ∧ machine.appointment number < due) ∨ Missed turns due := by
  unfold Missed
  simp only [List.exists_mem_cons_iff, appointment?_of_ready hready, Option.mem_some_iff,
    exists_eq_left']

/-- One turn takes the first of the turns that are due, and leaves those that its process does not
miss because it has failed. -/
theorem filterMap_appointment?_cons {rest : List Appointment} {turns : List (Machine ρ)}
    {count : Nat} (hready : machine.ready = number :: waiting)
    (hafter : ∀ due ∈ rest, machine.appointment number < due)
    (hturns : turns.filterMap appointment? =
      ((rest.filter fun due ↦ ¬ machine.Fails due.process).filter fun due ↦
        ¬ Missed turns due).take count) :
    (machine :: turns).filterMap appointment? =
      ((machine.appointment number :: rest).filter fun due ↦
        ¬ Missed (machine :: turns) due).take (count + 1) := by
  -- All later turns come after this one, so a failure in them does not concern it.
  have hfirst : ¬ Missed (machine :: turns) (machine.appointment number) := by
    rw [missed_cons_iff hready]
    rintro (⟨_, hself⟩ | ⟨turn, hturn, _, failed, hfailed, hearlier⟩)
    · exact lt_irrefl _ hself
    · have hlater : failed ∈ turns.filterMap appointment? :=
        List.mem_filterMap.2 ⟨turn, hturn, hfailed⟩
      rw [hturns] at hlater
      have hrest := List.mem_of_mem_filter (List.mem_of_mem_filter (List.mem_of_mem_take hlater))
      exact lt_asymm hearlier (hafter failed hrest)
  have hkept : (rest.filter fun due ↦ ¬ Missed (machine :: turns) due) =
      (rest.filter fun due ↦ ¬ machine.Fails due.process).filter fun due ↦
        ¬ Missed turns due := by
    rw [List.filter_filter]
    apply List.filter_congr
    intro due hdue
    rw [← Bool.decide_and, decide_eq_decide, missed_cons_iff hready,
      and_iff_left (hafter due hdue), not_or, and_comm]
  rw [List.filterMap_cons_some (appointment?_of_ready hready), List.filter_cons,
    if_pos (decide_eq_true hfirst), hkept, List.take_succ_cons, hturns]

/-- If the turns that are due stand in a list in their order, the turns taken are the first of them
that nobody misses. -/
theorem Attended.filterMap_appointment? (h : machine.Attended past) (hlap : machine.OneLap)
    {pending : List Appointment} (hsorted : pending.Pairwise (· < ·))
    (hpending : ∀ due, due ∈ pending ↔ machine.Due due) {count : Nat}
    (hendures : machine.Endures (List.replicate count .turn)) :
    (machine.turnsTaken (List.replicate count .turn)).filterMap appointment? =
      (pending.filter fun due ↦
        ¬ Missed (machine.turnsTaken (List.replicate count .turn)) due).take count := by
  -- Every turn takes the first of what is due and leaves a list of the same kind.
  induction count generalizing past machine pending with
  | zero => rfl
  | succ count ih =>
    rw [List.replicate_succ, endures_cons_iff, serve_turn] at hendures
    obtain ⟨hfirst, hrest⟩ := hendures
    have hturn := turn_cases (Outcome.ne_crash_of_map hfirst)
    have hnext := h.turn hturn
    have hnextLap := h.oneLap_turn hlap hturn
    rw [List.replicate_succ, turnsTaken_turn]
    cases hready : machine.ready with
    | nil =>
      have hnobody (due : Appointment) : ¬ machine.Due due := fun hdue ↦ by
        have hmem := hdue.1
        rw [hready] at hmem
        cases hmem
      obtain rfl : pending = [] :=
        List.eq_nil_iff_forall_not_mem.2 fun due hdue ↦ hnobody due ((hpending due).1 hdue)
      have hsame : machine.turn.state = machine := by rw [turn_of_idle hready]
      have hnone : machine.appointment? = none := by
        unfold appointment?
        rw [hready, List.head?_nil, Option.map_none]
      rw [List.filterMap_cons_none hnone]
      refine (ih hnext hnextLap List.Pairwise.nil (fun due ↦ ?_) hrest).trans ?_
      · rw [hsame]
        exact hpending due
      · rw [List.filter_nil, List.take_nil, List.filter_nil, List.take_nil]
    | cons number waiting =>
      obtain ⟨rest, rfl⟩ := h.exists_rest hlap hready hsorted hpending
      obtain ⟨hafter, hrestSorted⟩ := List.pairwise_cons.1 hsorted
      exact filterMap_appointment?_cons hready hafter
        (ih hnext hnextLap (hrestSorted.filter _)
          (fun _ ↦ h.mem_rest_iff hready hturn hafter hpending) hrest)

/-! ## Before the first turn -/

/-- Processes with these workloads have been created, and nobody has had a turn. -/
structure Assembled (specs : List ProcessSpec) (machine : Machine ρ) : Prop where
  attended : machine.Attended []
  specs_eq : machine.specs = specs
  ready_eq : machine.ready = List.range machine.processes.size
  idle : ∀ number, machine.searchesDone number = 0

variable {settings : Settings} {specs : List ProcessSpec}

theorem assembled_create {policy : ρ} (hcreate : create settings policy = .ok machine) :
    machine.Assembled [] := by
  have hattended := attended_create hcreate
  obtain ⟨_, rfl⟩ := create_eq_ok_iff.1 hcreate
  exact ⟨hattended, rfl, rfl, fun _ ↦ rfl⟩

theorem Assembled.spawn (h : machine.Assembled specs) {spec : ProcessSpec} {created : ProcessId}
    (hspawned : (machine.spawn spec.arraySize spec.keys).outcome = .ok created) :
    (machine.spawn spec.arraySize spec.keys).state.Assembled (specs ++ [spec]) := by
  have hspawn := spawn_cases h.attended.pinned_le (by rw [hspawned]; exact Outcome.ok_ne_crash)
  have hattended := h.attended.spawn hspawn
  generalize machine.spawn spec.arraySize spec.keys = reply at hspawn hspawned hattended
  cases hspawn with
  | refused | drained => cases hspawned
  | created =>
    refine ⟨hattended, ?_, ?_, ?_⟩
    · rw [← h.specs_eq]
      simp [Machine.specs, newborn, UserProcess.spec]
    · rw [Array.size_push, List.range_succ, ← h.ready_eq]
    · intro number
      have hidle := h.idle number
      unfold searchesDone at hidle ⊢
      rw [Array.getElem?_push]
      split
      · rfl
      · exact hidle

theorem Assembled.spawnAll (h : machine.Assembled specs) {left : List ProcessSpec}
    (hspawned : (Program.spawnAll machine left).outcome = .ok ()) :
    (Program.spawnAll machine left).state.Assembled (specs ++ left) := by
  induction left generalizing machine specs with
  | nil =>
    rw [List.append_nil]
    exact h
  | cons spec left ih =>
    obtain ⟨created, hfirst, hrest, hstate⟩ := Reply.of_andThen_ok hspawned
    have hall := ih (h.spawn hfirst) hrest
    rw [List.append_assoc] at hall
    unfold Program.spawnAll
    rw [hstate]
    exact hall

/-- Before the first turn everything on the timetable is due. -/
theorem Assembled.due_iff (h : machine.Assembled specs) :
    machine.Due due ↔ due ∈ Program.timetable specs := by
  have hlength : machine.processes.size = specs.length := by
    rw [← h.specs_eq]
    simp [Machine.specs]
  unfold Due
  rw [h.idle, h.specs_eq, h.ready_eq, List.mem_range, hlength, Program.mem_timetable_iff]
  constructor
  · rintro ⟨_, _, hspec⟩
    exact hspec
  · rintro ⟨spec, hspec, hround⟩
    exact ⟨(List.getElem?_eq_some_iff.1 hspec).1, Nat.zero_le _, spec, hspec, hround⟩

theorem Assembled.oneLap (h : machine.Assembled specs) : machine.OneLap := by
  unfold OneLap
  rw [h.ready_eq]
  refine List.pairwise_lt_range.imp ?_
  intro earlier later hless
  rw [appointment, appointment, h.idle, h.idle]
  exact ⟨Appointment.lt_iff.2 (.inr ⟨rfl, hless⟩), Appointment.lt_iff.2 (.inl Nat.zero_lt_one)⟩

/-- Whatever the policy answers, if all processes are created before the first turn, the turns taken
are those of the timetable, in its order, but for the ones that a process misses because it has
failed in an earlier turn.  On the timetable the process with a given number has one turn for each
of its keys, or a single one if it has none, and earlier rounds come first, and in a round smaller
numbers. -/
theorem turns_round_robin {policy : ρ} {count : Nat}
    (hcreate : create settings policy = .ok machine)
    (hspawned : (Program.spawnAll machine specs).outcome = .ok ())
    (hendures : (Program.spawnAll machine specs).state.Endures (List.replicate count .turn)) :
    (Program.timetable specs).Pairwise (fun earlier later ↦ earlier.round < later.round ∨
      earlier.round = later.round ∧ earlier.process < later.process) ∧
    (∀ appointment, appointment ∈ Program.timetable specs ↔
      ∃ spec, specs[appointment.process]? = some spec ∧
        appointment.round < max 1 spec.keys.size) ∧
    let turns := (Program.spawnAll machine specs).state.turnsTaken (List.replicate count .turn)
    turns.filterMap appointment? =
      ((Program.timetable specs).filter fun appointment ↦ ¬ Missed turns appointment).take
        count := by
  have hassembled := (assembled_create hcreate).spawnAll hspawned
  rw [List.nil_append] at hassembled
  have hsorted := Program.pairwise_timetable specs
  refine ⟨hsorted.imp Appointment.lt_iff.1, fun _ ↦ Program.mem_timetable_iff, ?_⟩
  exact hassembled.attended.filterMap_appointment? hassembled.oneLap hsorted
    (fun _ ↦ hassembled.due_iff.symm) hendures

/-- Two processes with searches that touch no page, one between them that fails in its first search,
and one without keys. -/
def shift : List ProcessSpec := [⟨1, #[0, 0, 0]⟩, ⟨8, #[0, 7]⟩, ⟨1, #[0, 0]⟩, ⟨1, #[]⟩]

theorem turns_round_robin_sparse :
    create sparse Aging.mk = .ok vacant ∧ (Program.spawnAll vacant shift).outcome = .ok () ∧
      (Program.spawnAll vacant shift).state.Endures (List.replicate 9 .turn) ∧
      ((Program.spawnAll vacant shift).state.turnsTaken (List.replicate 9 .turn)).filterMap
        appointment? = [⟨0, 0⟩, ⟨0, 1⟩, ⟨0, 2⟩, ⟨0, 3⟩, ⟨1, 0⟩, ⟨1, 2⟩, ⟨2, 0⟩] := by
  have hcreate : create sparse Aging.mk = .ok vacant := rfl
  have hspawned : (Program.spawnAll vacant shift).outcome = .ok () := by decide +kernel
  have hendures : (Program.spawnAll vacant shift).state.Endures (List.replicate 9 .turn) := by
    decide +kernel
  refine ⟨hcreate, hspawned, hendures, ?_⟩
  rw [(turns_round_robin hcreate hspawned hendures).2.2]
  decide +kernel

end Machine

end PagedMemory
