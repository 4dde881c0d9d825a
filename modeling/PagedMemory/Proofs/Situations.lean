import PagedMemory.Proofs.Histories

/-!
# What becomes of a process

A process is created into the queue.  It stays there, once, from one turn to the next, until either
its last search is done and it gives up all its pages, or a turn of it fails.  These are the three
situations that a process can be in, and `Situation.Describes` says what each of them means for its
state, for its place in the queue, and for the turns behind it.

`Machine.Attended` says that every process of a machine is in one of them.  Creation, spawns, also
those that fail, and turns keep it so; in a turn it is only the process at the front that moves.
`Machine.situation_after` adds that nobody is in two situations at once, and that a turn answers
that nobody is ready exactly if by then every process has left or is stranded.
-/

namespace PagedMemory

/-- What can have become of a process. -/
inductive Situation where
  | queued
  | departed
  | stranded
deriving DecidableEq

namespace Situation

variable {process : UserProcess} {occurrences failures : Nat} {situation : Situation}

/-- What a situation means for a process that occurs in the queue and has failed so many times. -/
def Describes (process : UserProcess) (occurrences failures : Nat) : Situation → Prop
  | queued => occurrences = 1 ∧ process.terminated = false ∧ failures = 0 ∧
      (process.currentSearch < process.keys.size ∨ process.keys.size = 0)
  | departed => occurrences = 0 ∧ process.terminated = true ∧
      process.currentSearch = process.keys.size ∧ ∀ page, ¬ process.space.table.Resident page
  | stranded => occurrences = 0 ∧ process.terminated = false ∧ failures = 1 ∧
      process.currentSearch < process.keys.size

/-- The queue and the state of a process tell its situation. -/
theorem Describes.unique {other : Situation} (h : situation.Describes process occurrences failures)
    (hother : other.Describes process occurrences failures) : situation = other := by
  cases situation <;> cases other <;> simp_all [Describes]

/-- A process that occurs in the queue is queued. -/
theorem Describes.queued_of_pos (h : situation.Describes process occurrences failures)
    (hoccurs : 0 < occurrences) : queued.Describes process occurrences failures := by
  cases situation with
  | queued => exact h
  | departed | stranded => exact absurd h.1 (Nat.ne_of_gt hoccurs)

end Situation

namespace Machine

variable {ρ : Type} [VictimPolicy ρ]

/-! ## Counting failed turns -/

section

variable {machine : Machine ρ} {number : ProcessId} {waiting : List ProcessId}

theorem countP_fails_concat (past : List (Machine ρ)) (machine : Machine ρ) (number : ProcessId) :
    (past ++ [machine]).countP (·.Fails number) =
      past.countP (·.Fails number) + if machine.Fails number then 1 else 0 := by
  rw [List.countP_append, List.countP_singleton]
  simp only [decide_eq_true_eq]

/-- A turn adds no failure to those of a process that is not at the front. -/
theorem countP_fails_concat_of_ne (past : List (Machine ρ))
    (hready : machine.ready = number :: waiting) {other : ProcessId} (hne : number ≠ other) :
    (past ++ [machine]).countP (·.Fails other) = past.countP (·.Fails other) := by
  have hfine : ¬ machine.Fails other := fun hfails ↦
    hne ((fails_iff_of_ready hready other).1 hfails).1
  rw [countP_fails_concat, if_neg hfine, Nat.add_zero]

end

/-! ## The invariant -/

/-- Every process of the machine with these turns behind it is in one of the three situations, and
nobody else is in the queue or has failed. -/
structure Attended (past : List (Machine ρ)) (machine : Machine ρ) : Prop where
  pinned_le : machine.memory.settings.essentialPages ≤ machine.memory.settings.tableEntries
  searched_le : ∀ (number : ProcessId) (process : UserProcess),
    machine.processes[number]? = some process → process.currentSearch ≤ process.keys.size
  placed : ∀ (number : ProcessId) (process : UserProcess),
    machine.processes[number]? = some process →
    ∃ situation : Situation, situation.Describes process (machine.ready.count number)
      (past.countP (·.Fails number))
  absent : ∀ number, machine.processes.size ≤ number →
    number ∉ machine.ready ∧ past.countP (·.Fails number) = 0

variable {settings : Settings} {past : List (Machine ρ)} {machine : Machine ρ}
  {number : ProcessId} {waiting : List ProcessId} {process : UserProcess}

theorem attended_create {policy : ρ} (hcreate : create settings policy = .ok machine) :
    machine.Attended [] := by
  obtain ⟨hvalid, rfl⟩ := create_eq_ok_iff.1 hcreate
  exact ⟨hvalid.pinned_le, nofun, nofun, fun _ _ ↦ ⟨List.not_mem_nil, rfl⟩⟩

/-- Everybody in the queue is there, once, with something left to do. -/
theorem Attended.of_mem (h : machine.Attended past) (hmem : number ∈ machine.ready) :
    ∃ process, machine.processes[number]? = some process ∧
      Situation.queued.Describes process (machine.ready.count number)
        (past.countP (·.Fails number)) := by
  have hin : number < machine.processes.size :=
    Nat.lt_of_not_le fun hlate ↦ (h.absent number hlate).1 hmem
  have hfound := Array.getElem?_eq_getElem hin
  obtain ⟨situation, hsituation⟩ := h.placed number _ hfound
  exact ⟨_, hfound, hsituation.queued_of_pos (List.count_pos_iff.2 hmem)⟩

/-- The process at the front is in the queue just there. -/
theorem Attended.front_not_mem (h : machine.Attended past)
    (hready : machine.ready = number :: waiting) : number ∉ waiting := by
  obtain ⟨_, _, honce, _⟩ := h.of_mem (hready ▸ List.mem_cons_self)
  rw [hready, List.count_cons_self] at honce
  exact List.count_eq_zero.1 (Nat.succ.inj honce)

/-- The process at the front has not left, and no turn of it has failed. -/
theorem Attended.front (h : machine.Attended past) (hready : machine.ready = number :: waiting)
    (hfound : machine.processes[number]? = some process) :
    process.terminated = false ∧ past.countP (·.Fails number) = 0 := by
  obtain ⟨front, hfront, _, hstays, hunfailed, _⟩ := h.of_mem (hready ▸ List.mem_cons_self)
  obtain rfl : process = front := Option.some.inj (hfound.symm.trans hfront)
  exact ⟨hstays, hunfailed⟩

/-! ## Spawns -/

omit [VictimPolicy ρ] in
/-- A process that has just been created has done no search. -/
theorem describes_newborn (machine : Machine ρ) (arraySize : Nat) (keys : Array Nat) :
    Situation.queued.Describes (machine.newborn arraySize keys) 1 0 := by
  refine ⟨rfl, rfl, rfl, ?_⟩
  exact (Nat.eq_zero_or_pos keys.size).symm

/-- A spawn puts nobody into another situation. -/
theorem Attended.spawn (h : machine.Attended past) {arraySize : Nat} {keys : Array Nat}
    {reply : Answer (Machine ρ) ProcessId} (hspawn : Spawn machine arraySize keys reply) :
    reply.state.Attended past := by
  cases hspawn with
  | refused | drained => exact ⟨h.pinned_le, h.searched_le, h.placed, h.absent⟩
  | created =>
    refine ⟨h.pinned_le, forall_found_push (Nat.zero_le _) h.searched_le, ?_, ?_⟩
    · refine forall_found_push ?_ ?_
      · obtain ⟨hnowhere, hunfailed⟩ := h.absent _ (Nat.le_refl _)
        rw [hunfailed, List.count_append, List.count_eq_zero.2 hnowhere, List.count_singleton_self]
        exact ⟨.queued, describes_newborn machine arraySize keys⟩
      · intro number process hfound
        have hold := (Array.getElem?_eq_some_iff.1 hfound).1
        rw [List.count_append, List.count_singleton,
          if_neg (by rw [beq_iff_eq]; exact Nat.ne_of_gt hold)]
        exact h.placed number process hfound
    · intro number hlate
      rw [Array.size_push] at hlate
      obtain ⟨hnowhere, hunfailed⟩ := h.absent number (Nat.le_of_succ_le hlate)
      refine ⟨?_, hunfailed⟩
      rw [List.mem_append, List.mem_singleton]
      rintro (hold | rfl)
      · exact hnowhere hold
      · exact Nat.lt_irrefl _ hlate

/-! ## Turns -/

/-- In a turn only the situation of the process at the front changes. -/
theorem Attended.resume (h : machine.Attended past) (situation : Situation)
    (process' : UserProcess) (hready : machine.ready = number :: waiting)
    (hfound : machine.processes[number]? = some process) {session : Session ρ}
    {back : List ProcessId} (hsettings : session.memory.settings = machine.memory.settings)
    (hsearched : process'.currentSearch ≤ process'.keys.size) (hback : back ⊆ [number])
    (hplaced : situation.Describes { process' with space := session.space } (back.count number)
      (if machine.Fails number then 1 else 0)) :
    (machine.resume session number process' (waiting ++ back)).Attended (past ++ [machine]) := by
  have hin := (Array.getElem?_eq_some_iff.1 hfound).1
  have hnowhere := h.front_not_mem hready
  have hunfailed := (h.front hready hfound).2
  have hsize : (machine.resume session number process' (waiting ++ back)).processes.size =
      machine.processes.size := Array.size_setIfInBounds
  have hqueue : (machine.resume session number process' (waiting ++ back)).ready =
      waiting ++ back := rfl
  refine ⟨?_, forall_found_resume hsearched fun other later _ ↦ h.searched_le other later, ?_, ?_⟩
  · rw [show (machine.resume session number process' _).memory.settings = _ from hsettings]
    exact h.pinned_le
  · rw [hqueue]
    refine forall_found_resume ?_ ?_
    · rw [countP_fails_concat, hunfailed, List.count_append, List.count_eq_zero.2 hnowhere,
        Nat.zero_add, Nat.zero_add]
      exact ⟨situation, hplaced⟩
    -- The counts of the others, in the queue and of failures, are what they were.
    · intro other later hsame hlater
      obtain ⟨same, hdescribes⟩ := h.placed other later hlater
      have hnotback : other ∉ back := fun hmem ↦ hsame (List.mem_singleton.1 (hback hmem)).symm
      rw [hready, List.count_cons_of_ne hsame] at hdescribes
      rw [countP_fails_concat_of_ne past hready hsame, List.count_append,
        List.count_eq_zero.2 hnotback]
      exact ⟨same, hdescribes⟩
  · intro other hlate
    rw [hsize] at hlate
    have hsame : number ≠ other := fun hsame ↦ Nat.not_lt_of_le hlate (hsame ▸ hin)
    obtain ⟨habsent, hnever⟩ := h.absent other hlate
    rw [hready, List.mem_cons, not_or] at habsent
    rw [countP_fails_concat_of_ne past hready hsame, hqueue, List.mem_append, not_or]
    exact ⟨⟨habsent.2, fun hmem ↦ hsame (List.mem_singleton.1 (hback hmem)).symm⟩, hnever⟩

/-- A turn after which the process at the front is not in the queue any more. -/
theorem Attended.dequeue (h : machine.Attended past) (situation : Situation)
    (process' : UserProcess) (hready : machine.ready = number :: waiting)
    (hfound : machine.processes[number]? = some process) {session : Session ρ}
    (hsettings : session.memory.settings = machine.memory.settings)
    (hsearched : process'.currentSearch ≤ process'.keys.size)
    (hplaced : situation.Describes { process' with space := session.space } 0
      (if machine.Fails number then 1 else 0)) :
    (machine.resume session number process' waiting).Attended (past ++ [machine]) := by
  have hresumed := h.resume situation process' hready hfound hsettings hsearched
    (List.nil_subset _) hplaced
  rw [List.append_nil] at hresumed
  exact hresumed

/-- A turn that finds nobody ready leaves everybody where they are. -/
theorem Attended.idle (h : machine.Attended past)
    (hnobody : ∀ number, ¬ machine.Fails number) : machine.Attended (past ++ [machine]) := by
  refine ⟨h.pinned_le, h.searched_le, ?_, ?_⟩
  · intro number process hfound
    rw [countP_fails_concat, if_neg (hnobody number)]
    exact h.placed number process hfound
  · intro number hlate
    rw [countP_fails_concat, if_neg (hnobody number)]
    exact h.absent number hlate

/-- A turn leads every process from one situation into another, or leaves it there. -/
theorem Attended.turn (h : machine.Attended past) (hturn : Turn machine machine.turn) :
    machine.turn.state.Attended (past ++ [machine]) := by
  have hsettings := hturn.settings_eq
  generalize hanswered : machine.turn = reply at hturn hsettings
  have hgone (session : Session ρ) : ∀ page, ¬ session.released.space.table.Resident page :=
    PageTable.not_resident_vacated session.space.table
  cases hturn with
  | idle hready => exact h.idle (not_fails_of_ok (congrArg Reply.outcome hanswered))
  | @failed number _ process _ _ _ _ hready hfound hkey hsearch =>
    have hstays := (h.front hready hfound).1
    have hfails := (fails_iff_of_ready hready number).2 ⟨rfl, _, congrArg Reply.outcome hanswered⟩
    apply h.dequeue .stranded process hready hfound hsettings (h.searched_le _ _ hfound)
    rw [if_pos hfails]
    exact ⟨rfl, hstays, rfl, (Array.getElem?_eq_some_iff.1 hkey).1⟩
  | @requeued number _ process _ _ _ hready hfound hkey hsearch hmore =>
    have hstays := (h.front hready hfound).1
    have hfine := not_fails_of_ok (congrArg Reply.outcome hanswered) number
    apply h.resume .queued { process with currentSearch := process.currentSearch + 1 } hready hfound
      hsettings (Nat.le_of_lt hmore) (List.Subset.refl _)
    rw [if_neg hfine]
    exact ⟨List.count_singleton_self, hstays, rfl, .inl hmore⟩
  | @ended _ _ process _ session _ hready hfound hkey hsearch hlast =>
    exact h.dequeue .departed
      { process with currentSearch := process.currentSearch + 1, terminated := true } hready hfound
      hsettings (Nat.le_of_eq hlast.symm) ⟨rfl, rfl, hlast.symm, hgone session⟩
  | @keyless number _ process hready hfound hkey =>
    have hsearched := h.searched_le number process hfound
    have hall := Nat.le_antisymm hsearched (nextKey?_eq_none_iff.1 hkey)
    exact h.dequeue .departed { process with terminated := true } hready hfound hsettings hsearched
      ⟨rfl, rfl, hall, hgone (machine.session process)⟩

theorem attended_recorded : Recorded fun past (later : Machine ρ) ↦ later.Attended past where
  pinned_le := fun _ _ hlater ↦ hlater.pinned_le
  spawn := fun _ _ _ _ _ hlater hspawn ↦ hlater.spawn hspawn
  turn := fun _ _ hlater hturn ↦ hlater.turn hturn

/-- Nobody is ready exactly if everybody has left or is stranded. -/
theorem Attended.ready_eq_nil_iff (h : machine.Attended past) :
    machine.ready = [] ↔ ∀ (number : ProcessId) (process : UserProcess),
      machine.processes[number]? = some process → ∃ situation : Situation,
        situation ≠ .queued ∧ situation.Describes process (machine.ready.count number)
          (past.countP (·.Fails number)) := by
  constructor
  · intro hready number process hfound
    obtain ⟨situation, hsituation⟩ := h.placed number process hfound
    refine ⟨situation, ?_, hsituation⟩
    rintro rfl
    have honce := hsituation.1
    rw [hready] at honce
    cases honce
  · intro hall
    rw [List.eq_nil_iff_forall_not_mem]
    intro number hmem
    obtain ⟨process, hfound, hqueued⟩ := h.of_mem hmem
    obtain ⟨situation, hother, hsituation⟩ := hall number process hfound
    exact hother (hsituation.unique hqueued)

/-- Whatever is asked of a machine, and whatever its policy answers, every process is in exactly one
of the three situations, and a turn that does not fail answers that nobody is ready exactly if after
it every process has left or is stranded. -/
theorem situation_after {policy : ρ} {calls : List Call}
    (hcreate : create settings policy = .ok machine) (hendures : machine.Endures calls) :
    (∀ (number : ProcessId) (process : UserProcess),
      (machine.after calls).processes[number]? = some process →
      ∃! situation : Situation, situation.Describes process
        ((machine.after calls).ready.count number)
        ((machine.turnsTaken calls).countP (·.Fails number))) ∧
    ∀ (earlier later : List (Machine ρ)) (before : Machine ρ) (more : Bool),
      machine.turnsTaken calls = earlier ++ before :: later → before.turn.outcome = .ok more →
      (more = false ↔ ∀ (number : ProcessId) (process : UserProcess),
        before.turn.state.processes[number]? = some process → ∃ situation : Situation,
          (situation = .departed ∨ situation = .stranded) ∧
          situation.Describes process (before.turn.state.ready.count number)
            ((earlier ++ [before]).countP (·.Fails number))) := by
  constructor
  · intro number process hfound
    have hattended := attended_recorded.after (attended_create hcreate) hendures
    obtain ⟨situation, hsituation⟩ := hattended.placed number process hfound
    exact ⟨situation, hsituation, fun other hother ↦ hother.unique hsituation⟩
  · intro earlier later before more hsplit hanswer
    obtain ⟨hbefore, hturn⟩ :=
      attended_recorded.turnsTaken (attended_create hcreate) hendures hsplit
    have hgone (situation : Situation) :
        situation = .departed ∨ situation = .stranded ↔ situation ≠ .queued := by
      cases situation <;> simp
    simp only [hgone]
    rw [hturn.more_eq_false_iff hanswer]
    exact (hbefore.turn hturn).ready_eq_nil_iff

/-- Five frames, of which one is kept in reserve. -/
def sparse : Settings where
  pageSize := 4
  userFrames := 5
  tableEntries := 9
  essentialPages := 1
  reserve := 1
  fallback := .mostRecent

/-- The machine with these settings, before any call. -/
def vacant : Machine Aging where
  memory := { settings := sparse, free := .full 5 .mostRecent, policy := .mk }

/-- The first process has one more search to do after its turn, the second fails in its turn, and
the third has no key. -/
def medley : List Call := [.spawn 8 #[0, 7], .spawn 8 #[3], .spawn 8 #[], .turn, .turn, .turn]

theorem situation_after_sparse :
    create sparse Aging.mk = .ok vacant ∧ vacant.Endures medley ∧
      (∀ (number : ProcessId) (process : UserProcess),
        (vacant.after medley).processes[number]? = some process →
        ∃! situation : Situation, situation.Describes process
          ((vacant.after medley).ready.count number)
          ((vacant.turnsTaken medley).countP (·.Fails number))) ∧
      (vacant.after medley).ready = [0] ∧
      (∀ number < 3, ((vacant.turnsTaken medley).countP (·.Fails number) = 1 ↔ number = 1)) ∧
      ∃ earlier before, vacant.turnsTaken medley = earlier ++ [before] ∧
        before.turn.outcome = .ok true ∧
        ¬ ∀ (number : ProcessId) (process : UserProcess),
          before.turn.state.processes[number]? = some process → ∃ situation : Situation,
            (situation = .departed ∨ situation = .stranded) ∧
            situation.Describes process (before.turn.state.ready.count number)
              ((earlier ++ [before]).countP (·.Fails number)) := by
  have hcreate : create sparse Aging.mk = .ok vacant := rfl
  have hendures : vacant.Endures medley := by decide +kernel
  obtain ⟨hsituation, hanswer⟩ := situation_after hcreate hendures
  refine ⟨hcreate, hendures, hsituation, by decide +kernel, by decide +kernel, ?_⟩
  have hlast : (vacant.turnsTaken medley).getLast?.map (·.turn.outcome) = some (.ok true) := by
    decide +kernel
  obtain ⟨before, hbefore, houtcome⟩ := Option.map_eq_some_iff.1 hlast
  obtain ⟨earlier, hsplit⟩ := List.getLast?_eq_some_iff.1 hbefore
  refine ⟨earlier, before, hsplit, houtcome, fun hgone ↦ ?_⟩
  exact Bool.noConfusion ((hanswer earlier [] before true hsplit houtcome).2 hgone)

end Machine

end PagedMemory
