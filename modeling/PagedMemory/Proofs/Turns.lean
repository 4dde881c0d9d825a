import PagedMemory.Machine.Run
import PagedMemory.Proofs.Loading
import PagedMemory.Proofs.Searching

/-!
# How a spawn and a turn go

`Machine.Spawn` and `Machine.Turn` list the ways in which a spawn and a turn can go without a crash,
each with its condition and its whole reply, as `Session.Touch` does for a reference.  A turn finds
nobody ready, or takes the front of the queue: its search fails and the process stays out of the
queue, or it goes to the end of the queue, or it leaves with all its frames, after its last search
or because it never had a key.

A run is a sequence of turns, and `Machine.takeTurns_preserves` carries to it what a turn preserves.
-/

namespace PagedMemory

namespace Machine

variable {ρ : Type}

/-- The session in which a process works. -/
def session (machine : Machine ρ) (process : UserProcess) : Session ρ :=
  ⟨machine.memory, process.space⟩

/-- Takes over a session and what became of its process, and queues the given processes. -/
def resume (machine : Machine ρ) (session : Session ρ) (number : ProcessId) (process : UserProcess)
    (ready : List ProcessId) : Machine ρ where
  memory := session.memory
  processes := machine.processes.setIfInBounds number { process with space := session.space }
  ready := ready

theorem getElem?_resume_self {machine : Machine ρ} {number : ProcessId}
    (hin : number < machine.processes.size) (session : Session ρ) (process : UserProcess)
    (ready : List ProcessId) :
    (machine.resume session number process ready).processes[number]? =
      some { process with space := session.space } := by
  simp only [resume, Array.getElem?_setIfInBounds, if_true, hin]

theorem getElem?_resume_of_ne {number other : ProcessId} (hne : number ≠ other)
    (machine : Machine ρ) (session : Session ρ) (process : UserProcess) (ready : List ProcessId) :
    (machine.resume session number process ready).processes[other]? =
      machine.processes[other]? := by
  simp only [resume, Array.getElem?_setIfInBounds, hne, if_false]

/-- What holds of the process that comes back, and of all others, holds of every process. -/
theorem forall_found_resume {machine : Machine ρ} {session : Session ρ} {number : ProcessId}
    {process : UserProcess} {ready : List ProcessId} {holds : ProcessId → UserProcess → Prop}
    (hself : holds number { process with space := session.space })
    (hothers : ∀ other later, number ≠ other → machine.processes[other]? = some later →
      holds other later) :
    ∀ other later, (machine.resume session number process ready).processes[other]? = some later →
      holds other later := by
  intro other later hlater
  by_cases hsame : number = other
  · subst hsame
    have hin := (Array.getElem?_eq_some_iff.1 hlater).1
    rw [resume, Array.size_setIfInBounds] at hin
    rw [getElem?_resume_self hin] at hlater
    cases hlater
    exact hself
  · rw [getElem?_resume_of_ne hsame] at hlater
    exact hothers other later hsame hlater

/-! ## Spawning -/

/-- The process that a spawn creates. -/
def newborn (machine : Machine ρ) (arraySize : Nat) (keys : Array Nat) : UserProcess where
  space :=
    { process := machine.processes.size
      table := (PageTable.blank machine.memory.settings.tableEntries).mapFrom 0
        (machine.memory.free.stack.take machine.memory.settings.essentialPages) }
  arraySize := arraySize
  keys := keys

/-- A process that has just been created has its pinned pages and no others. -/
theorem resident_newborn_iff {machine : Machine ρ} {arraySize : Nat} {keys : Array Nat}
    (hpinned : machine.memory.settings.essentialPages ≤ machine.memory.settings.tableEntries)
    (hplenty : machine.memory.settings.essentialPages ≤ machine.memory.free.size) {page : Nat} :
    (machine.newborn arraySize keys).space.table.Resident page ↔
      page < machine.memory.settings.essentialPages := by
  have hlength : (machine.memory.free.stack.take machine.memory.settings.essentialPages).length =
      machine.memory.settings.essentialPages := by
    rw [List.length_take_of_le]
    simpa [FreeList.stack] using hplenty
  unfold newborn
  rw [PageTable.resident_mapFrom_iff (by rw [PageTable.size_blank]; omega), hlength]
  have hblank := PageTable.not_resident_blank machine.memory.settings.tableEntries page
  constructor
  · rintro (⟨_, hlt⟩ | hresident)
    · omega
    · exact absurd hresident hblank
  · exact fun hlt ↦ .inl ⟨Nat.zero_le _, by omega⟩

theorem getElem?_push_of_found {processes : Array UserProcess} {number : ProcessId}
    {process : UserProcess} (hfound : processes[number]? = some process) (created : UserProcess) :
    (processes.push created)[number]? = some process := by
  rw [Array.getElem?_push, if_neg (Nat.ne_of_lt (Array.getElem?_eq_some_iff.1 hfound).1)]
  exact hfound

/-- What is true of a process that has just been created and of all others is true of all. -/
theorem forall_found_push {processes : Array UserProcess} {created : UserProcess}
    {holds : ProcessId → UserProcess → Prop} (hcreated : holds processes.size created)
    (hothers : ∀ other later, processes[other]? = some later → holds other later) :
    ∀ other later, (processes.push created)[other]? = some later → holds other later := by
  intro other later hlater
  rw [Array.getElem?_push] at hlater
  split at hlater
  case isTrue hlast =>
    cases hlater
    rw [hlast]
    exact hcreated
  case isFalse => exact hothers other later hlater

/-- The ways in which a spawn can go, with the replies that they give. -/
inductive Spawn (machine : Machine ρ) (arraySize : Nat) (keys : Array Nat) :
    Answer (Machine ρ) ProcessId → Prop
  | refused (hlarge : Memory.arrayFits? machine.memory.settings arraySize = some false) :
    Spawn machine arraySize keys
      ⟨.error (.addressSpaceOverflow machine.processes.size arraySize
        machine.memory.settings.tableEntries), machine, []⟩
  | drained (hfits : Memory.arrayFits? machine.memory.settings arraySize = some true)
    (hscarce : machine.memory.free.size < machine.memory.settings.essentialPages) :
    Spawn machine arraySize keys
      ⟨.error (.outOfFrames machine.processes.size),
        { machine with memory := { machine.memory with
            free := machine.memory.free.dropLast machine.memory.settings.essentialPages } }, []⟩
  | created (hfits : Memory.arrayFits? machine.memory.settings arraySize = some true)
    (hplenty : machine.memory.settings.essentialPages ≤ machine.memory.free.size) :
    Spawn machine arraySize keys
      ⟨.ok machine.processes.size,
        { memory := { machine.memory with
            free := machine.memory.free.dropLast machine.memory.settings.essentialPages }
          processes := machine.processes.push (machine.newborn arraySize keys)
          ready := machine.ready ++ [machine.processes.size] }, []⟩

section

variable {machine : Machine ρ} {arraySize : Nat} {keys : Array Nat}
  {reply : Answer (Machine ρ) ProcessId}

/-! A spawn goes in one way only. -/

theorem Spawn.eq_of_large (h : Spawn machine arraySize keys reply)
    (hlarge : Memory.arrayFits? machine.memory.settings arraySize = some false) :
    reply = ⟨.error (.addressSpaceOverflow machine.processes.size arraySize
      machine.memory.settings.tableEntries), machine, []⟩ := by
  cases h with
  | refused => rfl
  | drained hfits | created hfits => cases hlarge.symm.trans hfits

theorem Spawn.eq_of_scarce (h : Spawn machine arraySize keys reply)
    (hfits : Memory.arrayFits? machine.memory.settings arraySize = some true)
    (hscarce : machine.memory.free.size < machine.memory.settings.essentialPages) :
    reply = ⟨.error (.outOfFrames machine.processes.size),
      { machine with memory := { machine.memory with
          free := machine.memory.free.dropLast machine.memory.settings.essentialPages } }, []⟩ := by
  cases h with
  | refused hlarge => cases hfits.symm.trans hlarge
  | drained => rfl
  | created _ hplenty => exact absurd hscarce (Nat.not_lt_of_le hplenty)

theorem Spawn.eq_of_plenty (h : Spawn machine arraySize keys reply)
    (hfits : Memory.arrayFits? machine.memory.settings arraySize = some true)
    (hplenty : machine.memory.settings.essentialPages ≤ machine.memory.free.size) :
    reply = ⟨.ok machine.processes.size,
      { memory := { machine.memory with
          free := machine.memory.free.dropLast machine.memory.settings.essentialPages }
        processes := machine.processes.push (machine.newborn arraySize keys)
        ready := machine.ready ++ [machine.processes.size] }, []⟩ := by
  cases h with
  | refused hlarge => cases hfits.symm.trans hlarge
  | drained _ hscarce => exact absurd hscarce (Nat.not_lt_of_le hplenty)
  | created => rfl

end

/-- What creating a process does when there is room for its table. -/
theorem createProcess_eq {memory : Memory ρ} {process : ProcessId} {arraySize : Nat}
    {keys : Array Nat} (hfits : Memory.arrayFits? memory.settings arraySize = some true)
    (hroom : memory.settings.tableEntries < PageTable.sizeLimit)
    (hpinned : memory.settings.essentialPages ≤ memory.settings.tableEntries) :
    memory.createProcess process arraySize keys =
      ⟨if memory.settings.essentialPages ≤ memory.free.size then
          .ok { space :=
                  { process := process
                    table := (PageTable.blank memory.settings.tableEntries).mapFrom 0
                      (memory.free.stack.take memory.settings.essentialPages) }
                arraySize := arraySize, keys := keys }
          else .error (.outOfFrames process),
        { memory with free := memory.free.dropLast memory.settings.essentialPages }, []⟩ := by
  have hblank : PageTable.blank? memory.settings.tableEntries =
      some (.blank memory.settings.tableEntries) := by
    unfold PageTable.blank?
    rw [if_neg (Nat.not_le_of_lt hroom)]
  have hloaded := Session.loadPages_eq
    (⟨memory, { process := process, table := .blank memory.settings.tableEntries }⟩ : Session ρ)
    0 (show 0 + memory.settings.essentialPages ≤ _ by rw [PageTable.size_blank]; omega)
  unfold Memory.createProcess Session.loadEssential
  simp only [hfits, hblank, hloaded]
  by_cases hplenty : memory.settings.essentialPages ≤ memory.free.size
  · simp only [hplenty, if_true, Outcome.map]
  · simp only [hplenty, if_false, Outcome.map]

/-- A spawn with an array that fits and with frames enough creates a process. -/
theorem spawn_of_plenty {machine : Machine ρ} {arraySize : Nat} {keys : Array Nat}
    (hfits : Memory.arrayFits? machine.memory.settings arraySize = some true)
    (hroom : machine.memory.settings.tableEntries < PageTable.sizeLimit)
    (hpinned : machine.memory.settings.essentialPages ≤ machine.memory.settings.tableEntries)
    (hplenty : machine.memory.settings.essentialPages ≤ machine.memory.free.size) :
    machine.spawn arraySize keys =
      ⟨.ok machine.processes.size,
        { memory := { machine.memory with
            free := machine.memory.free.dropLast machine.memory.settings.essentialPages }
          processes := machine.processes.push (machine.newborn arraySize keys)
          ready := machine.ready ++ [machine.processes.size] }, []⟩ := by
  unfold spawn
  simp only [createProcess_eq hfits hroom hpinned, Reply.mapState, Reply.andThen, Reply.ok, hplenty,
    if_true, List.append_nil]
  rfl

/-- Creating a process is refused, runs out of frames or succeeds, unless it crashes. -/
theorem createProcess_cases {memory : Memory ρ} {process : ProcessId} {arraySize : Nat}
    {keys : Array Nat} (hpinned : memory.settings.essentialPages ≤ memory.settings.tableEntries)
    (hrunning : (memory.createProcess process arraySize keys).outcome ≠ .crash) :
    Memory.arrayFits? memory.settings arraySize = some false ∧
        memory.createProcess process arraySize keys =
          .error (.addressSpaceOverflow process arraySize memory.settings.tableEntries) memory ∨
      Memory.arrayFits? memory.settings arraySize = some true ∧
        memory.free.size < memory.settings.essentialPages ∧
        memory.createProcess process arraySize keys =
          .error (.outOfFrames process)
            { memory with free := memory.free.dropLast memory.settings.essentialPages } ∨
      Memory.arrayFits? memory.settings arraySize = some true ∧
        memory.settings.essentialPages ≤ memory.free.size ∧
        memory.createProcess process arraySize keys =
          .ok { space :=
                  { process := process
                    table := (PageTable.blank memory.settings.tableEntries).mapFrom 0
                      (memory.free.stack.take memory.settings.essentialPages) }
                arraySize := arraySize, keys := keys }
            { memory with free := memory.free.dropLast memory.settings.essentialPages } := by
  cases hfits : Memory.arrayFits? memory.settings arraySize with
  | none =>
    refine absurd ?_ hrunning
    simp only [Memory.createProcess, hfits, Reply.crash]
  | some fits =>
    cases fits with
    | false => exact .inl ⟨rfl, by simp only [Memory.createProcess, hfits]⟩
    | true =>
      by_cases hroom : memory.settings.tableEntries < PageTable.sizeLimit
      · rw [createProcess_eq hfits hroom hpinned]
        by_cases hplenty : memory.settings.essentialPages ≤ memory.free.size
        · exact .inr (.inr ⟨rfl, hplenty, by rw [if_pos hplenty]; rfl⟩)
        · exact .inr (.inl ⟨rfl, Nat.lt_of_not_le hplenty, by rw [if_neg hplenty]; rfl⟩)
      · refine absurd ?_ hrunning
        simp only [Memory.createProcess, hfits, PageTable.blank?, Nat.le_of_not_lt hroom, if_true,
          Reply.crash]

/-- A spawn that does not crash goes in one of the three ways. -/
theorem spawn_cases {machine : Machine ρ} {arraySize : Nat} {keys : Array Nat}
    (hpinned : machine.memory.settings.essentialPages ≤ machine.memory.settings.tableEntries)
    (hrunning : (machine.spawn arraySize keys).outcome ≠ .crash) :
    Spawn machine arraySize keys (machine.spawn arraySize keys) := by
  unfold spawn at hrunning ⊢
  have hcreates := Reply.ne_crash_of_andThen hrunning
  simp only [Reply.mapState] at hcreates
  obtain ⟨hlarge, hcreated⟩ | ⟨hfits, hscarce, hcreated⟩ | ⟨hfits, hplenty, hcreated⟩ :=
    createProcess_cases hpinned hcreates
  · simp only [hcreated]
    exact .refused hlarge
  · simp only [hcreated]
    exact .drained hfits hscarce
  · simp only [hcreated]
    exact .created hfits hplenty

theorem Spawn.settings_eq {machine : Machine ρ} {arraySize : Nat} {keys : Array Nat}
    {reply : Answer (Machine ρ) ProcessId} (h : Spawn machine arraySize keys reply) :
    reply.state.memory.settings = machine.memory.settings := by
  cases h <;> rfl

/-! ## Taking a turn -/

variable [VictimPolicy ρ]

/-- The ways in which a turn can go, with the replies that they give. -/
inductive Turn (machine : Machine ρ) : Answer (Machine ρ) Bool → Prop
  | idle (hready : machine.ready = []) : Turn machine ⟨.ok false, machine, []⟩
  | failed {number : ProcessId} {waiting : List ProcessId} {process : UserProcess} {key : Nat}
    {reason : PagingError} {session : Session ρ} {events : List Event}
    (hready : machine.ready = number :: waiting)
    (hfound : machine.processes[number]? = some process) (hkey : process.nextKey? = some key)
    (hsearch : (machine.session process).search process.arraySize key =
      ⟨.error reason, session, events⟩) :
    Turn machine
      ⟨.error reason, machine.resume session number process waiting,
        .searchStarted number (process.currentSearch + 1) :: events⟩
  | requeued {number : ProcessId} {waiting : List ProcessId} {process : UserProcess} {key : Nat}
    {session : Session ρ} {events : List Event} (hready : machine.ready = number :: waiting)
    (hfound : machine.processes[number]? = some process) (hkey : process.nextKey? = some key)
    (hsearch : (machine.session process).search process.arraySize key = ⟨.ok (), session, events⟩)
    (hmore : process.currentSearch + 1 < process.keys.size) :
    Turn machine
      ⟨.ok true,
        machine.resume session number
          { process with currentSearch := process.currentSearch + 1 } (waiting ++ [number]),
        .searchStarted number (process.currentSearch + 1) :: events⟩
  | ended {number : ProcessId} {waiting : List ProcessId} {process : UserProcess} {key : Nat}
    {session : Session ρ} {events : List Event} (hready : machine.ready = number :: waiting)
    (hfound : machine.processes[number]? = some process) (hkey : process.nextKey? = some key)
    (hsearch : (machine.session process).search process.arraySize key = ⟨.ok (), session, events⟩)
    (hlast : process.keys.size = process.currentSearch + 1) :
    Turn machine
      ⟨.ok !waiting.isEmpty,
        machine.resume session.released number
          { process with currentSearch := process.currentSearch + 1, terminated := true } waiting,
        .searchStarted number (process.currentSearch + 1) :: events ++
          [.framesReleased session.space.process session.released.memory.free.size,
            .processTerminated number process.keys.size]⟩
  | keyless {number : ProcessId} {waiting : List ProcessId} {process : UserProcess}
    (hready : machine.ready = number :: waiting)
    (hfound : machine.processes[number]? = some process) (hkey : process.nextKey? = none) :
    Turn machine
      ⟨.ok !waiting.isEmpty,
        machine.resume (machine.session process).released number
          { process with terminated := true } waiting,
        [.framesReleased process.space.process
            (machine.session process).released.memory.free.size,
          .processTerminated number process.keys.size]⟩

omit [VictimPolicy ρ] in
theorem conclude_unfinished (machine : Machine ρ) (number : ProcessId) {process : UserProcess}
    (hmore : process.currentSearch < process.keys.size) :
    machine.conclude number process =
      ⟨.ok (), { machine with ready := machine.ready ++ [number] }, []⟩ := by
  have hunfinished : process.finished = false := by
    simpa [UserProcess.finished] using hmore
  unfold conclude
  simp only [hunfinished, Bool.false_eq_true, if_false]
  rfl

omit [VictimPolicy ρ] in
theorem conclude_finished (machine : Machine ρ) (number : ProcessId) {process : UserProcess}
    (hdone : process.keys.size ≤ process.currentSearch) :
    machine.conclude number process =
      ⟨.ok (),
        machine.resume (machine.session process).released number { process with terminated := true }
          machine.ready,
        [.framesReleased process.space.process
            (machine.session process).released.memory.free.size,
          .processTerminated number process.keys.size]⟩ := by
  have hfinished : process.finished = true := by
    simpa [UserProcess.finished] using hdone
  unfold conclude
  simp only [hfinished, if_true, Session.release_eq]
  rfl

section

variable {machine : Machine ρ} {number : ProcessId} {process : UserProcess} {key : Nat}
  {session : Session ρ} {events : List Event}

theorem searchNext_of_ok (hkey : process.nextKey? = some key)
    (hsearch : (machine.session process).search process.arraySize key = ⟨.ok (), session, events⟩) :
    machine.searchNext number process =
      let advanced := { process with
        space := session.space, currentSearch := process.currentSearch + 1 }
      ⟨.ok advanced, machine.adopt session.memory number advanced,
        .searchStarted number (process.currentSearch + 1) :: events⟩ := by
  unfold Machine.session at hsearch
  unfold searchNext
  simp only [hkey, hsearch]
  rfl

theorem searchNext_of_error {reason : PagingError} (hkey : process.nextKey? = some key)
    (hsearch : (machine.session process).search process.arraySize key =
      ⟨.error reason, session, events⟩) :
    machine.searchNext number process =
      ⟨.error reason,
        machine.adopt session.memory number { process with space := session.space },
        .searchStarted number (process.currentSearch + 1) :: events⟩ := by
  unfold Machine.session at hsearch
  unfold searchNext
  simp only [hkey, hsearch]
  rfl

theorem searchNext_of_crash (hkey : process.nextKey? = some key)
    (hsearch : (machine.session process).search process.arraySize key = ⟨.crash, session, events⟩) :
    (machine.searchNext number process).outcome = .crash := by
  unfold Machine.session at hsearch
  unfold searchNext
  simp only [hkey, hsearch]
  rfl

variable {waiting : List ProcessId}

omit [VictimPolicy ρ] in
theorem nextKey?_eq_none_iff :
    process.nextKey? = none ↔ process.keys.size ≤ process.currentSearch := by
  simp [UserProcess.nextKey?]

omit [VictimPolicy ρ] in
/-- A process that has a key, and none after it, is about to do its last search. -/
theorem last_of_nextKey? (hkey : process.nextKey? = some key)
    (hlast : process.keys.size ≤ process.currentSearch + 1) :
    process.keys.size = process.currentSearch + 1 :=
  Nat.le_antisymm hlast (Array.getElem?_eq_some_iff.1 hkey).1

/-- A turn in which nobody is ready changes nothing. -/
theorem turn_of_idle (hready : machine.ready = []) : machine.turn = ⟨.ok false, machine, []⟩ := by
  unfold turn
  simp only [hready]
  rfl

/-- A turn whose search fails ends there. -/
theorem turn_of_error {reason : PagingError} (hready : machine.ready = number :: waiting)
    (hfound : machine.processes[number]? = some process) (hkey : process.nextKey? = some key)
    (hsearch : (machine.session process).search process.arraySize key =
      ⟨.error reason, session, events⟩) :
    machine.turn =
      ⟨.error reason, machine.resume session number process waiting,
        .searchStarted number (process.currentSearch + 1) :: events⟩ := by
  have hfailed : searchNext { machine with ready := waiting } number process = _ :=
    searchNext_of_error hkey hsearch
  unfold turn
  simp only [hready, hfound, hfailed]
  rfl

theorem turn_of_crash (hready : machine.ready = number :: waiting)
    (hfound : machine.processes[number]? = some process) (hkey : process.nextKey? = some key)
    (hsearch : ((machine.session process).search process.arraySize key).outcome = .crash) :
    machine.turn.outcome = .crash := by
  rcases hreply : (machine.session process).search process.arraySize key with ⟨outcome, _, _⟩
  rw [hreply] at hsearch
  subst hsearch
  have hcrash : (searchNext { machine with ready := waiting } number process).outcome = .crash :=
    searchNext_of_crash hkey hreply
  unfold turn
  simp only [hready, hfound, Reply.andThen, hcrash]

/-- A process that has keys left after its search goes to the end of the queue. -/
theorem turn_of_more (hready : machine.ready = number :: waiting)
    (hfound : machine.processes[number]? = some process) (hkey : process.nextKey? = some key)
    (hsearch : (machine.session process).search process.arraySize key = ⟨.ok (), session, events⟩)
    (hmore : process.currentSearch + 1 < process.keys.size) :
    machine.turn =
      ⟨.ok true,
        machine.resume session number
          { process with currentSearch := process.currentSearch + 1 } (waiting ++ [number]),
        .searchStarted number (process.currentSearch + 1) :: events⟩ := by
  let advanced : UserProcess :=
    { process with space := session.space, currentSearch := process.currentSearch + 1 }
  let searched : Machine ρ := adopt { machine with ready := waiting } session.memory number advanced
  have hsearched : searchNext { machine with ready := waiting } number process =
      ⟨.ok advanced, searched, .searchStarted number (process.currentSearch + 1) :: events⟩ :=
    searchNext_of_ok hkey hsearch
  have hconclude : searched.conclude number advanced =
      ⟨.ok (), { searched with ready := waiting ++ [number] }, []⟩ :=
    conclude_unfinished searched number hmore
  have hqueue : (waiting ++ [number]).isEmpty = false := by simp
  unfold turn
  simp only [hready, hfound, hsearched, Reply.andThen, hconclude, Reply.ok, hqueue, List.append_nil,
    Bool.not_false]
  rfl

/-- A process leaves after its last search. -/
theorem turn_of_last (hready : machine.ready = number :: waiting)
    (hfound : machine.processes[number]? = some process) (hkey : process.nextKey? = some key)
    (hsearch : (machine.session process).search process.arraySize key = ⟨.ok (), session, events⟩)
    (hlast : process.keys.size = process.currentSearch + 1) :
    machine.turn =
      ⟨.ok !waiting.isEmpty,
        machine.resume session.released number
          { process with currentSearch := process.currentSearch + 1, terminated := true } waiting,
        .searchStarted number (process.currentSearch + 1) :: events ++
          [.framesReleased session.space.process session.released.memory.free.size,
            .processTerminated number process.keys.size]⟩ := by
  let advanced : UserProcess :=
    { process with space := session.space, currentSearch := process.currentSearch + 1 }
  let searched : Machine ρ := adopt { machine with ready := waiting } session.memory number advanced
  have hsearched : searchNext { machine with ready := waiting } number process =
      ⟨.ok advanced, searched, .searchStarted number (process.currentSearch + 1) :: events⟩ :=
    searchNext_of_ok hkey hsearch
  have hdone : advanced.keys.size ≤ advanced.currentSearch := Nat.le_of_eq hlast
  have hconclude := conclude_finished searched number hdone
  -- The process is written back twice, after its search and after its release.
  have htwice : searched.resume (searched.session advanced).released number
      { advanced with terminated := true } waiting =
        machine.resume session.released number
          { process with currentSearch := process.currentSearch + 1, terminated := true }
          waiting := by
    simp only [resume, searched, adopt, Array.setIfInBounds_setIfInBounds]
    rfl
  rw [← htwice]
  unfold turn
  simp only [hready, hfound, hsearched, Reply.andThen, hconclude, Reply.ok, List.append_nil]
  rfl

/-- A process without keys leaves at once. -/
theorem turn_of_keyless (hready : machine.ready = number :: waiting)
    (hfound : machine.processes[number]? = some process) (hkey : process.nextKey? = none) :
    machine.turn =
      ⟨.ok !waiting.isEmpty,
        machine.resume (machine.session process).released number
          { process with terminated := true } waiting,
        [.framesReleased process.space.process
            (machine.session process).released.memory.free.size,
          .processTerminated number process.keys.size]⟩ := by
  have hsearched : searchNext { machine with ready := waiting } number process =
      ⟨.ok process, { machine with ready := waiting }, []⟩ := by
    unfold searchNext
    simp only [hkey]
    rfl
  have hconclude := conclude_finished { machine with ready := waiting } number
    (nextKey?_eq_none_iff.1 hkey)
  unfold turn
  simp only [hready, hfound, hsearched, Reply.andThen, hconclude]
  rfl

end

/-- A turn that does not crash goes in one of the five ways. -/
theorem turn_cases {machine : Machine ρ} (hrunning : machine.turn.outcome ≠ .crash) :
    Turn machine machine.turn := by
  cases hready : machine.ready with
  | nil =>
    rw [turn_of_idle hready]
    exact .idle hready
  | cons number waiting =>
    cases hfound : machine.processes[number]? with
    | none =>
      refine absurd ?_ hrunning
      unfold turn
      simp only [hready, hfound]
      rfl
    | some process =>
      cases hkey : process.nextKey? with
      | none =>
        rw [turn_of_keyless hready hfound hkey]
        exact .keyless hready hfound hkey
      | some key =>
        rcases hsearch : (machine.session process).search process.arraySize key with
          ⟨outcome, session, events⟩
        cases outcome with
        | crash =>
          exact absurd (turn_of_crash hready hfound hkey (congrArg Reply.outcome hsearch)) hrunning
        | error reason =>
          rw [turn_of_error hready hfound hkey hsearch]
          exact .failed hready hfound hkey hsearch
        | ok _ =>
          by_cases hmore : process.currentSearch + 1 < process.keys.size
          · rw [turn_of_more hready hfound hkey hsearch hmore]
            exact .requeued hready hfound hkey hsearch hmore
          · have hlast := last_of_nextKey? hkey (Nat.le_of_not_lt hmore)
            rw [turn_of_last hready hfound hkey hsearch hlast]
            exact .ended hready hfound hkey hsearch hlast

theorem Turn.of_eq {machine : Machine ρ} {reply : Answer (Machine ρ) Bool}
    (hanswered : machine.turn = reply) (hrunning : reply.outcome ≠ .crash) :
    Turn machine reply := by
  subst hanswered
  exact turn_cases hrunning

theorem Turn.ne_crash {machine : Machine ρ} {reply : Answer (Machine ρ) Bool}
    (h : Turn machine reply) : reply.outcome ≠ .crash := by
  cases h <;> exact nofun

/-- A turn changes no settings. -/
theorem Turn.settings_eq {machine : Machine ρ} {reply : Answer (Machine ρ) Bool}
    (h : Turn machine reply) : reply.state.memory.settings = machine.memory.settings := by
  have hsearched {process : UserProcess} {key : Nat} {outcome : Outcome PagingError Unit}
      {session : Session ρ} {events : List Event}
      (hsearch : (machine.session process).search process.arraySize key =
        ⟨outcome, session, events⟩) (hrunning : outcome ≠ .crash) :
      session.memory.settings = machine.memory.settings := by
    have hfixed := (Session.search_fixed (by rw [hsearch]; exact hrunning)).1
    rw [hsearch] at hfixed
    exact hfixed
  cases h with
  | idle => rfl
  | failed _ _ _ hsearch => exact hsearched hsearch nofun
  | requeued _ _ _ hsearch => exact hsearched hsearch nofun
  | ended _ _ _ hsearch =>
    have hkept := hsearched hsearch nofun
    exact hkept
  | keyless => rfl

theorem Turn.size_processes_eq {machine : Machine ρ} {reply : Answer (Machine ρ) Bool}
    (h : Turn machine reply) : reply.state.processes.size = machine.processes.size := by
  cases h with
  | idle => rfl
  | failed | requeued | ended | keyless => simp only [resume, Array.size_setIfInBounds]

/-- A turn answers that nobody is ready exactly if nobody is. -/
theorem Turn.more_eq_false_iff {machine : Machine ρ} {reply : Answer (Machine ρ) Bool}
    {more : Bool} (h : Turn machine reply) (hanswer : reply.outcome = .ok more) :
    more = false ↔ reply.state.ready = [] := by
  cases h with
  | idle hready =>
    cases hanswer
    exact iff_of_true rfl hready
  | failed => cases hanswer
  | requeued =>
    cases hanswer
    exact iff_of_false nofun (List.append_ne_nil_of_right_ne_nil _ (List.cons_ne_nil _ _))
  | ended | keyless =>
    cases hanswer
    rw [Bool.not_eq_false', List.isEmpty_iff]
    rfl

/-! ## Taking turns -/

section

variable {machine next : Machine ρ} {events : List Event} (journal : Array Event)

theorem takeTurns_of_more (hturn : machine.turn = ⟨.ok true, next, events⟩) :
    machine.takeTurns journal = next.takeTurns (journal ++ events) := by
  rw [takeTurns]
  split <;> simp_all

theorem takeTurns_of_done (hturn : machine.turn = ⟨.ok false, next, events⟩) :
    machine.takeTurns journal = ⟨.ok (), next, (journal ++ events).toList⟩ := by
  rw [takeTurns]
  split <;> simp_all

theorem takeTurns_of_error {reason : PagingError}
    (hturn : machine.turn = ⟨.error reason, next, events⟩) :
    machine.takeTurns journal = ⟨.error reason, next, (journal ++ events).toList⟩ := by
  rw [takeTurns]
  split <;> simp_all

theorem takeTurns_of_crash (hturn : machine.turn = ⟨.crash, next, events⟩) :
    machine.takeTurns journal = ⟨.crash, next, (journal ++ events).toList⟩ := by
  rw [takeTurns]
  split <;> simp_all

theorem turn_ne_crash_of_takeTurns {journal : Array Event}
    (h : (machine.takeTurns journal).outcome ≠ .crash) : machine.turn.outcome ≠ .crash := by
  intro hcrash
  rcases hturn : machine.turn with ⟨outcome, next, events⟩
  rw [hturn] at hcrash
  subst hcrash
  rw [takeTurns_of_crash journal hturn] at h
  exact h rfl

end

/-- When a turn answers that nobody is ready, nobody is. -/
theorem ready_of_done {machine next : Machine ρ} {events : List Event}
    (hanswered : machine.turn = ⟨.ok false, next, events⟩) : next.ready = [] :=
  ((Turn.of_eq hanswered nofun).more_eq_false_iff rfl).1 rfl

/-- What every turn preserves, also one that fails, a sequence of turns preserves. -/
theorem takeTurns_preserves (holds : Machine ρ → Prop)
    (hturn : ∀ machine reply, holds machine → Turn machine reply → holds reply.state)
    {machine : Machine ρ} {journal : Array Event} (hstart : holds machine)
    (hrunning : (machine.takeTurns journal).outcome ≠ .crash) :
    holds (machine.takeTurns journal).state := by
  induction machine, journal using takeTurns.induct with
  | case1 machine journal next events hanswered ih =>
    have hnext := hturn machine _ hstart (Turn.of_eq hanswered nofun)
    rw [takeTurns_of_more journal hanswered] at hrunning ⊢
    exact ih hnext hrunning
  | case2 machine journal next events hanswered =>
    have hnext := hturn machine _ hstart (Turn.of_eq hanswered nofun)
    rw [takeTurns_of_done journal hanswered]
    exact hnext
  | case3 machine journal reason next events hanswered =>
    have hnext := hturn machine _ hstart (Turn.of_eq hanswered nofun)
    rw [takeTurns_of_error journal hanswered]
    exact hnext
  | case4 machine journal next events hanswered =>
    rw [takeTurns_of_crash journal hanswered] at hrunning
    exact absurd rfl hrunning

/-- A sequence of turns none of which fails ends when nobody is ready. -/
theorem takeTurns_ok (holds : Machine ρ → Prop)
    (hturn : ∀ machine, holds machine → ∃ more, machine.turn.outcome = .ok more ∧
      holds machine.turn.state)
    {machine : Machine ρ} {journal : Array Event} (hstart : holds machine) :
    (machine.takeTurns journal).outcome = .ok () ∧ holds (machine.takeTurns journal).state ∧
      (machine.takeTurns journal).state.ready = [] := by
  induction machine, journal using takeTurns.induct with
  | case1 machine journal next events hanswered ih =>
    obtain ⟨_, _, hnext⟩ := hturn machine hstart
    rw [hanswered] at hnext
    rw [takeTurns_of_more journal hanswered]
    exact ih hnext
  | case2 machine journal next events hanswered =>
    obtain ⟨_, _, hnext⟩ := hturn machine hstart
    have hnobody := ready_of_done hanswered
    rw [hanswered] at hnext
    rw [takeTurns_of_done journal hanswered]
    exact ⟨rfl, hnext, hnobody⟩
  | case3 machine journal reason next events hanswered =>
    obtain ⟨more, hok, _⟩ := hturn machine hstart
    rw [hanswered] at hok
    cases hok
  | case4 machine journal next events hanswered =>
    obtain ⟨more, hok, _⟩ := hturn machine hstart
    rw [hanswered] at hok
    cases hok

/-- A run takes turns, and reports on the machine that they leave. -/
theorem run_eq (machine : Machine ρ) :
    machine.run =
      let reply := machine.takeTurns #[]
      ⟨reply.outcome.map fun _ ↦ reply.state.report, reply.state,
        .runStarted machine.processes.size machine.memory.free.size :: reply.events⟩ := by
  unfold run
  rw [Reply.andThen_answer]
  rfl

end Machine

end PagedMemory
