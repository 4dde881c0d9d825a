import PagedMemory.Program
import PagedMemory.Proofs.Progress

/-!
# How much memory is enough

A process can fail only at its very first reference, when no more frames are free than are kept in
reserve.  So it is enough to have the pinned pages of all processes, the reserve, one frame more,
and, for every process but the last, a frame for each page that its first search touches: then every
process finds a free frame when it begins.  `Machine.run_completes` proves that with so many frames
all processes are created, all searches are done, and all frames come back.

`Machine.Provided` is the invariant.  Its queue has two parts: processes that have done no search,
with frames enough for the first searches of all but the last of them, and behind these the others.

-/

namespace PagedMemory

/-- The workload of a process. -/
def Member.spec (member : Member) : ProcessSpec := ⟨member.process.arraySize, member.process.keys⟩

/-- How many different pages the first search of a workload touches. -/
def ProcessSpec.demand (settings : Settings) (spec : ProcessSpec) : Nat :=
  PagedMemory.demand settings spec.arraySize spec.keys

namespace Machine

variable {settings : Settings} {machine : Machine Aging} {queue fresh started : List Member}

/-! ## Turns -/

/-- The machine is in progress.  It has frames for the first searches of all but the last of the
processes that have yet to begin, and its counters have room for all searches. -/
structure Provided (settings : Settings) (machine : Machine Aging) (fresh started : List Member) :
    Prop where
  progress : machine.Progress settings (fresh ++ started)
  unstarted : ∀ member ∈ fresh, member.process.currentSearch = 0
  begun : ∀ member ∈ started, 0 < member.process.currentSearch
  supply : fresh ≠ [] →
    settings.reserve + 1 + (fresh.map (·.demand settings)).dropLast.sum ≤ machine.memory.free.size
  budget : machine.memory.counters.accesses +
    64 * ((fresh ++ started).map Member.searchesLeft).sum < Word.bound

section

variable {member : Member} {back : List Member}

/-- The first of the fresh processes takes no more frames than were reckoned for it, unless it is
the last of them. -/
theorem Provided.fresh_turn (h : machine.Provided settings (member :: fresh) started)
    (hturn : machine.Yields settings member (fresh ++ started) back) :
    machine.turn.state.Provided settings fresh (started ++ back) where
  progress := by
    rw [← List.append_assoc]
    exact hturn.progress
  unstarted := fun other hother ↦ h.unstarted other (List.mem_cons_of_mem _ hother)
  begun := List.forall_mem_append.2 ⟨h.begun, hturn.started⟩
  supply := by
    intro hsome
    have hsupply := h.supply (List.cons_ne_nil _ _)
    have hcost := hturn.frames (h.unstarted member List.mem_cons_self)
    rw [List.map_cons, List.dropLast_cons_of_ne_nil (by simpa using hsome), List.sum_cons]
      at hsupply
    omega
  budget := by
    have hbudget := h.budget
    have hspent := hturn.accesses
    rw [List.cons_append, List.map_cons, List.sum_cons] at hbudget
    rw [← List.append_assoc, List.map_append, List.sum_append]
    omega

/-- When all processes have begun, there is nothing more to reckon with. -/
theorem Provided.started_turn (h : machine.Provided settings [] (member :: started))
    (hturn : machine.Yields settings member started back) :
    machine.turn.state.Provided settings [] (started ++ back) where
  progress := hturn.progress
  unstarted := nofun
  begun := List.forall_mem_append.2
    ⟨fun other hother ↦ h.begun other (List.mem_cons_of_mem _ hother), hturn.started⟩
  supply := fun hnil ↦ absurd rfl hnil
  budget := by
    have hbudget := h.budget
    have hspent := hturn.accesses
    rw [List.nil_append, List.map_cons, List.sum_cons] at hbudget
    rw [List.nil_append, List.map_append, List.sum_append]
    omega

end

/-- A turn of a machine that is provided for succeeds, and leaves it provided for. -/
theorem Provided.turn (h : machine.Provided settings fresh started) (hvalid : settings.Valid) :
    ∃ more, machine.turn.outcome = .ok more ∧
      ∃ fresh started, machine.turn.state.Provided settings fresh started := by
  have hbudget := h.budget
  cases fresh with
  | cons member fresh =>
    have hsupply := h.supply (List.cons_ne_nil _ _)
    rw [List.cons_append, List.map_cons, List.sum_cons] at hbudget
    obtain ⟨back, hturn⟩ := Progress.turn h.progress hvalid (fun _ ↦ by omega) (by omega)
    obtain ⟨more, hok⟩ := hturn.outcome
    exact ⟨more, hok, _, _, h.fresh_turn hturn⟩
  | nil =>
    cases started with
    | nil =>
      have hready : machine.ready = [] := h.progress.ready_eq
      rw [turn_of_idle hready]
      exact ⟨false, rfl, [], [], h⟩
    | cons member started =>
      have hpositive := h.begun member List.mem_cons_self
      rw [List.nil_append, List.map_cons, List.sum_cons] at hbudget
      obtain ⟨back, hturn⟩ := Progress.turn h.progress hvalid (fun hzero ↦ by omega) (by omega)
      obtain ⟨more, hok⟩ := hturn.outcome
      exact ⟨more, hok, _, _, h.started_turn hturn⟩

/-- When nobody is ready any more, every process has left and all frames are free. -/
theorem Progress.done (h : machine.Progress settings queue) (hready : machine.ready = []) :
    (∀ process ∈ machine.processes, process.terminated = true) ∧
      machine.freeFrames.Perm settings.allFrames := by
  have hgone {number : ProcessId} {process : UserProcess}
      (hfound : machine.processes[number]? = some process) :
      process.terminated = true ∧ process.space.table.frames = [] := by
    apply h.gone number process hfound
    rw [hready]
    exact List.not_mem_nil
  constructor
  · intro process hprocess
    obtain ⟨number, hfound⟩ := Array.mem_iff_getElem?.1 hprocess
    exact (hgone hfound).1
  · have hmapped : machine.mappedFrames = [] := by
      unfold mappedFrames
      rw [List.flatMap_eq_nil_iff]
      intro process hprocess
      obtain ⟨number, hfound⟩ := Array.mem_iff_getElem?.1 (Array.mem_toList_iff.1 hprocess)
      exact (hgone hfound).2
    have hall := h.accounts.complete
    rw [List.append_nil, heldFrames, hmapped, List.nil_append] at hall
    exact hall

/-! ## Spawns -/

section

variable {arraySize : Nat} {keys : Array Nat} {later : Machine Aging}

/-- Creating a process does not concern another that waits. -/
theorem Waits.push {member : Member} (h : machine.Waits member)
    (hsettings : later.memory.settings = machine.memory.settings)
    (hcounters : later.memory.counters = machine.memory.counters) {created : UserProcess}
    (hprocesses : later.processes = machine.processes.push created) : later.Waits member where
  found := by
    rw [hprocesses]
    exact getElem?_push_of_found h.found created
  size := h.size
  accesses_le := by
    rw [hcounters]
    exact h.accesses_le
  settled := by
    intro hstarted
    have hsettled := h.settled hstarted
    unfold Session.Settled Machine.session at hsettled ⊢
    simp only [hsettings] at hsettled ⊢
    exact hsettled

/-- A process that has just been created waits. -/
theorem waits_newborn (hsize : arraySize ≤ 2 ^ 63)
    (hprocesses : later.processes = machine.processes.push (machine.newborn arraySize keys)) :
    later.Waits ⟨machine.processes.size, machine.newborn arraySize keys⟩ where
  found := by
    rw [hprocesses]
    exact Array.getElem?_push_size
  size := hsize
  accesses_le := Nat.zero_le _
  settled := fun hstarted ↦ absurd hstarted (Nat.lt_irrefl 0)

end

/-- A spawn with frames enough adds a process that has done no search. -/
theorem Progress.spawn (h : machine.Progress settings queue) (hvalid : settings.Valid)
    (hroom : settings.tableEntries < PageTable.sizeLimit) {arraySize : Nat} (keys : Array Nat)
    (hfits : Memory.arrayFits? settings arraySize = some true) (hsize : arraySize ≤ 2 ^ 63)
    (hplenty : settings.essentialPages ≤ machine.memory.free.size) :
    (machine.spawn arraySize keys).outcome = .ok machine.processes.size ∧
      (machine.spawn arraySize keys).state.Progress settings
        (queue ++ [⟨machine.processes.size, machine.newborn arraySize keys⟩]) ∧
      (machine.spawn arraySize keys).state.memory.free.size + settings.essentialPages =
        machine.memory.free.size ∧
      (machine.spawn arraySize keys).state.memory.counters.accesses =
        machine.memory.counters.accesses ∧
      (machine.spawn arraySize keys).state.processes.size = machine.processes.size + 1 := by
  obtain rfl := h.orderly.settings_eq
  have hspawn : machine.spawn arraySize keys = _ :=
    spawn_of_plenty hfits hroom (h.orderly.pinned_le hvalid) hplenty
  have hcreated : Spawn machine arraySize keys _ := .created hfits hplenty
  rw [hspawn]
  refine ⟨rfl, ?_, ?_, rfl, Array.size_push _⟩
  · constructor
    case orderly => exact h.orderly.spawn hvalid hcreated
    case accounts => exact h.accounts.spawn hvalid hcreated
    case ready_eq =>
      rw [List.map_append, ← h.ready_eq]
      rfl
    case waits =>
      refine List.forall_mem_append.2 ⟨?_, List.forall_mem_singleton.2 (waits_newborn hsize rfl)⟩
      exact fun member hmember ↦ (h.waits member hmember).push rfl rfl rfl
    case gone =>
      refine forall_found_push ?_ ?_
      · exact fun hnot ↦ absurd (List.mem_append_right _ (List.mem_singleton_self _)) hnot
      · exact fun number process hfound hnot ↦
          h.gone number process hfound fun hready ↦ hnot (List.mem_append_left _ hready)
  · rw [FreeList.size_dropLast]
    omega

/-- With frames enough for the pinned pages of all, all processes are created. -/
theorem Progress.spawnAll (h : machine.Progress settings queue) (hvalid : settings.Valid)
    (hroom : settings.tableEntries < PageTable.sizeLimit) {specs : List ProcessSpec}
    (hfits : ∀ spec ∈ specs, spec.arraySize ≤ 2 ^ 63 ∧
      Memory.arrayFits? settings spec.arraySize = some true)
    (hplenty : specs.length * settings.essentialPages ≤ machine.memory.free.size) :
    (Program.spawnAll machine specs).outcome = .ok () ∧
      ∃ members : List Member, members.map Member.spec = specs ∧
        (∀ member ∈ members, member.process.currentSearch = 0) ∧
        (Program.spawnAll machine specs).state.Progress settings (queue ++ members) ∧
        (Program.spawnAll machine specs).state.memory.free.size +
          specs.length * settings.essentialPages = machine.memory.free.size ∧
        (Program.spawnAll machine specs).state.memory.counters.accesses =
          machine.memory.counters.accesses ∧
        (Program.spawnAll machine specs).state.processes.size =
          machine.processes.size + specs.length := by
  induction specs generalizing machine queue with
  | nil =>
    refine ⟨rfl, [], rfl, nofun, ?_, ?_, rfl, rfl⟩
    · rw [List.append_nil]
      exact h
    · rw [List.length_nil, Nat.zero_mul]
      rfl
  | cons spec specs ih =>
    obtain ⟨hsize, hfit⟩ := hfits spec List.mem_cons_self
    rw [List.length_cons, Nat.succ_mul] at hplenty
    obtain ⟨hok, hprogress, hfree, haccesses, hprocesses⟩ :=
      h.spawn hvalid hroom spec.keys hfit hsize (by omega)
    obtain ⟨hdone, members, hspecs, hzero, hafter, hfree', haccesses', hprocesses'⟩ :=
      ih hprogress (fun other hother ↦ hfits other (List.mem_cons_of_mem _ hother)) (by omega)
    have hall : Program.spawnAll machine (spec :: specs) =
        (machine.spawn spec.arraySize spec.keys).andThen fun _ machine ↦
          Program.spawnAll machine specs := rfl
    rw [hall]
    unfold Reply.andThen
    simp only [hok]
    refine ⟨hdone, ⟨machine.processes.size, machine.newborn spec.arraySize spec.keys⟩ :: members,
      ?_, ?_, ?_, ?_, ?_, ?_⟩
    · rw [List.map_cons, hspecs]
      rfl
    · intro member hmember
      obtain rfl | hlater := List.mem_cons.1 hmember
      · rfl
      · exact hzero member hlater
    · rw [List.append_cons]
      exact hafter
    · rw [List.length_cons, Nat.succ_mul]
      omega
    · omega
    · rw [List.length_cons]
      omega

/-! ## From the beginning to the end -/

theorem progress_create {machine : Machine Aging}
    (hcreate : create settings Aging.mk = .ok machine) :
    machine.Progress settings [] := by
  obtain ⟨_, horderly⟩ := orderly_create hcreate
  obtain ⟨_, haccounts⟩ := accounts_create hcreate
  obtain ⟨_, rfl⟩ := create_eq_ok_iff.1 hcreate
  exact ⟨horderly, haccounts, rfl, nofun, fun _ _ hfound ↦ by cases hfound⟩

/-- A run of a machine that is provided for ends well. -/
theorem Provided.run (h : machine.Provided settings fresh started) (hvalid : settings.Valid) :
    (∃ report, machine.run.outcome = .ok report) ∧
      machine.run.state.processes.size = machine.processes.size ∧
      (∀ process ∈ machine.run.state.processes, process.terminated = true) ∧
      machine.run.state.freeFrames.Perm settings.allFrames := by
  obtain ⟨hdone, ⟨⟨fresh, started, hlater⟩, hsize⟩, hready⟩ := takeTurns_ok
    (fun later ↦ (∃ fresh started, later.Provided settings fresh started) ∧
      later.processes.size = machine.processes.size)
    (by
      rintro later ⟨⟨fresh, started, hlater⟩, hsize⟩
      obtain ⟨more, hok, hnext⟩ := hlater.turn hvalid
      have hturn : Turn later later.turn := turn_cases (by rw [hok]; exact Outcome.ok_ne_crash)
      exact ⟨more, hok, hnext, hturn.size_processes_eq.trans hsize⟩)
    (show (∃ fresh started, machine.Provided settings fresh started) ∧
      machine.processes.size = machine.processes.size from ⟨⟨fresh, started, h⟩, rfl⟩)
  obtain ⟨hterminated, hfree⟩ := hlater.progress.done hready
  rw [run_eq]
  refine ⟨⟨(machine.takeTurns #[]).state.report, ?_⟩, hsize, hterminated, hfree⟩
  simp only [hdone, Outcome.map]

/-- With frames for all pinned pages, the reserve, one frame more, and the first searches of all
processes but the last, every process is created and does all its searches, and in the end all
frames are free again. -/
theorem run_completes (hvalid : settings.Valid)
    (hroom : settings.tableEntries < PageTable.sizeLimit)
    {specs : List ProcessSpec}
    (hfits : ∀ spec ∈ specs, spec.arraySize ≤ 2 ^ 63 ∧
      Memory.arrayFits? settings spec.arraySize = some true)
    (hkeys : (specs.map (·.keys.size)).sum < 2 ^ 58)
    (hframes : specs.length * settings.essentialPages + settings.reserve + 1 +
      (specs.dropLast.map (·.demand settings)).sum ≤ settings.userFrames) :
    ∃ machine : Machine Aging, create settings .mk = .ok machine ∧
      (Program.spawnAll machine specs).outcome = .ok () ∧
      (∃ report, (Program.spawnAll machine specs).state.run.outcome = .ok report) ∧
      (Program.spawnAll machine specs).state.run.state.processes.size = specs.length ∧
      (∀ process ∈ (Program.spawnAll machine specs).state.run.state.processes,
        process.terminated = true) ∧
      (Program.spawnAll machine specs).state.run.state.freeFrames.Perm settings.allFrames := by
  obtain ⟨machine, hcreate⟩ : ∃ machine, create settings Aging.mk = .ok machine :=
    ⟨_, create_eq_ok_iff.2 ⟨hvalid, rfl⟩⟩
  refine ⟨machine, hcreate, ?_⟩
  have hmachine := (create_eq_ok_iff.1 hcreate).2
  have hfree : machine.memory.free.size = settings.userFrames := by
    rw [hmachine]
    exact FreeList.size_full _ _
  have hnone : machine.memory.counters.accesses = 0 ∧ machine.processes.size = 0 := by
    rw [hmachine]
    exact ⟨rfl, rfl⟩
  obtain ⟨hcreated, members, hspecs, hzero, hprogress, hleft, haccesses, hsize⟩ :=
    (progress_create hcreate).spawnAll hvalid hroom hfits (by omega)
  rw [List.nil_append] at hprogress
  have hdemand : (members.map (·.demand settings)).dropLast =
      specs.dropLast.map (·.demand settings) := by
    rw [← hspecs, ← List.map_dropLast, ← List.map_dropLast, List.map_map]
    rfl
  have hleftover : members.map Member.searchesLeft = specs.map (·.keys.size) := by
    rw [← hspecs, List.map_map]
    apply List.map_congr_left
    intro member hmember
    unfold Member.searchesLeft
    rw [hzero member hmember]
    rfl
  have hprovided : (Program.spawnAll machine specs).state.Provided settings members [] := by
    refine ⟨?_, hzero, nofun, ?_, ?_⟩
    · rw [List.append_nil]
      exact hprogress
    · intro _
      rw [hdemand]
      omega
    · rw [List.append_nil, hleftover]
      unfold Word.bound
      omega
  obtain ⟨hreport, hcount, hterminated, hback⟩ := hprovided.run hvalid
  exact ⟨hcreated, hreport, by omega, hterminated, hback⟩

/-- Frames for two processes, just enough for them to begin. -/
def ample : Settings where
  pageSize := 4
  userFrames := 7
  tableEntries := 9
  essentialPages := 1
  reserve := 1
  fallback := .mostRecent

theorem run_completes_ample :
    ample.Valid ∧ ample.tableEntries < PageTable.sizeLimit ∧
      (∀ spec ∈ [ProcessSpec.mk 8 #[0, 7], ProcessSpec.mk 8 #[3]], spec.arraySize ≤ 2 ^ 63 ∧
        Memory.arrayFits? ample spec.arraySize = some true) ∧
      ([ProcessSpec.mk 8 #[0, 7], ProcessSpec.mk 8 #[3]].map (·.keys.size)).sum < 2 ^ 58 ∧
      2 * ample.essentialPages + ample.reserve + 1 +
        ([ProcessSpec.mk 8 #[0, 7]].map (·.demand ample)).sum ≤ ample.userFrames ∧
      ∃ machine : Machine Aging, create ample .mk = .ok machine ∧
        (Program.spawnAll machine [⟨8, #[0, 7]⟩, ⟨8, #[3]⟩]).outcome = .ok () ∧
        ∃ report,
          (Program.spawnAll machine [⟨8, #[0, 7]⟩, ⟨8, #[3]⟩]).state.run.outcome = .ok report := by
  have hframes : 2 * ample.essentialPages + ample.reserve + 1 +
      ([ProcessSpec.mk 8 #[0, 7]].map (·.demand ample)).sum ≤ ample.userFrames := by
    decide +kernel
  have hfits : ∀ spec ∈ [ProcessSpec.mk 8 #[0, 7], ProcessSpec.mk 8 #[3]],
      spec.arraySize ≤ 2 ^ 63 ∧ Memory.arrayFits? ample spec.arraySize = some true := by
    decide
  obtain ⟨machine, hcreate, hspawned, hrun, _⟩ :=
    run_completes (by decide) (by decide) hfits (by decide) hframes
  exact ⟨by decide, by decide, hfits, by decide, hframes, machine, hcreate, hspawned, hrun⟩

/-- Valid settings with a table too large to be built. -/
def boundless : Settings where
  pageSize := 4
  userFrames := 1
  tableEntries := 2 ^ 62
  essentialPages := 0
  reserve := 0
  fallback := .mostRecent

/-- The limit on the size of a table is needed. -/
theorem spawnAll_boundless_crashes :
    boundless.Valid ∧
      (∀ spec ∈ [ProcessSpec.mk 0 #[]], spec.arraySize ≤ 2 ^ 63 ∧
        Memory.arrayFits? boundless spec.arraySize = some true) ∧
      ([ProcessSpec.mk 0 #[]].map (·.keys.size)).sum < 2 ^ 58 ∧
      [ProcessSpec.mk 0 #[]].length * boundless.essentialPages + boundless.reserve + 1 +
        ([ProcessSpec.mk 0 #[]].dropLast.map (·.demand boundless)).sum ≤ boundless.userFrames ∧
      ∃ machine : Machine Aging, create boundless .mk = .ok machine ∧
        (Program.spawnAll machine [⟨0, #[]⟩]).outcome = .crash := by
  refine ⟨by decide, by decide, by decide, by decide, ?_⟩
  exact ⟨_, rfl, rfl⟩

end Machine

end PagedMemory
