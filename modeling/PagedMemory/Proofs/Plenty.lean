import Mathlib.Algebra.Order.BigOperators.Group.List
import Mathlib.Algebra.Order.Group.Nat
import PagedMemory.Proofs.Sufficiency
import PagedMemory.Proofs.Supply

/-!
# Machines with frames for everything

If a machine has frames for the pinned pages of all its processes, for all pages that their searches
touch, and for the reserve, no page is ever replaced.  `Machine.run_of_plenty` proves that every
process then pays one fault for each different page it touches, whatever the policy is and whoever
else is there, so that its row of the report is the one that it has when it runs alone.

`Machine.Steady` says of a machine that every process has all the pages it has touched, and
`Machine.Endowed` that there are frames for the others, for the processes in the queue and for those
that are still to be created.  A process that leaves gives its frames back, and so the others need
not ask who has left.
-/

namespace PagedMemory

/-- The pages that the searches of a workload touch, in order. -/
def ProcessSpec.pages (settings : Settings) (spec : ProcessSpec) : List (Option Nat) :=
  spec.keys.toList.flatMap (Search.pages settings spec.arraySize)

/-- The row of a process with this workload if it never has to give up a page: an access for every
page that a search touches, and a fault for every different one. -/
def ProcessSpec.row (settings : Settings) (spec : ProcessSpec) : Counters :=
  .ofPages (spec.pages settings)

/-- The frames that a process with this workload fills if it never has to give up a page. -/
def ProcessSpec.frames (settings : Settings) (spec : ProcessSpec) : Nat :=
  settings.essentialPages + (spec.pages settings).dedup.length

namespace UserProcess

/-- The workload of a process. -/
def spec (process : UserProcess) : ProcessSpec := ⟨process.arraySize, process.keys⟩

/-- The pages that the searches of a process have touched so far. -/
def touched (settings : Settings) (process : UserProcess) : List (Option Nat) :=
  (process.keys.toList.take process.currentSearch).flatMap (Search.pages settings process.arraySize)

variable {settings : Settings} {process : UserProcess}

theorem touched_subset : process.touched settings ⊆ process.spec.pages settings := by
  intro page hpage
  obtain ⟨key, hkey, htouched⟩ := List.mem_flatMap.1 hpage
  exact List.mem_flatMap.2 ⟨key, List.mem_of_mem_take hkey, htouched⟩

theorem pages_subset {key : Nat} (hkey : process.nextKey? = some key) :
    Search.pages settings process.arraySize key ⊆ process.spec.pages settings := by
  intro page hpage
  exact List.mem_flatMap.2 ⟨key, Array.mem_toList_iff.2 (Array.mem_of_getElem? hkey), hpage⟩

theorem touched_of_finished (hdone : process.keys.size ≤ process.currentSearch) :
    process.touched settings = process.spec.pages settings := by
  unfold touched
  rw [List.take_of_length_le (by simpa using hdone)]
  rfl

theorem touched_advance {key : Nat} (hkey : process.nextKey? = some key) :
    { process with currentSearch := process.currentSearch + 1 }.touched settings =
      process.touched settings ++ Search.pages settings process.arraySize key := by
  have hlast : process.keys.toList[process.currentSearch]? = some key := by
    rw [Array.getElem?_toList]
    exact hkey
  unfold touched
  simp only [List.take_add_one, hlast, Option.toList_some, List.flatMap_append,
    List.flatMap_singleton]

end UserProcess

/-- How many different pages a process has yet to touch. -/
def Member.need (settings : Settings) (member : Member) : Nat :=
  (member.process.spec.pages settings).dedup.length -
    (member.process.touched settings).dedup.length

theorem Member.need_add (settings : Settings) (member : Member) :
    member.need settings + (member.process.touched settings).dedup.length =
      (member.process.spec.pages settings).dedup.length :=
  Nat.sub_add_cancel (length_dedup_le_of_subset UserProcess.touched_subset)

theorem Member.need_advance_add (settings : Settings) (member : Member) (space : AddressSpace) :
    (member.advance space).need settings + ({ member.process with
        currentSearch := member.process.currentSearch + 1 }.touched settings).dedup.length =
      (member.process.spec.pages settings).dedup.length :=
  (member.advance space).need_add settings

namespace Machine

variable {ρ : Type}

/-! ## The workloads of a machine -/

/-- The workloads of all processes. -/
def specs (machine : Machine ρ) : List ProcessSpec := machine.processes.toList.map UserProcess.spec

theorem specs_resume {machine : Machine ρ} {number : ProcessId} {process process' : UserProcess}
    (hfound : machine.processes[number]? = some process) (hspec : process'.spec = process.spec)
    (session : Session ρ) (ready : List ProcessId) :
    (machine.resume session number process' ready).specs = machine.specs := by
  apply List.ext_getElem?
  intro other
  unfold specs
  rw [List.getElem?_map, List.getElem?_map, Array.getElem?_toList, Array.getElem?_toList]
  by_cases hsame : number = other
  · subst hsame
    rw [getElem?_resume_self (Array.getElem?_eq_some_iff.1 hfound).1, hfound, Option.map_some,
      Option.map_some, ← hspec]
    rfl
  · rw [getElem?_resume_of_ne hsame]

variable {settings : Settings} {machine : Machine ρ} {queue others : List Member} {member : Member}
  {left : List ProcessSpec}

/-! ## Machines that have replaced nothing -/

/-- The process is in the machine as it is here, and has all the pages it has touched. -/
structure Equipped (settings : Settings) (machine : Machine ρ) (member : Member) : Prop where
  found : machine.processes[member.number]? = some member.process
  size_le : member.process.arraySize ≤ 2 ^ 63
  fits : Memory.arrayFits? settings member.process.arraySize = some true
  size_table : member.process.space.table.size = settings.tableEntries
  resident_iff : ∀ page, member.process.space.table.Resident page ↔
    page < settings.essentialPages ∨ some page ∈ member.process.touched settings
  accesses_le : (member.process.touched settings).length ≤ machine.memory.counters.accesses

/-- No page has been replaced so far, every process in the queue has all the pages it has touched,
and every process out of the queue has done all its searches. -/
structure Steady (settings : Settings) (machine : Machine ρ) (queue : List Member) : Prop where
  settings_eq : machine.memory.settings = settings
  shared : machine.memory.counters.Consistent
  kept : machine.memory.counters.replacements = 0
  ready_eq : machine.ready = queue.map Member.number
  nodup : machine.ready.Nodup
  equipped : ∀ member ∈ queue, machine.Equipped settings member
  counters_eq : ∀ (number : ProcessId) (process : UserProcess),
    machine.processes[number]? = some process →
      process.space.counters = .ofPages (process.touched settings)
  gone : ∀ (number : ProcessId) (process : UserProcess),
    machine.processes[number]? = some process → number ∉ machine.ready →
      process.touched settings = process.spec.pages settings

theorem Steady.front (h : machine.Steady settings (member :: others)) :
    machine.Equipped settings member :=
  h.equipped member List.mem_cons_self

theorem Steady.front_not_mem (h : machine.Steady settings (member :: others)) :
    member.number ∉ others.map Member.number ∧ (others.map Member.number).Nodup := by
  have hnodup := h.nodup
  rw [h.ready_eq, List.map_cons] at hnodup
  exact List.nodup_cons.1 hnodup

/-- A process that is neither at the front nor behind it has done all its searches. -/
theorem Steady.gone_of_ne (h : machine.Steady settings (member :: others)) {number : ProcessId}
    {process : UserProcess} (hfound : machine.processes[number]? = some process)
    (hne : number ≠ member.number) (hnot : number ∉ others.map Member.number) :
    process.touched settings = process.spec.pages settings := by
  apply h.gone number process hfound
  rw [h.ready_eq, List.map_cons, List.mem_cons, not_or]
  exact ⟨hne, hnot⟩

/-- The process at the front is supplied if there are frames for what it has yet to touch. -/
theorem Steady.supplied (h : machine.Steady settings (member :: others)) {spare : Nat}
    (hsupply : settings.reserve + spare + member.need settings ≤ machine.memory.free.size) :
    (machine.session member.process).Supplied settings (member.process.touched settings)
      (member.process.spec.pages settings) spare where
  settings_eq := h.settings_eq
  resident_iff := h.front.resident_iff
  counters_eq := h.counters_eq _ _ h.front.found
  shared := h.shared
  kept := h.kept
  own_le := h.front.accesses_le
  subset := UserProcess.touched_subset
  supply := by
    rw [← member.need_add settings]
    show _ ≤ machine.memory.free.size + _
    omega

/-! ## What a process leaves behind -/

section

variable {session : Session ρ} {process : UserProcess} {number : ProcessId}
  {ready : List ProcessId}

/-- What becomes of one process does not concern another that is equipped. -/
theorem Equipped.resume (h : machine.Equipped settings member) (hne : number ≠ member.number)
    (haccesses : machine.memory.counters.accesses ≤ session.memory.counters.accesses) :
    (machine.resume session number process ready).Equipped settings member where
  found := (getElem?_resume_of_ne hne _ _ _ _).trans h.found
  size_le := h.size_le
  fits := h.fits
  size_table := h.size_table
  resident_iff := h.resident_iff
  accesses_le := Nat.le_trans h.accesses_le haccesses

/-- A process that comes back supplied is equipped again. -/
theorem Equipped.resume_self (h : machine.Equipped settings member) {all : List (Option Nat)}
    {spare : Nat} (hsession : session.Supplied settings (process.touched settings) all spare)
    (hsize : process.arraySize = member.process.arraySize)
    (htable : session.space.table.size = settings.tableEntries) :
    (machine.resume session member.number process ready).Equipped settings
      ⟨member.number, { process with space := session.space }⟩ where
  found := getElem?_resume_self (Array.getElem?_eq_some_iff.1 h.found).1 _ _ _
  size_le := by
    simp only [hsize]
    exact h.size_le
  fits := by
    simp only [hsize]
    exact h.fits
  size_table := htable
  resident_iff := hsession.resident_iff
  accesses_le := hsession.own_le

theorem Steady.equipped_others (h : machine.Steady settings (member :: others))
    (haccesses : machine.memory.counters.accesses ≤ session.memory.counters.accesses) :
    ∀ other ∈ others,
      (machine.resume session member.number process ready).Equipped settings other := by
  intro other hother
  apply (h.equipped other (List.mem_cons_of_mem _ hother)).resume _ haccesses
  intro hsame
  apply h.front_not_mem.1
  rw [hsame]
  exact List.mem_map_of_mem hother

theorem Steady.counters_resume (h : machine.Steady settings (member :: others))
    (hcounters : session.space.counters = .ofPages (process.touched settings)) :
    ∀ (number : ProcessId) (later : UserProcess),
      (machine.resume session member.number process ready).processes[number]? = some later →
        later.space.counters = .ofPages (later.touched settings) := by
  apply forall_found_resume
  · exact hcounters
  · exact fun number later _ ↦ h.counters_eq number later

/-- The process at the front leaves after it has done all its searches. -/
theorem Steady.leave (h : machine.Steady settings (member :: others))
    (hsettings : session.memory.settings = settings)
    (hshared : session.memory.counters.Consistent)
    (hkept : session.memory.counters.replacements = 0)
    (haccesses : machine.memory.counters.accesses ≤ session.memory.counters.accesses)
    (hcounters : session.space.counters = .ofPages (process.touched settings))
    (hdone : process.touched settings = process.spec.pages settings) :
    (machine.resume session member.number process (others.map Member.number)).Steady settings
      others where
  settings_eq := hsettings
  shared := hshared
  kept := hkept
  ready_eq := rfl
  nodup := h.front_not_mem.2
  equipped := h.equipped_others haccesses
  counters_eq := h.counters_resume hcounters
  gone := by
    refine forall_found_resume ?_ ?_
    · exact fun _ ↦ hdone
    · exact fun number later hne hlater ↦ h.gone_of_ne hlater (Ne.symm hne)

/-- The process at the front goes to the end of the queue. -/
theorem Steady.requeue (h : machine.Steady settings (member :: others)) {all : List (Option Nat)}
    {spare : Nat} (hsession : session.Supplied settings (process.touched settings) all spare)
    (haccesses : machine.memory.counters.accesses ≤ session.memory.counters.accesses)
    (hsize : process.arraySize = member.process.arraySize)
    (htable : session.space.table.size = settings.tableEntries) :
    (machine.resume session member.number process
      (others.map Member.number ++ [member.number])).Steady settings
        (others ++ [⟨member.number, { process with space := session.space }⟩]) where
  settings_eq := hsession.settings_eq
  shared := hsession.shared
  kept := hsession.kept
  ready_eq := by
    rw [List.map_append]
    rfl
  nodup := (List.perm_append_singleton _ _).nodup_iff.2 (List.nodup_cons.2 h.front_not_mem)
  equipped := List.forall_mem_append.2
    ⟨h.equipped_others haccesses,
      List.forall_mem_singleton.2 (h.front.resume_self hsession hsize htable)⟩
  counters_eq := h.counters_resume hsession.counters_eq
  gone := by
    refine forall_found_resume ?_ ?_
    · exact fun hnot ↦ absurd (List.mem_append_right _ (List.mem_singleton_self _)) hnot
    · exact fun number later hne hlater hnot ↦
        h.gone_of_ne hlater (Ne.symm hne) fun hwaits ↦ hnot (List.mem_append_left _ hwaits)

end

/-! ## Spawns -/

section

variable {arraySize : Nat} {keys : Array Nat} {later : Machine ρ}

theorem Steady.lt_size (h : machine.Steady settings queue) {number : ProcessId}
    (hnumber : number ∈ machine.ready) : number < machine.processes.size := by
  rw [h.ready_eq] at hnumber
  obtain ⟨member, hmember, rfl⟩ := List.mem_map.1 hnumber
  exact (Array.getElem?_eq_some_iff.1 (h.equipped member hmember).found).1

theorem touched_newborn (machine : Machine ρ) (settings : Settings) (arraySize : Nat)
    (keys : Array Nat) : (machine.newborn arraySize keys).touched settings = [] := by
  simp [UserProcess.touched, newborn]

/-- Creating a process does not concern another that is equipped. -/
theorem Equipped.push (h : machine.Equipped settings member)
    (hcounters : later.memory.counters = machine.memory.counters) {created : UserProcess}
    (hprocesses : later.processes = machine.processes.push created) :
    later.Equipped settings member where
  found := by
    rw [hprocesses]
    exact getElem?_push_of_found h.found created
  size_le := h.size_le
  fits := h.fits
  size_table := h.size_table
  resident_iff := h.resident_iff
  accesses_le := by
    rw [hcounters]
    exact h.accesses_le

/-- A process that has just been created is equipped with its pinned pages. -/
theorem equipped_newborn (hvalid : machine.memory.settings.Valid)
    (hfits : Memory.arrayFits? machine.memory.settings arraySize = some true)
    (hsize : arraySize ≤ 2 ^ 63)
    (hplenty : machine.memory.settings.essentialPages ≤ machine.memory.free.size)
    (hprocesses : later.processes = machine.processes.push (machine.newborn arraySize keys)) :
    later.Equipped machine.memory.settings
      ⟨machine.processes.size, machine.newborn arraySize keys⟩ where
  found := by
    rw [hprocesses]
    exact Array.getElem?_push_size
  size_le := hsize
  fits := hfits
  size_table := by
    rw [newborn, PageTable.size_mapFrom, PageTable.size_blank]
  resident_iff := by
    intro page
    rw [resident_newborn_iff hvalid.pinned_le hplenty, touched_newborn]
    simp
  accesses_le := by
    rw [touched_newborn]
    exact Nat.zero_le _

/-- A process that has touched nothing joins the queue. -/
theorem Steady.join (h : machine.Steady settings queue) (hvalid : settings.Valid)
    (keys : Array Nat) (hfits : Memory.arrayFits? settings arraySize = some true)
    (hsize : arraySize ≤ 2 ^ 63) (hplenty : settings.essentialPages ≤ machine.memory.free.size)
    (hsettings : later.memory.settings = machine.memory.settings)
    (hcounters : later.memory.counters = machine.memory.counters)
    (hprocesses : later.processes = machine.processes.push (machine.newborn arraySize keys))
    (hready : later.ready = machine.ready ++ [machine.processes.size]) :
    later.Steady settings
      (queue ++ [⟨machine.processes.size, machine.newborn arraySize keys⟩]) := by
  obtain rfl := h.settings_eq
  refine ⟨hsettings, ?_, ?_, ?_, ?_, ?_, ?_, ?_⟩
  · rw [hcounters]
    exact h.shared
  · rw [hcounters]
    exact h.kept
  · rw [hready, List.map_append, ← h.ready_eq]
    rfl
  · rw [hready]
    refine (List.perm_append_singleton _ _).nodup_iff.2 (List.nodup_cons.2 ⟨?_, h.nodup⟩)
    exact fun hmember ↦ Nat.lt_irrefl _ (h.lt_size hmember)
  · refine List.forall_mem_append.2 ⟨?_, List.forall_mem_singleton.2 ?_⟩
    · exact fun member hmember ↦ (h.equipped member hmember).push hcounters hprocesses
    · exact equipped_newborn hvalid hfits hsize hplenty hprocesses
  · rw [hprocesses]
    refine forall_found_push ?_ h.counters_eq
    rw [touched_newborn]
    rfl
  · rw [hprocesses, hready]
    refine forall_found_push ?_ ?_
    · exact fun hnot ↦ absurd (List.mem_append_right _ (List.mem_singleton_self _)) hnot
    · exact fun number process hfound hnot ↦
        h.gone number process hfound fun hmember ↦ hnot (List.mem_append_left _ hmember)

end

/-- A spawn with frames enough adds a process that has touched nothing. -/
theorem Steady.spawn (h : machine.Steady settings queue) (hvalid : settings.Valid)
    (hroom : settings.tableEntries < PageTable.sizeLimit) {spec : ProcessSpec}
    (hfits : Memory.arrayFits? settings spec.arraySize = some true)
    (hsize : spec.arraySize ≤ 2 ^ 63)
    (hplenty : settings.essentialPages ≤ machine.memory.free.size) :
    (machine.spawn spec.arraySize spec.keys).outcome = .ok machine.processes.size ∧
      (machine.spawn spec.arraySize spec.keys).state.Steady settings
        (queue ++ [⟨machine.processes.size, machine.newborn spec.arraySize spec.keys⟩]) ∧
      (machine.spawn spec.arraySize spec.keys).state.memory.free.size + settings.essentialPages =
        machine.memory.free.size ∧
      (machine.spawn spec.arraySize spec.keys).state.memory.counters = machine.memory.counters ∧
      (machine.spawn spec.arraySize spec.keys).state.specs = machine.specs ++ [spec] := by
  obtain rfl := h.settings_eq
  rw [spawn_of_plenty hfits hroom hvalid.pinned_le hplenty]
  refine ⟨rfl, h.join hvalid spec.keys hfits hsize hplenty rfl rfl rfl rfl, ?_, rfl, ?_⟩
  · rw [FreeList.size_dropLast]
    omega
  · simp [specs, UserProcess.spec, newborn]

/-! ## Machines with frames for everything -/

/-- The machine is steady.  It has frames for all that the processes in the queue have yet to touch,
and for the processes that are still to be created, and its counters have room for all searches. -/
structure Endowed (settings : Settings) (machine : Machine ρ) (queue : List Member)
    (left : List ProcessSpec) : Prop where
  steady : machine.Steady settings queue
  supply : settings.reserve + (queue.map (·.need settings)).sum +
    (left.map (·.frames settings)).sum ≤ machine.memory.free.size
  budget : machine.memory.counters.accesses + 64 * (queue.map Member.searchesLeft).sum +
    64 * (left.map (·.keys.size)).sum < Word.bound

theorem Endowed.spawn {spec : ProcessSpec} (h : machine.Endowed settings queue (spec :: left))
    (hvalid : settings.Valid) (hroom : settings.tableEntries < PageTable.sizeLimit)
    (hfits : Memory.arrayFits? settings spec.arraySize = some true)
    (hsize : spec.arraySize ≤ 2 ^ 63) :
    (machine.spawn spec.arraySize spec.keys).outcome = .ok machine.processes.size ∧
      (machine.spawn spec.arraySize spec.keys).state.Endowed settings
        (queue ++ [⟨machine.processes.size, machine.newborn spec.arraySize spec.keys⟩]) left ∧
      (machine.spawn spec.arraySize spec.keys).state.specs = machine.specs ++ [spec] := by
  have hsupply := h.supply
  have hbudget := h.budget
  rw [List.map_cons, List.sum_cons] at hsupply hbudget
  have hframes : spec.frames settings =
      settings.essentialPages + (spec.pages settings).dedup.length := rfl
  obtain ⟨hok, hsteady, hfree, hcounters, hspecs⟩ :=
    h.steady.spawn hvalid hroom hfits hsize (by omega)
  have hneed : Member.need settings
      ⟨machine.processes.size, machine.newborn spec.arraySize spec.keys⟩ ≤
        (spec.pages settings).dedup.length := Nat.sub_le _ _
  have hleft : Member.searchesLeft
      ⟨machine.processes.size, machine.newborn spec.arraySize spec.keys⟩ = spec.keys.size := rfl
  refine ⟨hok, ⟨hsteady, ?_, ?_⟩, hspecs⟩
  · rw [List.map_append, List.sum_append, List.map_singleton, List.sum_singleton]
    omega
  · rw [hcounters, List.map_append, List.sum_append, List.map_singleton, List.sum_singleton]
    omega

theorem Endowed.spawnAll (h : machine.Endowed settings queue left) (hvalid : settings.Valid)
    (hroom : settings.tableEntries < PageTable.sizeLimit)
    (hfits : ∀ spec ∈ left, spec.arraySize ≤ 2 ^ 63 ∧
      Memory.arrayFits? settings spec.arraySize = some true) :
    (Program.spawnAll machine left).outcome = .ok () ∧
      (∃ queue, (Program.spawnAll machine left).state.Endowed settings queue []) ∧
      (Program.spawnAll machine left).state.specs = machine.specs ++ left := by
  induction left generalizing machine queue with
  | nil => exact ⟨rfl, ⟨queue, h⟩, (List.append_nil _).symm⟩
  | cons spec left ih =>
    obtain ⟨hsize, hfit⟩ := hfits spec List.mem_cons_self
    obtain ⟨hok, hnext, hspecs⟩ := h.spawn hvalid hroom hfit hsize
    have hrest := ih hnext fun other hother ↦ hfits other (List.mem_cons_of_mem _ hother)
    have hall : Program.spawnAll machine (spec :: left) =
        (machine.spawn spec.arraySize spec.keys).andThen fun _ machine ↦
          Program.spawnAll machine left := rfl
    rw [hspecs, List.append_assoc] at hrest
    rw [hall]
    unfold Reply.andThen
    simp only [hok]
    exact hrest

theorem endowed_create {policy : ρ} {specs : List ProcessSpec}
    (hcreate : create settings policy = .ok machine)
    (hkeys : (specs.map (·.keys.size)).sum < 2 ^ 58)
    (hframes : settings.reserve + (specs.map (·.frames settings)).sum ≤ settings.userFrames) :
    machine.Endowed settings [] specs := by
  obtain ⟨_, rfl⟩ := create_eq_ok_iff.1 hcreate
  refine ⟨⟨rfl, Counters.consistent_zero, rfl, rfl, List.nodup_nil, nofun, nofun, nofun⟩, ?_, ?_⟩
  · simpa using hframes
  · simp only [List.map_nil, List.sum_nil, Word.bound]
    omega

/-- When nobody is ready any more, every process has its row. -/
theorem Steady.report_eq (h : machine.Steady settings queue) (hready : machine.ready = []) :
    machine.report.processes = machine.specs.map (·.row settings) := by
  unfold report specs
  rw [List.map_map]
  apply List.map_congr_left
  intro process hprocess
  obtain ⟨number, hfound⟩ := Array.mem_iff_getElem?.1 (Array.mem_toList_iff.1 hprocess)
  have hdone := h.gone number process hfound (by rw [hready]; exact List.not_mem_nil)
  rw [h.counters_eq number process hfound, hdone]
  rfl

/-! ## Turns -/

variable [VictimPolicy ρ]

/-- A turn changes no workload. -/
theorem Turn.specs_eq {reply : Answer (Machine ρ) Bool} (h : Turn machine reply) :
    reply.state.specs = machine.specs := by
  cases h with
  | idle => rfl
  | failed _ hfound | requeued _ hfound | ended _ hfound | keyless _ hfound =>
    apply specs_resume hfound
    rfl

/-- What the search of the process at the front comes to: the process has all that it touched, and
at most 63 accesses are counted. -/
structure Served (settings : Settings) (machine : Machine ρ) (member : Member) (spare : Nat)
    (session : Session ρ) : Prop where
  supplied : session.Supplied settings
    ({ member.process with currentSearch := member.process.currentSearch + 1 }.touched settings)
    (member.process.spec.pages settings) spare
  size_table : session.space.table.size = settings.tableEntries
  le_accesses : machine.memory.counters.accesses ≤ session.memory.counters.accesses
  accesses_le : session.memory.counters.accesses ≤ machine.memory.counters.accesses + 63

theorem Steady.search (h : machine.Steady settings (member :: others)) {spare : Nat}
    (hsupply : settings.reserve + spare + member.need settings ≤ machine.memory.free.size)
    (hroom : machine.memory.counters.accesses + 64 * member.searchesLeft < Word.bound) {key : Nat}
    (hkey : member.process.nextKey? = some key) :
    ∃ session events,
      (machine.session member.process).search member.process.arraySize key =
          ⟨.ok (), session, events⟩ ∧ machine.Served settings member spare session := by
  have hsize := h.front.size_le
  have hunder := (Array.getElem?_eq_some_iff.1 hkey).1
  have hspare : machine.memory.counters.accesses + 63 < Word.bound := by
    unfold Member.searchesLeft at hroom
    omega
  obtain ⟨hok, hafter⟩ := (h.supplied hsupply).search (UserProcess.pages_subset hkey)
    h.front.fits hsize h.front.size_table hspare
  have haccesses := (Session.search_accesses hok).2
  have hlength := Search.length_pages_le (machine.session member.process).memory.settings key hsize
  have htable := (Session.search_fixed (by rw [hok]; exact Outcome.ok_ne_crash)).2.2
  rw [← UserProcess.touched_advance hkey] at hafter
  have hshared : (machine.session member.process).memory.counters = machine.memory.counters := rfl
  rcases hsearch : (machine.session member.process).search member.process.arraySize key with
    ⟨outcome, session, events⟩
  rw [hsearch] at hok hafter haccesses htable
  rw [hshared] at haccesses
  simp only at hok haccesses
  subst hok
  refine ⟨session, events, rfl, hafter, ?_, by omega, by omega⟩
  exact htable.trans h.front.size_table

/-- A turn of the process at the front succeeds and leaves the machine steady.  The others are left,
and behind them whatever goes on.  There are frames for what that has yet to touch and the spare
ones, and the search is paid from the accesses that were set aside for it. -/
structure Proceeds (settings : Settings) (machine : Machine ρ) (member : Member)
    (others back : List Member) (spare : Nat) : Prop where
  outcome : ∃ more, machine.turn.outcome = .ok more
  steady : machine.turn.state.Steady settings (others ++ back)
  frames : settings.reserve + spare + (back.map (·.need settings)).sum ≤
    machine.turn.state.memory.free.size
  accesses : machine.turn.state.memory.counters.accesses +
      64 * (back.map Member.searchesLeft).sum ≤
    machine.memory.counters.accesses + 64 * member.searchesLeft

section

variable {spare : Nat}

theorem Steady.proceeds_of_keyless (h : machine.Steady settings (member :: others))
    (hsupply : settings.reserve + spare + member.need settings ≤ machine.memory.free.size)
    (hkey : member.process.nextKey? = none) : machine.Proceeds settings member others [] spare := by
  have hfound := h.front.found
  have hturn := turn_of_keyless h.ready_eq hfound hkey
  have hfrees : (machine.session member.process).released.memory.free.size =
      machine.memory.free.size + member.process.space.table.resident.length :=
    Session.size_free_released _
  constructor
  case outcome => exact ⟨_, congrArg Reply.outcome hturn⟩
  case steady =>
    have hdone : member.process.touched settings = member.process.spec.pages settings :=
      UserProcess.touched_of_finished (nextKey?_eq_none_iff.1 hkey)
    rw [hturn, List.append_nil]
    exact h.leave h.settings_eq h.shared h.kept (Nat.le_refl _) (h.counters_eq _ _ hfound) hdone
  case frames =>
    rw [hturn]
    simp only [Machine.resume, List.map_nil, List.sum_nil]
    omega
  case accesses =>
    rw [hturn, List.map_nil, List.sum_nil]
    exact Nat.add_le_add_left (Nat.zero_le _) _

variable {key : Nat} {session : Session ρ} {events : List Event}

theorem Steady.proceeds_of_last (h : machine.Steady settings (member :: others))
    (hkey : member.process.nextKey? = some key)
    (hsearch : (machine.session member.process).search member.process.arraySize key =
      ⟨.ok (), session, events⟩) (hserved : machine.Served settings member spare session)
    (hlast : member.process.keys.size = member.process.currentSearch + 1) :
    machine.Proceeds settings member others [] spare := by
  have hturn := turn_of_last h.ready_eq h.front.found hkey hsearch hlast
  have hdone : { member.process with
      currentSearch := member.process.currentSearch + 1 }.touched settings =
        member.process.spec.pages settings :=
    UserProcess.touched_of_finished (Nat.le_of_eq hlast)
  have hsupplied := hserved.supplied
  constructor
  case outcome => exact ⟨_, congrArg Reply.outcome hturn⟩
  case steady =>
    rw [hturn, List.append_nil]
    exact h.leave hsupplied.settings_eq hsupplied.shared hsupplied.kept hserved.le_accesses
      hsupplied.counters_eq hdone
  case frames =>
    have hfrees := session.size_free_released
    have hsupply := hsupplied.supply
    rw [hdone] at hsupply
    rw [hturn]
    simp only [Machine.resume, List.map_nil, List.sum_nil]
    omega
  case accesses =>
    have hsame : session.released.memory.counters = session.memory.counters := rfl
    have hfew := hserved.accesses_le
    rw [hturn]
    simp only [Machine.resume, hsame, List.map_nil, List.sum_nil, Member.searchesLeft]
    omega

theorem Steady.proceeds_of_more (h : machine.Steady settings (member :: others))
    (hkey : member.process.nextKey? = some key)
    (hsearch : (machine.session member.process).search member.process.arraySize key =
      ⟨.ok (), session, events⟩) (hserved : machine.Served settings member spare session)
    (hmore : member.process.currentSearch + 1 < member.process.keys.size) :
    machine.Proceeds settings member others [member.advance session.space] spare := by
  have hturn := turn_of_more h.ready_eq h.front.found hkey hsearch hmore
  constructor
  case outcome => exact ⟨_, congrArg Reply.outcome hturn⟩
  case steady =>
    rw [hturn]
    exact h.requeue hserved.supplied hserved.le_accesses rfl hserved.size_table
  case frames =>
    have hsupply := hserved.supplied.supply
    have hneed := member.need_advance_add settings session.space
    rw [hturn]
    simp only [Machine.resume, List.map_singleton, List.sum_singleton]
    omega
  case accesses =>
    have hfew := hserved.accesses_le
    rw [hturn, List.map_singleton, List.sum_singleton, Member.searchesLeft_advance]
    simp only [Machine.resume, Member.searchesLeft]
    omega

end

/-- A turn of a steady machine succeeds and leaves it steady, and leaves the spare frames. -/
theorem Steady.turn (h : machine.Steady settings (member :: others)) {spare : Nat}
    (hsupply : settings.reserve + spare + member.need settings ≤ machine.memory.free.size)
    (hroom : machine.memory.counters.accesses + 64 * member.searchesLeft < Word.bound) :
    ∃ back, machine.Proceeds settings member others back spare := by
  cases hkey : member.process.nextKey? with
  | none => exact ⟨[], h.proceeds_of_keyless hsupply hkey⟩
  | some key =>
    obtain ⟨session, events, hsearch, hserved⟩ := h.search hsupply hroom hkey
    by_cases hmore : member.process.currentSearch + 1 < member.process.keys.size
    · exact ⟨_, h.proceeds_of_more hkey hsearch hserved hmore⟩
    · have hlast := last_of_nextKey? hkey (Nat.le_of_not_lt hmore)
      exact ⟨[], h.proceeds_of_last hkey hsearch hserved hlast⟩

/-- A turn of a machine with frames for everything succeeds, and leaves frames for everything. -/
theorem Endowed.turn (h : machine.Endowed settings queue []) :
    ∃ more, machine.turn.outcome = .ok more ∧
      ∃ queue, machine.turn.state.Endowed settings queue [] := by
  cases queue with
  | nil =>
    rw [turn_of_idle h.steady.ready_eq]
    exact ⟨false, rfl, [], h⟩
  | cons member others =>
    have hsupply := h.supply
    have hbudget := h.budget
    simp only [List.map_cons, List.sum_cons, List.map_nil, List.sum_nil] at hsupply hbudget
    have hfront : settings.reserve + (others.map (·.need settings)).sum + member.need settings ≤
        machine.memory.free.size := by omega
    obtain ⟨back, hturn⟩ := h.steady.turn hfront (by omega)
    obtain ⟨more, hok⟩ := hturn.outcome
    have hfree := hturn.frames
    have hspent := hturn.accesses
    refine ⟨more, hok, others ++ back, hturn.steady, ?_, ?_⟩
    · simp only [List.map_append, List.sum_append, List.map_nil, List.sum_nil]
      omega
    · simp only [List.map_append, List.sum_append, List.map_nil, List.sum_nil]
      omega

/-! ## From the beginning to the end -/

/-- A run of a machine with frames for everything replaces nothing. -/
theorem Endowed.run (h : machine.Endowed settings queue []) :
    ∃ report, machine.run.outcome = .ok report ∧
      report.processes = machine.specs.map (·.row settings) ∧
      report.total.replacements = 0 ∧ report.total.attempts = {} := by
  obtain ⟨hdone, ⟨⟨queue, hlater⟩, hspecs⟩, hready⟩ := takeTurns_ok
    (fun later ↦ (∃ queue, later.Endowed settings queue []) ∧ later.specs = machine.specs)
    (by
      rintro later ⟨⟨queue, hlater⟩, hspecs⟩
      obtain ⟨more, hok, hnext⟩ := hlater.turn
      have hturn : Turn later later.turn := turn_cases (by rw [hok]; exact Outcome.ok_ne_crash)
      exact ⟨more, hok, hnext, hturn.specs_eq.trans hspecs⟩)
    (show (∃ queue, machine.Endowed settings queue []) ∧ machine.specs = machine.specs from
      ⟨⟨queue, h⟩, rfl⟩)
  rw [run_eq]
  refine ⟨(machine.takeTurns #[]).state.report, ?_, ?_, hlater.steady.kept, ?_⟩
  · simp only [hdone, Outcome.map]
  · rw [hlater.steady.report_eq hready, hspecs]
  · exact hlater.steady.shared.attempts_eq_zero hlater.steady.kept

/-- With frames for all that its processes can ever touch, a machine creates and runs them all, and
its report has the same row for each as if it ran alone. -/
theorem Endowed.simulate {specs : List ProcessSpec} (h : machine.Endowed settings [] specs)
    (hvalid : settings.Valid) (hroom : settings.tableEntries < PageTable.sizeLimit)
    (hfits : ∀ spec ∈ specs, spec.arraySize ≤ 2 ^ 63 ∧
      Memory.arrayFits? settings spec.arraySize = some true) (hfresh : machine.specs = []) :
    (Program.spawnAll machine specs).outcome = .ok () ∧
      ∃ report, (Program.spawnAll machine specs).state.run.outcome = .ok report ∧
        report.processes = specs.map (·.row settings) ∧
        report.total.replacements = 0 ∧ report.total.attempts = {} := by
  obtain ⟨hok, ⟨queue, hlater⟩, hspecs⟩ := h.spawnAll hvalid hroom hfits
  rw [hfresh, List.nil_append] at hspecs
  have hrun := hlater.run
  rw [hspecs] at hrun
  exact ⟨hok, hrun⟩

/-- With frames for the reserve, for all pinned pages and for every page that any search touches, no
page is replaced, whatever the policy answers.  Every process then has an access for each page that
its searches touch and a fault for each different one, as if it were alone. -/
theorem run_of_plenty (policy : ρ) (hvalid : settings.Valid)
    (hroom : settings.tableEntries < PageTable.sizeLimit) {specs : List ProcessSpec}
    (hfits : ∀ spec ∈ specs, spec.arraySize ≤ 2 ^ 63 ∧
      Memory.arrayFits? settings spec.arraySize = some true)
    (hkeys : (specs.map (·.keys.size)).sum < 2 ^ 58)
    (hframes : settings.reserve + (specs.map (·.frames settings)).sum ≤ settings.userFrames) :
    ∃ machine : Machine ρ, create settings policy = .ok machine ∧
      (Program.spawnAll machine specs).outcome = .ok () ∧
      ∃ report, (Program.spawnAll machine specs).state.run.outcome = .ok report ∧
        report.processes = specs.map (·.row settings) ∧
        report.total.replacements = 0 ∧ report.total.attempts = {} ∧
        ∀ (number : Nat) (spec : ProcessSpec), specs[number]? = some spec →
          ∃ alone, (Program.spawnAll machine [spec]).state.run.outcome = .ok alone ∧
            report.processes[number]? = alone.processes[0]? := by
  obtain ⟨machine, hcreate⟩ : ∃ machine, create settings policy = .ok machine :=
    ⟨_, create_eq_ok_iff.2 ⟨hvalid, rfl⟩⟩
  have hfresh : machine.specs = [] := by
    rw [(create_eq_ok_iff.1 hcreate).2]
    rfl
  obtain ⟨hok, report, hreport, hrows, hkept, hattempts⟩ :=
    (endowed_create hcreate hkeys hframes).simulate hvalid hroom hfits hfresh
  refine ⟨machine, hcreate, hok, report, hreport, hrows, hkept, hattempts, ?_⟩
  intro number spec hspec
  have hmember : spec ∈ specs := List.mem_of_getElem? hspec
  -- What suffices for all suffices for one.
  have hkeys' : ([spec].map (·.keys.size)).sum < 2 ^ 58 := by
    have hle := List.le_sum_of_mem (List.mem_map_of_mem (f := (·.keys.size)) hmember)
    rw [List.map_singleton, List.sum_singleton]
    omega
  have hframes' : settings.reserve + ([spec].map (·.frames settings)).sum ≤
      settings.userFrames := by
    have hle := List.le_sum_of_mem (List.mem_map_of_mem (f := (·.frames settings)) hmember)
    rw [List.map_singleton, List.sum_singleton]
    omega
  obtain ⟨_, alone, halone, hrow, _⟩ :=
    (endowed_create hcreate hkeys' hframes').simulate hvalid hroom
      (List.forall_mem_singleton.2 (hfits spec hmember)) hfresh
  refine ⟨alone, halone, ?_⟩
  rw [hrows, hrow, List.getElem?_map, hspec]
  rfl

/-- Frames for everything that two small processes touch. -/
def lavish : Settings where
  pageSize := 4
  userFrames := 11
  tableEntries := 9
  essentialPages := 1
  reserve := 1
  fallback := .mostRecent

/-- The policy would answer that there is no page to give up, and then name one outside the table.
-/
theorem run_of_plenty_lavish :
    lavish.Valid ∧ lavish.tableEntries < PageTable.sizeLimit ∧
      (∀ spec ∈ [ProcessSpec.mk 8 #[0, 7], ProcessSpec.mk 8 #[3]], spec.arraySize ≤ 2 ^ 63 ∧
        Memory.arrayFits? lavish spec.arraySize = some true) ∧
      ([ProcessSpec.mk 8 #[0, 7], ProcessSpec.mk 8 #[3]].map (·.keys.size)).sum < 2 ^ 58 ∧
      lavish.reserve + ([ProcessSpec.mk 8 #[0, 7], ProcessSpec.mk 8 #[3]].map
        (·.frames lavish)).sum ≤ lavish.userFrames ∧
      ∃ machine, create lavish (Scripted.mk [none, some 100]) = .ok machine ∧
        ∃ report,
          (Program.spawnAll machine [⟨8, #[0, 7]⟩, ⟨8, #[3]⟩]).state.run.outcome = .ok report ∧
          report.processes = [{ accesses := 6, faults := 5 }, { accesses := 3, faults := 3 }] := by
  have hframes : lavish.reserve + ([ProcessSpec.mk 8 #[0, 7], ProcessSpec.mk 8 #[3]].map
      (·.frames lavish)).sum ≤ lavish.userFrames := by
    decide +kernel
  have hfits : ∀ spec ∈ [ProcessSpec.mk 8 #[0, 7], ProcessSpec.mk 8 #[3]],
      spec.arraySize ≤ 2 ^ 63 ∧ Memory.arrayFits? lavish spec.arraySize = some true := by
    decide
  obtain ⟨machine, hcreate, _, report, hreport, hrows, _⟩ :=
    run_of_plenty (Scripted.mk [none, some 100]) (by decide) (by decide) hfits (by decide) hframes
  have hvalues : [ProcessSpec.mk 8 #[0, 7], ProcessSpec.mk 8 #[3]].map (·.row lavish) =
      [{ accesses := 6, faults := 5 }, { accesses := 3, faults := 3 }] := by
    decide +kernel
  exact ⟨by decide, by decide, hfits, by decide, hframes, machine, hcreate, report, hreport,
    hrows.trans hvalues⟩

/-- Plenty of frames is not enough for a table that is too large to be built. -/
theorem boundless_crashes_with_plenty :
    boundless.Valid ∧
      (∀ spec ∈ [ProcessSpec.mk 0 #[]], spec.arraySize ≤ 2 ^ 63 ∧
        Memory.arrayFits? boundless spec.arraySize = some true) ∧
      ([ProcessSpec.mk 0 #[]].map (·.keys.size)).sum < 2 ^ 58 ∧
      boundless.reserve + ([ProcessSpec.mk 0 #[]].map (·.frames boundless)).sum ≤
        boundless.userFrames ∧
      ∃ machine : Machine Aging, create boundless .mk = .ok machine ∧
        (Program.spawnAll machine [⟨0, #[]⟩]).outcome = .crash := by
  refine ⟨by decide, by decide, by decide, by decide, ?_⟩
  exact ⟨_, rfl, rfl⟩

end Machine

end PagedMemory
