import PagedMemory.Proofs.Calls
import PagedMemory.Proofs.Settling

/-!
# Machines in order

Under aging, every process in the ready queue has a page of its own to give up as soon as it has
made a reference: a process that could not get one has left the queue.  `Machine.Orderly` states
this together with what else is always true of a queue and its processes, and the lemmas show that
spawns and turns keep a machine in order.
-/

namespace PagedMemory.Machine

variable {settings : Settings} {machine later : Machine Aging} {number : ProcessId}
  {process : UserProcess}

/-- The process has this number and this state, and may go on. -/
structure Fit (machine : Machine Aging) (number : ProcessId) (process : UserProcess) : Prop where
  found : machine.processes[number]? = some process
  process_eq : process.space.process = number
  size_table : process.space.table.size = machine.memory.settings.tableEntries
  fits : Memory.arrayFits? machine.memory.settings process.arraySize = some true
  standing : (machine.session process).Standing
  consistent : process.space.counters.Consistent

/-- The machine has these settings, and every process in its queue may go on. -/
structure Orderly (settings : Settings) (machine : Machine Aging) : Prop where
  settings_eq : machine.memory.settings = settings
  consistent : machine.memory.counters.Consistent
  nodup : machine.ready.Nodup
  fit : ∀ number ∈ machine.ready, ∃ process, machine.Fit number process

theorem standing_congr (hsettings : later.memory.settings = machine.memory.settings) :
    (later.session process).Standing ↔ (machine.session process).Standing := by
  unfold Session.Standing Session.Settled session
  rw [hsettings]

/-- A process may go on in any machine with the same settings in which nothing has become of it. -/
theorem Fit.congr (h : machine.Fit number process)
    (hsettings : later.memory.settings = machine.memory.settings)
    (hfound : later.processes[number]? = machine.processes[number]?) :
    later.Fit number process where
  found := hfound.trans h.found
  process_eq := h.process_eq
  size_table := by rw [hsettings, h.size_table]
  fits := by rw [hsettings, h.fits]
  standing := (standing_congr hsettings).2 h.standing
  consistent := h.consistent

theorem Fit.lt_size (h : machine.Fit number process) : number < machine.processes.size :=
  (Array.getElem?_eq_some_iff.1 h.found).1

/-- A process in the queue may go on. -/
theorem Orderly.fit_of_found (h : machine.Orderly settings) (hready : number ∈ machine.ready)
    (hfound : machine.processes[number]? = some process) : machine.Fit number process := by
  obtain ⟨found, hfit⟩ := h.fit number hready
  obtain rfl : process = found := Option.some.inj (hfound.symm.trans hfit.found)
  exact hfit

/-- The process at the front of the queue may go on. -/
theorem Orderly.fit_front (h : machine.Orderly settings) {waiting : List ProcessId}
    (hready : machine.ready = number :: waiting)
    (hfound : machine.processes[number]? = some process) : machine.Fit number process := by
  apply h.fit_of_found _ hfound
  rw [hready]
  exact List.mem_cons_self

theorem Orderly.pinned_le (h : machine.Orderly settings) (hvalid : settings.Valid) :
    machine.memory.settings.essentialPages ≤ machine.memory.settings.tableEntries := by
  rw [h.settings_eq]
  exact hvalid.pinned_le

theorem orderly_create {machine : Machine Aging}
    (hcreate : create settings Aging.mk = .ok machine) :
    settings.Valid ∧ machine.Orderly settings := by
  obtain ⟨hvalid, rfl⟩ := create_eq_ok_iff.1 hcreate
  exact ⟨hvalid, rfl, Counters.consistent_zero, List.nodup_nil, nofun⟩

/-! ## Spawns -/

/-- A process that has just been created is not settled, and has made no reference. -/
theorem fit_newborn {arraySize : Nat} {keys : Array Nat}
    (hfits : Memory.arrayFits? machine.memory.settings arraySize = some true)
    (hsettings : later.memory.settings = machine.memory.settings)
    (hfound : later.processes[number]? = some (machine.newborn arraySize keys))
    (hnumber : machine.processes.size = number)
    (hpinned : machine.memory.settings.essentialPages ≤ machine.memory.settings.tableEntries) :
    later.Fit number (machine.newborn arraySize keys) where
  found := hfound
  process_eq := hnumber
  size_table := by rw [hsettings, newborn, PageTable.size_mapFrom, PageTable.size_blank]
  fits := by rw [hsettings, newborn, hfits]
  standing := by
    rw [standing_congr hsettings]
    constructor
    · rintro ⟨page, hpage, hresident⟩
      have hlength : (machine.memory.free.stack.take
          machine.memory.settings.essentialPages).length ≤
            machine.memory.settings.essentialPages := List.length_take_le _ _
      simp only [session, newborn] at hpage hresident
      rw [PageTable.resident_mapFrom_iff (by rw [PageTable.size_blank]; omega)] at hresident
      obtain ⟨_, hlt⟩ | hblank := hresident
      · omega
      · exact absurd hblank (PageTable.not_resident_blank _ _)
    · exact fun hpositive ↦ absurd hpositive (Nat.lt_irrefl 0)
  consistent := Counters.consistent_zero

theorem Orderly.spawn (h : machine.Orderly settings) (hvalid : settings.Valid) {arraySize : Nat}
    {keys : Array Nat} {reply : Answer (Machine Aging) ProcessId}
    (hspawn : Spawn machine arraySize keys reply) : reply.state.Orderly settings := by
  cases hspawn with
  | refused => exact h
  | drained =>
    refine ⟨h.settings_eq, h.consistent, h.nodup, ?_⟩
    intro number hnumber
    obtain ⟨process, hfit⟩ := h.fit number hnumber
    exact ⟨process, hfit.congr rfl rfl⟩
  | created hfits hplenty =>
    have hfresh : machine.processes.size ∉ machine.ready := by
      intro hmember
      obtain ⟨process, hfit⟩ := h.fit _ hmember
      exact Nat.lt_irrefl _ hfit.lt_size
    refine ⟨h.settings_eq, h.consistent, ?_, ?_⟩
    · exact (List.perm_append_singleton _ _).nodup_iff.2 (List.nodup_cons.2 ⟨hfresh, h.nodup⟩)
    · refine List.forall_mem_append.2 ⟨?_, List.forall_mem_singleton.2 ?_⟩
      · intro number hnumber
        obtain ⟨process, hfit⟩ := h.fit number hnumber
        refine ⟨process, hfit.congr rfl ?_⟩
        rw [Array.getElem?_push, if_neg (Nat.ne_of_lt hfit.lt_size)]
      · exact ⟨_, fit_newborn hfits rfl Array.getElem?_push_size rfl (h.pinned_le hvalid)⟩

/-! ## Turns -/

/-- What becomes of one process does not keep another from going on. -/
theorem Fit.resume_other {other : ProcessId} {otherProcess process' : UserProcess}
    {session : Session Aging} {ready : List ProcessId} (h : machine.Fit other otherProcess)
    (hsettings : session.memory.settings = machine.memory.settings) (hother : number ≠ other) :
    (machine.resume session number process' ready).Fit other otherProcess := by
  exact h.congr hsettings (getElem?_resume_of_ne hother _ _ _ _)

/-- A process whose search has succeeded may go on. -/
theorem Fit.resume_self {key : Nat} {session : Session Aging} {events : List Event}
    {ready : List ProcessId} (h : machine.Fit number process)
    (hshared : machine.memory.counters.Consistent)
    (hsearch : (machine.session process).search process.arraySize key = ⟨.ok (), session, events⟩) :
    (machine.resume session number
      { process with currentSearch := process.currentSearch + 1 } ready).Fit number
      { process with space := session.space, currentSearch := process.currentSearch + 1 } := by
  have hrunning : ((machine.session process).search process.arraySize key).outcome ≠ .crash := by
    rw [hsearch]
    exact nofun
  have hfixed := Session.search_fixed hrunning
  have hconsistent := Session.search_consistent h.consistent hshared hrunning
  have hstanding := h.standing.search (congrArg Reply.outcome hsearch)
  rw [hsearch] at hfixed hconsistent hstanding
  obtain ⟨hsettings, hprocess, hsize⟩ := hfixed
  refine ⟨getElem?_resume_self h.lt_size _ _ _, hprocess.trans h.process_eq, ?_, ?_, hstanding,
    hconsistent.1⟩
  · calc
      session.space.table.size = process.space.table.size := hsize
      _ = machine.memory.settings.tableEntries := h.size_table
      _ = session.memory.settings.tableEntries := (congrArg Settings.tableEntries hsettings).symm
  · calc
      Memory.arrayFits? session.memory.settings process.arraySize =
          Memory.arrayFits? machine.memory.settings process.arraySize :=
        congrArg (Memory.arrayFits? · process.arraySize) hsettings
      _ = some true := h.fits

/-- The shared counters after a search. -/
theorem Fit.shared_consistent {key : Nat} {session : Session Aging} {events : List Event}
    {outcome : Outcome PagingError Unit} (h : machine.Fit number process)
    (hshared : machine.memory.counters.Consistent)
    (hsearch : (machine.session process).search process.arraySize key = ⟨outcome, session, events⟩)
    (hrunning : outcome ≠ .crash) : session.memory.counters.Consistent := by
  have hconsistent := Session.search_consistent h.consistent hshared
    (by rw [hsearch]; exact hrunning)
  rw [hsearch] at hconsistent
  exact hconsistent.2

variable {waiting : List ProcessId}

/-- The process at the front is in the queue just there. -/
theorem Orderly.front (h : machine.Orderly settings) (hready : machine.ready = number :: waiting) :
    number ∉ waiting ∧ waiting.Nodup := by
  have hnodup := h.nodup
  rw [hready] at hnodup
  exact List.nodup_cons.1 hnodup

/-- Whoever waits may go on, whatever becomes of the process at the front. -/
theorem Orderly.fit_waiting (h : machine.Orderly settings)
    (hready : machine.ready = number :: waiting) {session : Session Aging}
    (hsettings : session.memory.settings = machine.memory.settings) {process' : UserProcess}
    {ready : List ProcessId} :
    ∀ other ∈ waiting, ∃ process,
      (machine.resume session number process' ready).Fit other process := by
  intro other hother
  obtain ⟨process, hprocess⟩ := h.fit other (hready ▸ List.mem_cons_of_mem _ hother)
  refine ⟨process, hprocess.resume_other hsettings ?_⟩
  rintro rfl
  exact (h.front hready).1 hother

theorem Orderly.turn (h : machine.Orderly settings) {reply : Answer (Machine Aging) Bool}
    (hturn : Turn machine reply) : reply.state.Orderly settings := by
  have hsettings := hturn.settings_eq
  cases hturn with
  | idle => exact h
  | failed hready hfound hkey hsearch =>
    have hfit := h.fit_front hready hfound
    exact ⟨hsettings.trans h.settings_eq, hfit.shared_consistent h.consistent hsearch nofun,
      (h.front hready).2, h.fit_waiting hready hsettings⟩
  | requeued hready hfound hkey hsearch hmore =>
    have hfit := h.fit_front hready hfound
    refine ⟨hsettings.trans h.settings_eq, hfit.shared_consistent h.consistent hsearch nofun, ?_,
      List.forall_mem_append.2 ⟨h.fit_waiting hready hsettings, List.forall_mem_singleton.2 ?_⟩⟩
    · exact (List.perm_append_singleton _ _).nodup_iff.2 (List.nodup_cons.2 (h.front hready))
    · exact ⟨_, hfit.resume_self h.consistent hsearch⟩
  | ended hready hfound hkey hsearch hlast =>
    have hshared :=
      (h.fit_front hready hfound).shared_consistent h.consistent hsearch nofun
    exact ⟨hsettings.trans h.settings_eq, hshared, (h.front hready).2,
      h.fit_waiting hready hsettings⟩
  | keyless hready hfound hkey =>
    exact ⟨hsettings.trans h.settings_eq, h.consistent, (h.front hready).2,
      h.fit_waiting hready hsettings⟩

/-! ## Any calls -/

theorem Orderly.serve (h : machine.Orderly settings) (hvalid : settings.Valid) {call : Call}
    (hrunning : (machine.serve call).outcome ≠ .crash) :
    (machine.serve call).state.Orderly settings := by
  refine serve_preserves (Orderly settings) ?_ ?_ ?_ h hrunning
  · exact fun later hlater ↦ hlater.pinned_le hvalid
  · exact fun later arraySize keys reply hlater hspawn ↦ hlater.spawn hvalid hspawn
  · exact fun later reply hlater hturn ↦ hlater.turn hturn

theorem Orderly.after (h : machine.Orderly settings) (hvalid : settings.Valid) {calls : List Call}
    (hendures : machine.Endures calls) : (machine.after calls).Orderly settings :=
  after_preserves (Orderly settings) (fun _ _ hlater hrunning ↦ hlater.serve hvalid hrunning) h
    hendures

end PagedMemory.Machine
