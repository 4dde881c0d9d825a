import PagedMemory.Machine.Ownership
import PagedMemory.Proofs.Calls

/-!
# No frame comes or goes

A session holds the frames that its table maps and those on the free list.  A reference moves frames
between the two and changes nothing else about them: `Session.Touch.held_perm` compares the held
frames as lists up to order, so that no frame is dropped and none is doubled.  The frame field of an
entry has 14 bits, which is where the frames have to lie below `Entry.frameLimit`.

A turn touches the table of one process, and the frames of the others stay where they are.  So a
turn moves frames too, and so does a spawn that succeeds.  Only a spawn that runs out of frames
loses some: all that were free.  `Machine.Accounts` says that every frame of the machine is held or
lost, and once.
-/

namespace PagedMemory

namespace Session

variable {ρ : Type}

/-- The frames that the process maps, and the free ones. -/
def held (session : Session ρ) : List FrameNumber :=
  session.space.table.frames ++ session.memory.free.numbers

/-- The process maps a page to the frame, and the stamp says so. -/
def GivesUp (session : Session ρ) (free : FreeFrame) : Prop :=
  ∃ page, (page, free.frame) ∈ session.space.table.resident ∧
    free.last = some ⟨session.space.process, page⟩

/-- All frames of the session fit into the frame field of an entry. -/
def Storable (session : Session ρ) : Prop :=
  ∀ frame ∈ session.held, frame.toNat < Entry.frameLimit

theorem Storable.of_perm {left right : Session ρ} (h : left.Storable)
    (hperm : right.held.Perm left.held) : right.Storable :=
  fun frame hframe ↦ h frame (hperm.mem_iff.1 hframe)

/-- The frame that an exchange takes was free, or is that of the victim. -/
theorem mem_held_of_exchange? {session : Session ρ} {victim : Nat} {slot : Slot}
    {left : FrameNumber} (hslot : session.space.table.slot? victim = some slot)
    (hleft : slot.entry.frame? = some left) {incoming leaving : Holder} {chosen : FreeFrame}
    {affinity : Affinity} {rest : FreeList}
    (hexchange : session.memory.free.exchange? incoming left leaving =
      some (chosen, affinity, rest)) : chosen.frame ∈ session.held := by
  have hexchanged := FreeList.exchange?_numbers_perm hexchange
  obtain hsame | hfree := List.mem_cons.1 (hexchanged.mem_iff.2 List.mem_cons_self)
  · rw [hsame]
    have hunmapped := PageTable.frames_unmap_perm hslot hleft
    exact List.mem_append_left _ (hunmapped.mem_iff.2 List.mem_cons_self)
  · exact List.mem_append_right _ hfree

variable [VictimPolicy ρ]

/-- A reference moves frames between the table and the free list. -/
theorem Touch.held_perm {session : Session ρ} {page : Nat} {reply : Answer (Session ρ) Access}
    (h : Touch session page reply) (hstorable : session.Storable) :
    reply.state.held.Perm session.held := by
  rw [List.perm_iff_count]
  intro frame
  cases h with
  | hit => simp only [held, table_settle, free_settle, PageTable.frames_markReferenced]
  | coldMiss habsent hroomy hpop =>
    have hnumbers := FreeList.numbers_of_pop?_eq_some hpop
    have hfree := FreeList.mem_numbers_of_pop? hpop
    have hlimit := hstorable _ (List.mem_append_right _ hfree)
    have hmapped := (PageTable.frames_map_perm habsent hlimit).count_eq frame
    simp only [held, table_settle, free_settle, hnumbers, List.count_append, List.count_cons,
      List.count_nil] at hmapped ⊢
    omega
  | noVictim => rfl
  | framelessVictim habsent hshort hpick hvictim =>
    obtain ⟨slot, hslot, hinvalid⟩ := hvictim
    have hkept := PageTable.frames_unmap_of_absent hslot (Entry.frame?_eq_none_iff.2 hinvalid)
    simp only [held, table_settle, free_settle, hkept]
  | @warmMiss habsent _ victim _ _ slot left hslot hleft chosen affinity rest hexchange =>
    have hunmapped := PageTable.frames_unmap_perm hslot hleft
    have hexchanged := FreeList.exchange?_numbers_perm hexchange
    have hmapped := (PageTable.frames_map_perm (habsent.unmap victim)
      (hstorable _ (mem_held_of_exchange? hslot hleft hexchange))).count_eq frame
    have hunmapped' := hunmapped.count_eq frame
    have hexchanged' := hexchanged.count_eq frame
    simp only [held, table_settle, free_settle, List.count_append, List.count_cons] at *
    omega

/-- In a reference a frame gets onto the free list only from the table, and is stamped with the page
that it held there. -/
theorem Touch.mem_free {session : Session ρ} {page : Nat} {reply : Answer (Session ρ) Access}
    (h : Touch session page reply) {free : FreeFrame}
    (hfree : free ∈ reply.state.memory.free.frames) :
    free ∈ session.memory.free.frames ∨ session.GivesUp free := by
  cases h with
  | hit | noVictim | framelessVictim => exact .inl hfree
  | coldMiss _ _ hpop =>
    left
    rw [(FreeList.of_pop?_eq_some hpop).1]
    exact Array.mem_push_of_mem _ hfree
  | warmMiss _ _ _ hslot hframe hexchange =>
    have hmoved := (FreeList.exchange?_perm hexchange).mem_iff.2
      (List.mem_cons_of_mem _ (Array.mem_toList_iff.2 hfree))
    obtain rfl | hold := List.mem_cons.1 hmoved
    · exact .inr ⟨_, PageTable.mem_resident_iff.2 ⟨_, hslot, hframe⟩, rfl⟩
    · exact .inl (Array.mem_toList_iff.1 hold)

/-- A search moves frames, whether or not it fails. -/
theorem search_held_perm {session : Session ρ} {arraySize key : Nat} (hstorable : session.Storable)
    (hrunning : (session.search arraySize key).outcome ≠ .crash) :
    (session.search arraySize key).state.held.Perm session.held := by
  refine search_preserves (fun later ↦ later.held.Perm session.held) ?_ ?_ (.refl _) hrunning
  · intro later page reply _ hlater htouch
    calc
      reply.state.held.Perm later.held := htouch.held_perm (hstorable.of_perm hlater)
      List.Perm _ session.held := hlater
  · intro later hlater
    have htick : (later.withTable later.space.table.tick).held = later.held := by
      simp only [held, withTable, PageTable.frames_tick]
    rw [htick]
    exact hlater

omit [VictimPolicy ρ] in
/-- Giving everything back moves frames. -/
theorem released_held_perm (session : Session ρ) : session.released.held.Perm session.held := by
  have hfree : session.released.memory.free.numbers =
      session.memory.free.numbers ++ session.space.table.frames :=
    FreeList.numbers_releaseAll _ _ _
  have htable : session.released.space.table.frames = [] := PageTable.frames_vacated _
  unfold held
  rw [hfree, htable, List.nil_append]
  exact List.perm_append_comm

omit [VictimPolicy ρ] in
theorem mem_free_released {session : Session ρ} {free : FreeFrame}
    (hfree : free ∈ session.released.memory.free.frames) :
    free ∈ session.memory.free.frames ∨ session.GivesUp free := by
  have hlist : free ∈ (session.memory.free.releaseAll session.space.process
      session.space.table.resident).frames.toList := Array.mem_toList_iff.2 hfree
  rw [FreeList.frames_releaseAll, List.mem_append, List.mem_map] at hlist
  obtain hold | ⟨⟨page, frame⟩, hpair, rfl⟩ := hlist
  · exact .inl (Array.mem_toList_iff.1 hold)
  · exact .inr ⟨page, hpair, rfl⟩

end Session

namespace Machine

variable {ρ : Type}

/-- A machine around one of its processes: the frames of the others, and those of its session. -/
theorem exists_held_split {machine : Machine ρ} {number : ProcessId} {process : UserProcess}
    (hfound : machine.processes[number]? = some process) :
    ∃ others : List FrameNumber,
      machine.heldFrames.Perm (others ++ (machine.session process).held) ∧
        ∀ session process' ready,
          (machine.resume session number process' ready).heldFrames.Perm
            (others ++ session.held) := by
  let mapped (process : UserProcess) : List FrameNumber := process.space.table.frames
  obtain ⟨hinside, hget⟩ := Array.getElem?_eq_some_iff.1 hfound
  have hlist : number < machine.processes.toList.length := by simpa using hinside
  have hsplit : machine.processes.toList =
      machine.processes.toList.take number ++ process ::
        machine.processes.toList.drop (number + 1) := by
    have hdrop := List.drop_eq_getElem_cons hlist
    rw [Array.getElem_toList, hget] at hdrop
    rw [← hdrop, List.take_append_drop]
  have hmapped : machine.mappedFrames =
      (machine.processes.toList.take number).flatMap mapped ++
        (mapped process ++ (machine.processes.toList.drop (number + 1)).flatMap mapped) := by
    rw [← List.flatMap_cons, ← List.flatMap_append, ← hsplit]
    rfl
  refine ⟨(machine.processes.toList.take number).flatMap mapped ++
    (machine.processes.toList.drop (number + 1)).flatMap mapped, ?_, ?_⟩
  · rw [heldFrames, hmapped, List.perm_iff_count]
    intro frame
    simp only [Session.held, session, freeFrames, FreeList.numbers, mapped, List.count_append]
    omega
  · intro session process' ready
    have hset : (machine.resume session number process' ready).mappedFrames =
        (machine.processes.toList.take number).flatMap mapped ++
          (session.space.table.frames ++
            (machine.processes.toList.drop (number + 1)).flatMap mapped) := by
      unfold mappedFrames resume
      rw [Array.toList_setIfInBounds, List.set_eq_take_append_cons_drop, if_pos hlist,
        List.flatMap_append, List.flatMap_cons]
      rfl
    rw [heldFrames, hset, List.perm_iff_count]
    intro frame
    simp only [Session.held, resume, freeFrames, FreeList.numbers, List.count_append]
    omega

/-- What moves frames in the session of one process moves frames in the machine. -/
theorem resume_held_perm {machine : Machine ρ} {number : ProcessId} {process process' : UserProcess}
    {session : Session ρ} {ready : List ProcessId}
    (hfound : machine.processes[number]? = some process)
    (hsession : session.held.Perm (machine.session process).held) :
    (machine.resume session number process' ready).heldFrames.Perm machine.heldFrames := by
  obtain ⟨others, hbefore, hafter⟩ := exists_held_split hfound
  calc
    (machine.resume session number process' ready).heldFrames.Perm (others ++ session.held) :=
      hafter session process' ready
    List.Perm _ (others ++ (machine.session process).held) := hsession.append_left others
    List.Perm _ machine.heldFrames := hbefore.symm

/-- All frames of the machine fit into the frame field of an entry. -/
def Storable (machine : Machine ρ) : Prop :=
  ∀ frame ∈ machine.heldFrames, frame.toNat < Entry.frameLimit

theorem Storable.session {machine : Machine ρ} {number : ProcessId} {process : UserProcess}
    (h : machine.Storable) (hfound : machine.processes[number]? = some process) :
    (machine.session process).Storable := by
  obtain ⟨others, hbefore, _⟩ := exists_held_split hfound
  intro frame hframe
  exact h frame (hbefore.mem_iff.2 (List.mem_append_right _ hframe))

/-- A turn moves frames, whether or not it fails. -/
theorem Turn.held_perm [VictimPolicy ρ] {machine : Machine ρ} {reply : Answer (Machine ρ) Bool}
    (h : Turn machine reply) (hstorable : machine.Storable) :
    reply.state.heldFrames.Perm machine.heldFrames := by
  have hmoved {number : ProcessId} {process : UserProcess} {key : Nat}
      {outcome : Outcome PagingError Unit} {session : Session ρ} {events : List Event}
      (hfound : machine.processes[number]? = some process)
      (hsearch : (machine.session process).search process.arraySize key =
        ⟨outcome, session, events⟩) (hrunning : outcome ≠ .crash) :
      session.held.Perm (machine.session process).held := by
    have hperm := Session.search_held_perm (hstorable.session hfound)
      (by rw [hsearch]; exact hrunning)
    rw [hsearch] at hperm
    exact hperm
  cases h with
  | idle => exact .refl _
  | failed hready hfound hkey hsearch =>
    exact resume_held_perm hfound (hmoved hfound hsearch nofun)
  | requeued hready hfound hkey hsearch hmore =>
    exact resume_held_perm hfound (hmoved hfound hsearch nofun)
  | ended hready hfound hkey hsearch hlast =>
    have hkept := hmoved hfound hsearch nofun
    exact resume_held_perm hfound ((Session.released_held_perm _).trans hkept)
  | keyless hready hfound hkey =>
    exact resume_held_perm hfound (Session.released_held_perm _)

/-- The frames that are lost when a spawn goes this way. -/
def lostBy (machine : Machine ρ) {α : Type} : Outcome PagingError α → List FrameNumber
  | .error (.outOfFrames _) => machine.freeFrames
  | _ => []

theorem lostBy_map (machine : Machine ρ) {α β : Type} (change : α → β)
    (outcome : Outcome PagingError α) :
    machine.lostBy (outcome.map change) = machine.lostBy outcome := by
  cases outcome with
  | ok value => rfl
  | error reason => cases reason <;> rfl
  | crash => rfl

/-- The frames of the pinned pages come from the end of the free list. -/
theorem frames_newborn_perm {machine : Machine ρ} {arraySize : Nat} {keys : Array Nat}
    (hpinned : machine.memory.settings.essentialPages ≤ machine.memory.settings.tableEntries)
    (hstorable : machine.Storable) :
    (machine.newborn arraySize keys).space.table.frames.Perm
      (machine.memory.free.stack.take machine.memory.settings.essentialPages) := by
  have hmapped := PageTable.frames_mapFrom_perm
    (show 0 + (machine.memory.free.stack.take
        machine.memory.settings.essentialPages).length ≤
      (PageTable.blank machine.memory.settings.tableEntries).size by
        rw [List.length_take, PageTable.size_blank]; omega)
    (fun other _ _ ↦ PageTable.not_resident_blank _ other)
    (fun frame hframe ↦ hstorable frame (List.mem_append_right _
      (List.mem_reverse.1 (List.mem_of_mem_take hframe))))
  rw [PageTable.frames_blank, List.append_nil] at hmapped
  exact hmapped

/-- A spawn moves frames, and loses all that were free if it runs out of them. -/
theorem Spawn.held_perm {machine : Machine ρ} {arraySize : Nat} {keys : Array Nat}
    {reply : Answer (Machine ρ) ProcessId} (h : Spawn machine arraySize keys reply)
    (hpinned : machine.memory.settings.essentialPages ≤ machine.memory.settings.tableEntries)
    (hstorable : machine.Storable) :
    (reply.state.heldFrames ++ machine.lostBy reply.outcome).Perm machine.heldFrames := by
  cases h with
  | refused => simp [lostBy]
  | drained hfits hscarce =>
    have hfree : (machine.memory.free.dropLast
        machine.memory.settings.essentialPages).frames.toList.map (·.frame) = [] :=
      FreeList.numbers_dropLast_of_le (Nat.le_of_lt hscarce)
    simp only [heldFrames, mappedFrames, freeFrames, lostBy, hfree, List.append_nil]
    exact .refl _
  | created hfits hplenty =>
    have hloaded : (machine.newborn arraySize keys).space.table.frames.Perm
        (machine.memory.free.stack.take machine.memory.settings.essentialPages) :=
      frames_newborn_perm hpinned hstorable
    rw [List.perm_iff_count]
    intro frame
    have hnewborn := hloaded.count_eq frame
    have hfree : (machine.memory.free.dropLast
          machine.memory.settings.essentialPages).numbers.count frame =
        (machine.memory.free.stack.drop machine.memory.settings.essentialPages).count frame := by
      rw [FreeList.numbers_dropLast, List.count_reverse]
    have hstack : machine.memory.free.numbers.count frame =
        (machine.memory.free.stack.take machine.memory.settings.essentialPages).count frame +
          (machine.memory.free.stack.drop machine.memory.settings.essentialPages).count frame := by
      rw [← List.count_append, List.take_append_drop, FreeList.stack, List.count_reverse]
    simp only [FreeList.numbers, PageTable.frames] at hnewborn hfree hstack
    simp only [heldFrames, mappedFrames, freeFrames, lostBy, Array.toList_push, List.flatMap_append,
      List.flatMap_singleton, List.append_nil, List.count_append, hfree, hnewborn, hstack]
    omega

/-! ## The accounts of a machine -/

end Machine

/-- The numbers of all frames of a machine. -/
def Settings.allFrames (settings : Settings) : List FrameNumber :=
  (List.range settings.userFrames).map UInt16.ofNat

theorem Settings.toNat_of_mem_range {settings : Settings} (hvalid : settings.Valid) {index : Nat}
    (hindex : index < settings.userFrames) : (UInt16.ofNat index).toNat = index := by
  have hlimit := (Settings.valid_iff.1 hvalid).1.2
  unfold Entry.frameLimit at hlimit
  rw [UInt16.toNat_ofNat']
  omega

theorem Settings.mem_allFrames_iff {settings : Settings} (hvalid : settings.Valid)
    {frame : FrameNumber} : frame ∈ settings.allFrames ↔ frame.toNat < settings.userFrames := by
  unfold allFrames
  rw [List.mem_map]
  constructor
  · rintro ⟨index, hindex, rfl⟩
    rw [toNat_of_mem_range hvalid (List.mem_range.1 hindex)]
    exact List.mem_range.1 hindex
  · intro hframe
    exact ⟨frame.toNat, List.mem_range.2 hframe, UInt16.ofNat_toNat⟩

theorem Settings.nodup_allFrames {settings : Settings} (hvalid : settings.Valid) :
    settings.allFrames.Nodup := by
  unfold allFrames
  apply List.Nodup.map_on _ List.nodup_range
  intro left hleft right hright hsame
  rw [← toNat_of_mem_range hvalid (List.mem_range.1 hleft), hsame,
    toNat_of_mem_range hvalid (List.mem_range.1 hright)]

namespace Machine

variable {ρ : Type}

/-- Every frame of a machine with these settings is held or lost, and once. -/
structure Accounts (settings : Settings) (machine : Machine ρ) (lost : List FrameNumber) :
    Prop where
  settings_eq : machine.memory.settings = settings
  complete : (machine.heldFrames ++ lost).Perm settings.allFrames

theorem accounts_create {settings : Settings} {policy : ρ} {machine : Machine ρ}
    (hcreate : create settings policy = .ok machine) :
    settings.Valid ∧ machine.Accounts settings [] := by
  obtain ⟨hvalid, hmachine⟩ := create_eq_ok_iff.1 hcreate
  subst hmachine
  refine ⟨hvalid, rfl, ?_⟩
  rw [List.append_nil, Settings.allFrames, ← FreeList.numbers_full _ settings.fallback]
  exact .refl _

section

variable {settings : Settings} {machine : Machine ρ} {lost : List FrameNumber}

theorem Accounts.storable (h : machine.Accounts settings lost) (hvalid : settings.Valid) :
    machine.Storable := by
  intro frame hframe
  have hin := h.complete.mem_iff.1 (List.mem_append_left lost hframe)
  have hlt := (Settings.mem_allFrames_iff hvalid).1 hin
  have hlimit := (Settings.valid_iff.1 hvalid).1.2
  omega

theorem Accounts.pinned_le (h : machine.Accounts settings lost) (hvalid : settings.Valid) :
    machine.memory.settings.essentialPages ≤ machine.memory.settings.tableEntries := by
  rw [h.settings_eq]
  exact hvalid.pinned_le

variable [VictimPolicy ρ]

theorem Accounts.turn (h : machine.Accounts settings lost) (hvalid : settings.Valid)
    {reply : Answer (Machine ρ) Bool} (hturn : Turn machine reply) :
    reply.state.Accounts settings lost where
  settings_eq := hturn.settings_eq.trans h.settings_eq
  complete := by
    have hmoved := hturn.held_perm (h.storable hvalid)
    calc
      (reply.state.heldFrames ++ lost).Perm (machine.heldFrames ++ lost) := hmoved.append_right lost
      List.Perm _ settings.allFrames := h.complete

omit [VictimPolicy ρ] in
/-- Accounts after frames have moved and some have been lost. -/
theorem Accounts.of_moved (h : machine.Accounts settings lost) {later : Machine ρ}
    {more : List FrameNumber} (hsettings : later.memory.settings = machine.memory.settings)
    (hmoved : (later.heldFrames ++ more).Perm machine.heldFrames) :
    later.Accounts settings (lost ++ more) where
  settings_eq := hsettings.trans h.settings_eq
  complete := by
    calc
      (later.heldFrames ++ (lost ++ more)).Perm (later.heldFrames ++ (more ++ lost)) :=
        List.perm_append_comm.append_left _
      List.Perm _ (later.heldFrames ++ more ++ lost) := by
        rw [List.append_assoc]
      List.Perm _ (machine.heldFrames ++ lost) := hmoved.append_right lost
      List.Perm _ settings.allFrames := h.complete

omit [VictimPolicy ρ] in
theorem Accounts.spawn (h : machine.Accounts settings lost) (hvalid : settings.Valid)
    {arraySize : Nat} {keys : Array Nat} {reply : Answer (Machine ρ) ProcessId}
    (hspawn : Spawn machine arraySize keys reply) :
    reply.state.Accounts settings (lost ++ machine.lostBy reply.outcome) :=
  h.of_moved hspawn.settings_eq (hspawn.held_perm (h.pinned_le hvalid) (h.storable hvalid))

end

end Machine

namespace Visit

variable {ρ : Type} [VictimPolicy ρ]

/-- The call is a spawn, and it fails for want of frames. -/
def RunsDry (visit : Visit ρ) : Prop :=
  (∃ arraySize keys, visit.call = .spawn arraySize keys) ∧
    ∃ process, visit.reply.outcome = .error (.outOfFrames process)

/-- The frames that are lost in the call. -/
def lostFrames (visit : Visit ρ) : List FrameNumber :=
  match visit.call with
  | .spawn _ _ => visit.before.lostBy visit.reply.outcome
  | _ => []

theorem mem_lostFrames_iff {visit : Visit ρ} {frame : FrameNumber} :
    frame ∈ visit.lostFrames ↔ visit.RunsDry ∧ frame ∈ visit.before.freeFrames := by
  unfold lostFrames RunsDry
  cases hcall : visit.call with
  | spawn arraySize keys =>
    simp only [Machine.lostBy]
    constructor
    · split
      · rename_i process houtcome
        exact fun hframe ↦ ⟨⟨⟨arraySize, keys, rfl⟩, process, houtcome⟩, hframe⟩
      · exact fun hframe ↦ absurd hframe List.not_mem_nil
    · rintro ⟨⟨_, process, houtcome⟩, hframe⟩
      rw [houtcome]
      exact hframe
  | turn => simp
  | run => simp

end Visit

namespace Machine

variable {ρ : Type} [VictimPolicy ρ] {settings : Settings} {machine : Machine ρ}
  {lost : List FrameNumber}

theorem Accounts.serve (h : machine.Accounts settings lost) (hvalid : settings.Valid) {call : Call}
    (hrunning : (machine.serve call).outcome ≠ .crash) :
    (machine.serve call).state.Accounts settings (lost ++ (Visit.mk machine call).lostFrames) := by
  obtain ⟨arraySize, keys, rfl, hcall, hstate⟩ | ⟨rfl, hcall, hstate⟩ | ⟨rfl, hcall, hstate⟩ :=
    serve_cases hrunning
  · have hlost : (Visit.mk machine (.spawn arraySize keys)).lostFrames =
        machine.lostBy (machine.spawn arraySize keys).outcome := by
      simp only [Visit.lostFrames, Visit.reply, serve_spawn, lostBy_map]
    rw [hstate, hlost]
    exact h.spawn hvalid (spawn_cases (h.pinned_le hvalid) hcall)
  · rw [hstate, Visit.lostFrames, List.append_nil]
    exact h.turn hvalid (turn_cases hcall)
  · rw [hstate, Visit.lostFrames, List.append_nil]
    exact takeTurns_preserves (fun later ↦ later.Accounts settings lost)
      (fun later reply hlater hturn ↦ hlater.turn hvalid hturn) h hcall

/-- Whatever is asked of a machine, its frames are held, or lost in spawns that ran dry. -/
theorem Accounts.after (h : machine.Accounts settings lost) (hvalid : settings.Valid)
    {calls : List Call} (hendures : machine.Endures calls) :
    (machine.after calls).Accounts settings
      (lost ++ (machine.visits calls).flatMap Visit.lostFrames) := by
  induction calls generalizing machine lost with
  | nil =>
    rw [visits, List.flatMap_nil, List.append_nil]
    exact h
  | cons call calls ih =>
    obtain ⟨hfirst, hrest⟩ := endures_cons_iff.1 hendures
    have hnext := ih (h.serve hvalid hfirst) hrest
    rw [List.append_assoc] at hnext
    exact hnext

end Machine

end PagedMemory
