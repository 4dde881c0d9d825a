import PagedMemory.Proofs.Conservation

/-!
# Working a machine by hand

In a machine the ready queue decides who does what.  Its memory can also be worked by hand:
processes are created under any number, also under one that is taken, and touch pages and give their
frames back in any order, also when they have left before.  `Machine.handle` answers one such
request, `Machine.worked` is the machine that a sequence of requests leaves, and `Machine.stages`
are the machines on the way.  The queue plays no part in this.

`Machine.Handling` lists the ways in which a request can go, as `Machine.Turn` does for a turn.
Frames are conserved here too, and a frame can get onto the free list only from a page table.
-/

namespace PagedMemory

/-- What can be asked of a machine that is worked by hand.  Processes are named by their position in
the order of creation. -/
inductive Request where
  | create (process : ProcessId) (arraySize : Nat) (keys : Array Nat)
  | reference (position page : Nat)
  | release (position : Nat)
deriving DecidableEq

/-- How a request was served. -/
inductive Service where
  | created (position : Nat)
  | accessed (access : Access)
  | released
deriving DecidableEq

namespace Machine

variable {ρ : Type}

/-- A page of a process with this number is in this frame. -/
def Holds (machine : Machine ρ) (holder : Holder) (frame : FrameNumber) : Prop :=
  ∃ process ∈ machine.processes.toList, process.space.process = holder.process ∧
    (holder.page, frame) ∈ process.space.table.resident

instance (machine : Machine ρ) (holder : Holder) (frame : FrameNumber) :
    Decidable (machine.Holds holder frame) :=
  inferInstanceAs (Decidable (∃ process ∈ machine.processes.toList, _ ∧ _))

theorem holds_of_resident {machine : Machine ρ} {position page : Nat} {process : UserProcess}
    {frame : FrameNumber} (hfound : machine.processes[position]? = some process)
    (hresident : (page, frame) ∈ process.space.table.resident) :
    machine.Holds ⟨process.space.process, page⟩ frame :=
  ⟨process, Array.mem_toList_iff.2 (Array.mem_of_getElem? hfound), rfl, hresident⟩

theorem Holds.mem_mappedFrames {machine : Machine ρ} {holder : Holder} {frame : FrameNumber}
    (h : machine.Holds holder frame) : frame ∈ machine.mappedFrames := by
  obtain ⟨process, hprocess, _, hresident⟩ := h
  exact List.mem_flatMap.2 ⟨process, hprocess, List.mem_map_of_mem hresident⟩

/-- The process that is created under a number. -/
def newcomer (machine : Machine ρ) (process : ProcessId) (arraySize : Nat) (keys : Array Nat) :
    UserProcess :=
  let newborn := machine.newborn arraySize keys
  { newborn with space := { newborn.space with process := process } }

variable [VictimPolicy ρ]

/-- Serves a request.  A request of a process that does not exist cannot be made, and counts as a
crash. -/
def handle (machine : Machine ρ) : Request → Answer (Machine ρ) Service
  | .create process arraySize keys =>
    ((machine.memory.createProcess process arraySize keys).mapState
      fun memory ↦ { machine with memory := memory }).andThen fun created machine ↦
        .ok (.created machine.processes.size)
          { machine with processes := machine.processes.push created }
  | .reference position page =>
    match machine.processes[position]? with
    | none => .crash machine
    | some process =>
      let reply := (machine.session process).reference page
      ⟨reply.outcome.map .accessed, machine.resume reply.state position process machine.ready,
        reply.events⟩
  | .release position =>
    match machine.processes[position]? with
    | none => .crash machine
    | some process =>
      let reply := (machine.session process).release
      ⟨reply.outcome.map fun _ ↦ .released,
        machine.resume reply.state position process machine.ready, reply.events⟩

/-- The machine that a sequence of requests leaves.  A request that fails ends nothing. -/
def worked (machine : Machine ρ) : List Request → Machine ρ
  | [] => machine
  | request :: requests => (machine.handle request).state.worked requests

/-- The machines on the way, the first and the last included. -/
def stages (machine : Machine ρ) : List Request → List (Machine ρ)
  | [] => [machine]
  | request :: requests => machine :: (machine.handle request).state.stages requests

/-- No request of the sequence crashes. -/
def Bears (machine : Machine ρ) : List Request → Prop
  | [] => True
  | request :: requests =>
    (machine.handle request).outcome ≠ .crash ∧ (machine.handle request).state.Bears requests

instance decidableBears : (machine : Machine ρ) → (requests : List Request) →
    Decidable (machine.Bears requests)
  | _, [] => .isTrue trivial
  | machine, request :: requests =>
    have := decidableBears (machine.handle request).state requests
    inferInstanceAs (Decidable (_ ∧ _))

/-! ## How a request goes -/

/-- The ways in which a request can go, with the replies that they give. -/
inductive Handling (machine : Machine ρ) : Request → Answer (Machine ρ) Service → Prop
  | refused {process : ProcessId} {arraySize : Nat} {keys : Array Nat}
    (hlarge : Memory.arrayFits? machine.memory.settings arraySize = some false) :
    Handling machine (.create process arraySize keys)
      ⟨.error (.addressSpaceOverflow process arraySize machine.memory.settings.tableEntries),
        machine, []⟩
  | drained {process : ProcessId} {arraySize : Nat} {keys : Array Nat}
    (hfits : Memory.arrayFits? machine.memory.settings arraySize = some true)
    (hscarce : machine.memory.free.size < machine.memory.settings.essentialPages) :
    Handling machine (.create process arraySize keys)
      ⟨.error (.outOfFrames process),
        { machine with memory := { machine.memory with
            free := machine.memory.free.dropLast machine.memory.settings.essentialPages } }, []⟩
  | created {process : ProcessId} {arraySize : Nat} {keys : Array Nat}
    (hfits : Memory.arrayFits? machine.memory.settings arraySize = some true)
    (hplenty : machine.memory.settings.essentialPages ≤ machine.memory.free.size) :
    Handling machine (.create process arraySize keys)
      ⟨.ok (.created machine.processes.size),
        { machine with
          memory := { machine.memory with
            free := machine.memory.free.dropLast machine.memory.settings.essentialPages }
          processes := machine.processes.push (machine.newcomer process arraySize keys) }, []⟩
  | referenced {position page : Nat} {process : UserProcess} {reply : Answer (Session ρ) Access}
    (hfound : machine.processes[position]? = some process)
    (htouch : Session.Touch (machine.session process) page reply) :
    Handling machine (.reference position page)
      ⟨reply.outcome.map .accessed, machine.resume reply.state position process machine.ready,
        reply.events⟩
  | released {position : Nat} {process : UserProcess}
    (hfound : machine.processes[position]? = some process) :
    Handling machine (.release position)
      ⟨.ok .released,
        machine.resume (machine.session process).released position process machine.ready,
        [.framesReleased process.space.process
          (machine.session process).released.memory.free.size]⟩

/-- Creating a process goes in one of the first three ways, unless it crashes. -/
theorem handle_create_cases {machine : Machine ρ} {process : ProcessId} {arraySize : Nat}
    {keys : Array Nat}
    (hpinned : machine.memory.settings.essentialPages ≤ machine.memory.settings.tableEntries)
    (hrunning : (machine.handle (.create process arraySize keys)).outcome ≠ .crash) :
    Handling machine (.create process arraySize keys)
      (machine.handle (.create process arraySize keys)) := by
  unfold handle at hrunning ⊢
  have hcreates := Reply.ne_crash_of_andThen hrunning
  simp only [Reply.mapState] at hcreates
  obtain ⟨hlarge, hcreated⟩ | ⟨hfits, hscarce, hcreated⟩ | ⟨hfits, hplenty, hcreated⟩ :=
    createProcess_cases hpinned hcreates
  · simp only [hcreated]
    exact .refused hlarge
  · simp only [hcreated]
    exact .drained hfits hscarce
  · simp only [hcreated]
    exact .created hfits hplenty

/-- A request that does not crash goes in one of these ways. -/
theorem handle_cases {machine : Machine ρ} {request : Request}
    (hpinned : machine.memory.settings.essentialPages ≤ machine.memory.settings.tableEntries)
    (hrunning : (machine.handle request).outcome ≠ .crash) :
    Handling machine request (machine.handle request) := by
  cases request with
  | create process arraySize keys => exact handle_create_cases hpinned hrunning
  | reference position page =>
    unfold handle at hrunning ⊢
    cases hfound : machine.processes[position]? with
    | none =>
      simp only [hfound] at hrunning
      exact absurd rfl hrunning
    | some process =>
      simp only [hfound] at hrunning ⊢
      exact .referenced hfound (Session.touch_reference (Outcome.ne_crash_of_map hrunning))
  | release position =>
    unfold handle at hrunning ⊢
    cases hfound : machine.processes[position]? with
    | none =>
      simp only [hfound] at hrunning
      exact absurd rfl hrunning
    | some process =>
      simp only [hfound, Session.release_eq]
      exact .released hfound

/-! ## Sequences of requests -/

theorem worked_append (machine : Machine ρ) (requests requests' : List Request) :
    machine.worked (requests ++ requests') = (machine.worked requests).worked requests' := by
  induction requests generalizing machine with
  | nil => rfl
  | cons request requests ih => exact ih _

theorem bears_append_iff {machine : Machine ρ} {requests requests' : List Request} :
    machine.Bears (requests ++ requests') ↔
      machine.Bears requests ∧ (machine.worked requests).Bears requests' := by
  induction requests generalizing machine with
  | nil => exact (and_iff_right trivial).symm
  | cons request requests ih => exact (and_congr_right fun _ ↦ ih).trans and_assoc.symm

/-- What every request preserves, also one that fails, a sequence of them preserves. -/
theorem worked_preserves (holds : Machine ρ → Prop)
    (hpinned : ∀ machine, holds machine →
      machine.memory.settings.essentialPages ≤ machine.memory.settings.tableEntries)
    (hhandling : ∀ machine request reply, holds machine → Handling machine request reply →
      holds reply.state)
    {machine : Machine ρ} {requests : List Request} (hstart : holds machine)
    (hbears : machine.Bears requests) : holds (machine.worked requests) := by
  induction requests generalizing machine with
  | nil => exact hstart
  | cons request requests ih =>
    have hcases := handle_cases (hpinned machine hstart) hbears.1
    exact ih (hhandling machine request _ hstart hcases) hbears.2

/-! ## Frames -/

variable {machine : Machine ρ} {request : Request} {reply : Answer (Machine ρ) Service}

theorem Handling.settings_eq (h : Handling machine request reply) :
    reply.state.memory.settings = machine.memory.settings := by
  cases h with
  | refused | drained | created | released => rfl
  | referenced _ htouch => exact htouch.settings_eq

/-- A request moves frames, and loses all that were free if a process cannot be loaded. -/
theorem Handling.held_perm (h : Handling machine request reply)
    (hpinned : machine.memory.settings.essentialPages ≤ machine.memory.settings.tableEntries)
    (hstorable : machine.Storable) :
    (reply.state.heldFrames ++ machine.lostBy reply.outcome).Perm machine.heldFrames := by
  cases h with
  | refused => simp [lostBy]
  | @drained process arraySize keys hfits hscarce =>
    have hspawn : Spawn machine arraySize keys _ := .drained hfits hscarce
    exact hspawn.held_perm hpinned hstorable
  | @created process arraySize keys hfits hplenty =>
    have hspawn : Spawn machine arraySize keys _ := .created hfits hplenty
    have hspawned := hspawn.held_perm hpinned hstorable
    simp only [heldFrames, mappedFrames, freeFrames, lostBy, Array.toList_push, List.flatMap_append,
      List.flatMap_singleton] at hspawned ⊢
    exact hspawned
  | @referenced position page process reply hfound htouch =>
    have hmoved : (machine.resume reply.state position process machine.ready).heldFrames.Perm
        machine.heldFrames :=
      resume_held_perm hfound (htouch.held_perm (hstorable.session hfound))
    have hnone : machine.lostBy (reply.outcome.map Service.accessed) = [] := by
      cases htouch <;> rfl
    rw [hnone, List.append_nil]
    exact hmoved
  | @released position process hfound =>
    have hmoved : (machine.resume (machine.session process).released position process
        machine.ready).heldFrames.Perm machine.heldFrames :=
      resume_held_perm hfound (Session.released_held_perm _)
    have hnone : machine.lostBy (.ok Service.released) = [] := rfl
    rw [hnone, List.append_nil]
    exact hmoved

theorem Accounts.handling {settings : Settings} {lost : List FrameNumber}
    (h : machine.Accounts settings lost) (hvalid : settings.Valid)
    (hhandling : Handling machine request reply) :
    reply.state.Accounts settings (lost ++ machine.lostBy reply.outcome) :=
  h.of_moved hhandling.settings_eq (hhandling.held_perm (h.pinned_le hvalid) (h.storable hvalid))

/-- Whatever is asked of a machine that is worked by hand, its frames are held or lost, and once. -/
theorem Accounts.worked {settings : Settings} {lost : List FrameNumber} {requests : List Request}
    (h : machine.Accounts settings lost) (hvalid : settings.Valid)
    (hbears : machine.Bears requests) :
    ∃ lost', (machine.worked requests).Accounts settings lost' := by
  refine worked_preserves (fun later ↦ ∃ lost', later.Accounts settings lost') ?_ ?_ ⟨lost, h⟩
    hbears
  · rintro later ⟨lost', hlater⟩
    exact hlater.pinned_le hvalid
  · rintro later request reply ⟨lost', hlater⟩ hhandling
    exact ⟨_, hlater.handling hvalid hhandling⟩

/-- A frame gets onto the free list only from a page table, and is stamped with the page that it
held there. -/
theorem Handling.mem_free (h : Handling machine request reply) {free : FreeFrame}
    (hfree : free ∈ reply.state.memory.free.frames) :
    free ∈ machine.memory.free.frames ∨
      ∃ holder, machine.Holds holder free.frame ∧ free.last = some holder := by
  have hgiven {position : Nat} {process : UserProcess}
      (hfound : machine.processes[position]? = some process)
      (hgives : (machine.session process).GivesUp free) :
      ∃ holder, machine.Holds holder free.frame ∧ free.last = some holder := by
    obtain ⟨page, hresident, hstamp⟩ := hgives
    exact ⟨_, holds_of_resident hfound hresident, hstamp⟩
  cases h with
  | refused => exact .inl hfree
  | drained | created => exact .inl (FreeList.mem_of_mem_dropLast hfree)
  | referenced hfound htouch => exact (htouch.mem_free hfree).imp_right (hgiven hfound)
  | released hfound => exact (Session.mem_free_released hfree).imp_right (hgiven hfound)

end Machine

end PagedMemory
