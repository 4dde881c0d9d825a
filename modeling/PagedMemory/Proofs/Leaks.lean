import PagedMemory.Proofs.Ownership

/-!
# What a failed spawn costs

A spawn fails because its array is too large, or because there are fewer free frames than pinned
pages.  In the first case nothing has happened yet.  In the second the process has already taken
what free frames there were, and nobody gives them back when it does not come into being.

`Machine.failed_spawn_after` states all that a failed spawn changes: the free list is empty
afterwards if frames ran out, and everything else is as it was.  The frames that were free are lost.
No page maps them, and whatever is asked of the machine from then on, nobody ever holds one of them
again.  So a failed spawn leaves no trace exactly if it refused its array or found no frame at all.
`Machine.spawn_scarce_drains` shows what others have to bear: a process fails in its turn for want
of the one frame that a failed spawn took.
-/

namespace PagedMemory

namespace FreeList

/-- The list without its frames. -/
def emptied (list : FreeList) : FreeList := { list with frames := #[] }

theorem dropLast_of_le {list : FreeList} {count : Nat} (h : list.size ≤ count) :
    list.dropLast count = list.emptied := by
  unfold dropLast emptied
  rw [Nat.sub_eq_zero_of_le h, Array.take_eq_extract, Array.extract_zero]

end FreeList

namespace Machine

variable {ρ : Type}

/-- The machine without its free frames. -/
def drained (machine : Machine ρ) : Machine ρ :=
  { machine with memory := { machine.memory with free := machine.memory.free.emptied } }

variable {settings : Settings} {machine : Machine ρ} {lost : List FrameNumber} {arraySize : Nat}
  {keys : Array Nat}

theorem freeFrames_drained (machine : Machine ρ) : machine.drained.freeFrames = [] := rfl

/-- Draining a machine changes it exactly if a frame is free. -/
theorem drained_eq_self_iff : machine.drained = machine ↔ machine.freeFrames = [] := by
  constructor
  · intro hsame
    rw [← hsame, freeFrames_drained]
  · intro hnone
    have hframes : machine.memory.free.frames = #[] := by
      unfold freeFrames at hnone
      rwa [List.map_eq_nil_iff, Array.toList_eq_nil_iff] at hnone
    unfold drained FreeList.emptied
    rw [← hframes]

/-- A spawn fails in one of two ways: it refuses its array, or it drains the machine. -/
theorem Spawn.of_error {reply : Answer (Machine ρ) ProcessId} {reason : PagingError}
    (h : Spawn machine arraySize keys reply) (hfailed : reply.outcome = .error reason) :
    (reason = .addressSpaceOverflow machine.processes.size arraySize
        machine.memory.settings.tableEntries ∧ reply.state = machine) ∨
      (reason = .outOfFrames machine.processes.size ∧
        machine.memory.free.size < machine.memory.settings.essentialPages ∧
        reply.state = machine.drained) := by
  cases h with
  | refused =>
    cases hfailed
    exact .inl ⟨rfl, rfl⟩
  | drained _ hscarce =>
    cases hfailed
    refine .inr ⟨rfl, hscarce, ?_⟩
    rw [FreeList.dropLast_of_le (Nat.le_of_lt hscarce)]
    rfl
  | created => cases hfailed

/-- A frame that is lost is not held. -/
theorem Accounts.not_mem_held (h : machine.Accounts settings lost) (hvalid : settings.Valid)
    {frame : FrameNumber} (hlost : frame ∈ lost) : frame ∉ machine.heldFrames := by
  intro hheld
  have hnodup := h.complete.nodup_iff.2 (Settings.nodup_allFrames hvalid)
  exact (List.nodup_append.1 hnodup).2.2 frame hheld frame hlost rfl

/-- The frames of a machine that was drained are lost, and stay so. -/
theorem Accounts.not_mem_held_after [VictimPolicy ρ] (h : machine.Accounts settings lost)
    (hvalid : settings.Valid) {further : List Call} (hendures : machine.drained.Endures further)
    {frame : FrameNumber} (hfree : frame ∈ machine.freeFrames) :
    frame ∉ (machine.drained.after further).heldFrames := by
  have hdrained : machine.drained.Accounts settings (lost ++ machine.freeFrames) := by
    have hmoved : (machine.drained.heldFrames ++ machine.freeFrames).Perm machine.heldFrames := by
      rw [heldFrames, freeFrames_drained, List.append_nil]
      exact .refl _
    exact h.of_moved rfl hmoved
  apply (hdrained.after hvalid hendures).not_mem_held hvalid
  exact List.mem_append_left _ (List.mem_append_right _ hfree)

/-- After every life a spawn that fails has refused its array and changed nothing, or it has run out
of frames, and then the free list is empty and all else is as it was.  The frames that were free are
held by nobody from then on, whatever is asked of the machine.  So nothing has changed exactly if
the spawn did not run out of frames, or found none to begin with. -/
theorem failed_spawn_after [VictimPolicy ρ] {policy : ρ} {calls : List Call} {later : Machine ρ}
    (hcreate : create settings policy = .ok machine) (hendures : machine.Endures calls)
    (hlater : machine.after calls = later) {reason : PagingError}
    (hfailed : (later.spawn arraySize keys).outcome = .error reason) :
    let left := (later.spawn arraySize keys).state
    ((reason = .addressSpaceOverflow later.processes.size arraySize settings.tableEntries ∧
        left = later) ∨
      (reason = .outOfFrames later.processes.size ∧
        later.memory.free.size < settings.essentialPages ∧ left = later.drained ∧
        ∀ further, left.Endures further → ∀ frame ∈ later.freeFrames,
          frame ∉ (left.after further).heldFrames)) ∧
    (left = later ↔
      reason ≠ .outOfFrames later.processes.size ∨ later.freeFrames = []) := by
  obtain ⟨hvalid, hcreated⟩ := accounts_create hcreate
  have haccounts := hcreated.after hvalid hendures
  rw [hlater] at haccounts
  have hspawn := spawn_cases (haccounts.pinned_le hvalid)
    (by rw [hfailed]; exact Outcome.error_ne_crash :
      (later.spawn arraySize keys).outcome ≠ .crash)
  have hcases := hspawn.of_error hfailed
  rw [haccounts.settings_eq] at hcases
  obtain ⟨rfl, hsame⟩ | ⟨rfl, hscarce, hdrained⟩ := hcases
  · exact ⟨.inl ⟨rfl, hsame⟩, iff_of_true hsame (.inl nofun)⟩
  · simp only [hdrained]
    refine ⟨.inr ⟨trivial, hscarce, trivial, ?_⟩, ?_⟩
    · intro further hbears frame hfree
      exact haccounts.not_mem_held_after hvalid hbears hfree
    · rw [drained_eq_self_iff, or_iff_right (not_not.2 rfl)]

/-- The machine with three frames, before any call. -/
def unoccupied : Machine Aging where
  memory := { settings := scarce, free := .full 3 .mostRecent, policy := .mk }

/-- One process takes two of the frames, and has a search to do that needs the third. -/
def occupied : Machine Aging := unoccupied.after [.spawn 2 #[0]]

theorem failed_spawn_after_scarce :
    create scarce Aging.mk = .ok unoccupied ∧ unoccupied.Endures [.spawn 2 #[0]] ∧
      (occupied.spawn 2 #[0]).outcome = .error (.outOfFrames 1) ∧
      (occupied.spawn 2 #[0]).state.Endures [.turn, .spawn 1 #[]] ∧
      occupied.freeFrames = [0] ∧
      0 ∉ ((occupied.spawn 2 #[0]).state.after [.turn, .spawn 1 #[]]).heldFrames := by
  have hcreate : create scarce Aging.mk = .ok unoccupied := rfl
  have hendures : unoccupied.Endures [.spawn 2 #[0]] := by decide +kernel
  have hfailed : (occupied.spawn 2 #[0]).outcome = .error (.outOfFrames 1) := by decide +kernel
  have hbears : (occupied.spawn 2 #[0]).state.Endures [.turn, .spawn 1 #[]] := by decide +kernel
  have hfree : occupied.freeFrames = [0] := by decide +kernel
  refine ⟨hcreate, hendures, hfailed, hbears, hfree, ?_⟩
  obtain ⟨hrefused, _⟩ | ⟨_, _, _, hgone⟩ :=
    (failed_spawn_after hcreate hendures rfl hfailed).1
  · cases hrefused
  · exact hgone _ hbears 0 (hfree ▸ List.mem_cons_self)

/-- A failed spawn takes the last free frame away.  The process that is there already fails in its
next turn, which would have gone well without that spawn. -/
theorem spawn_scarce_drains :
    create scarce Aging.mk = .ok unoccupied ∧ unoccupied.Endures [.spawn 2 #[0]] ∧
      (occupied.spawn 2 #[0]).outcome = .error (.outOfFrames 1) ∧
      occupied.freeFrames = [0] ∧ (occupied.spawn 2 #[0]).state.freeFrames = [] ∧
      occupied.turn.outcome = .ok false ∧
      (occupied.spawn 2 #[0]).state.turn.outcome = .error (.noVictim 0 2) := by
  refine ⟨rfl, ?_⟩
  decide +kernel

end Machine

end PagedMemory
