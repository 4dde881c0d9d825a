import PagedMemory.Proofs.Loading

/-!
# What a process gives back

When a process leaves, all that it held goes back, and nothing else changes: `Session.Returns` lists
what that means for the free list, for the page table, and for everything beside them.  The pages
that are resident are found before the first of them is unmapped, so the lemmas on the table compare
`PageTable.vacated` with the table before, page by page.

A table that has been vacated has nothing left to give, so to let a process go twice is to let it go
once.  To let two processes go is to put two lists of frames behind the free ones, and the order in
which they go is seen in the order of the two lists and nowhere else.
-/

namespace PagedMemory

namespace PageTable

/-- Unmapping several pages unmaps each of them, also where one is named twice, and leaves the
others. -/
theorem slot?_unmapAll (table : PageTable) (pages : List Nat) (page : Nat) :
    (table.unmapAll pages).slot? page =
      if page ∈ pages then (table.slot? page).map Slot.unmapped else table.slot? page := by
  unfold unmapAll
  induction pages generalizing table with
  | nil => simp
  | cons first pages ih =>
    rw [List.foldl_cons, ih, slot?_unmap]
    by_cases hfirst : first = page
    · -- A page that is named again is unmapped already.
      subst hfirst
      cases table.slot? first <;> simp [Slot.unmapped]
    · simp [hfirst, Ne.symm hfirst]

theorem slot?_vacated_of_resident {table : PageTable} {page : Nat} (h : table.Resident page) :
    table.vacated.slot? page = (table.slot? page).map Slot.unmapped := by
  rw [vacated, slot?_unmapAll, if_pos (mem_residentPages_iff.2 h)]

theorem slot?_vacated_of_not_resident {table : PageTable} {page : Nat}
    (h : ¬ table.Resident page) : table.vacated.slot? page = table.slot? page := by
  rw [vacated, slot?_unmapAll, if_neg (fun hmem ↦ h (mem_residentPages_iff.1 hmem))]

/-- A page keeps its register when it goes. -/
theorem at?_history_vacated (table : PageTable) (page : Nat) :
    table.vacated.at? page Slot.history = table.at? page Slot.history := by
  unfold at?
  by_cases hresident : table.Resident page
  · rw [slot?_vacated_of_resident hresident, Option.map_map]
    rfl
  · rw [slot?_vacated_of_not_resident hresident]

/-- There is nothing left to unmap. -/
@[simp] theorem vacated_vacated (table : PageTable) : table.vacated.vacated = table.vacated := by
  rw [vacated, residentPages_vacated]
  rfl

end PageTable

namespace Session

variable {ρ : Type}

/-- All that a process held is given back, and nothing else changes. -/
structure Returns (before after : Session ρ) : Prop where
  /-- Behind the frames that were free stand those of the resident pages, in page order, each
  stamped with its page. -/
  frames : ∃ pairs : List (Nat × FrameNumber),
    (pairs.Pairwise fun pair pair' ↦ pair.1 < pair'.1) ∧
    (∀ page frame, (page, frame) ∈ pairs ↔ ∃ slot, before.space.table.slot? page = some slot ∧
      slot.entry.valid = true ∧ slot.entry.frame = frame) ∧
    after.memory.free.frames.toList = before.memory.free.frames.toList ++
      pairs.map fun (page, frame) ↦ ⟨frame, some ⟨before.space.process, page⟩⟩
  vacant : ∀ page, ¬ after.space.table.Resident page
  history : ∀ page, after.space.table.at? page Slot.history =
    before.space.table.at? page Slot.history
  /-- A page that was resident leaves an empty entry behind. -/
  resident : ∀ page slot, before.space.table.slot? page = some slot → slot.entry.valid = true →
    after.space.table.slot? page = some ⟨.empty, slot.history⟩
  /-- The slot of a page that was not resident stays. -/
  absent : ∀ page, ¬ before.space.table.Resident page →
    after.space.table.slot? page = before.space.table.slot? page
  /-- Settings, counters, policy, fallback rule and stream stay. -/
  memory : after.memory = { before.memory with
    free := { before.memory.free with frames := after.memory.free.frames } }
  /-- The number of the process and its counters stay. -/
  space : after.space = { before.space with table := after.space.table }

theorem returns_released (session : Session ρ) : session.Returns session.released where
  frames := by
    refine ⟨session.space.table.resident, session.space.table.pairwise_resident, ?_,
      FreeList.frames_releaseAll _ _ _⟩
    intro page frame
    simp only [PageTable.mem_resident_iff, Entry.frame?_eq_some_iff]
  vacant := PageTable.not_resident_vacated session.space.table
  history := PageTable.at?_history_vacated session.space.table
  resident := by
    intro page slot hslot hvalid
    calc
      session.space.table.vacated.slot? page
        = (session.space.table.slot? page).map Slot.unmapped :=
          PageTable.slot?_vacated_of_resident ⟨slot, hslot, hvalid⟩
      _ = some slot.unmapped := by rw [hslot, Option.map_some]
  absent := fun _ ↦ PageTable.slot?_vacated_of_not_resident
  memory := by
    simp only [released, FreeList.releaseAll_eq]
  space := rfl

/-- A process that has given everything back has nothing to give. -/
theorem released_released (session : Session ρ) : session.released.released = session.released := by
  simp only [released, PageTable.resident_vacated, PageTable.vacated_vacated]
  rfl

end Session

namespace Memory

variable {ρ : Type}

/-- Lets two processes go, the first before the second. -/
def releaseBoth (memory : Memory ρ) (first second : AddressSpace) :
    Memory ρ × AddressSpace × AddressSpace :=
  let sooner := (Session.mk memory first).release.state
  let later := (Session.mk sooner.memory second).release.state
  (later.memory, sooner.space, later.space)

/-- What two processes give back stands behind the free frames in the order in which they go. -/
theorem releaseBoth_eq (memory : Memory ρ) (first second : AddressSpace) :
    memory.releaseBoth first second =
      ({ memory with
          free := (memory.free.releaseAll first.process first.table.resident).releaseAll
            second.process second.table.resident },
        { first with table := first.table.vacated },
        { second with table := second.table.vacated }) := by
  unfold releaseBoth
  simp only [Session.release_eq]
  rfl

theorem frames_releaseBoth_perm (memory : Memory ρ) (first second : AddressSpace) :
    (memory.releaseBoth first second).1.free.frames.toList.Perm
      (memory.releaseBoth second first).1.free.frames.toList := by
  simp only [releaseBoth_eq, FreeList.frames_releaseAll, List.append_assoc]
  apply List.Perm.append_left
  exact List.perm_append_comm

/-- The order of the free list is all that tells who left first. -/
theorem releaseBoth_comm (memory : Memory ρ) (first second : AddressSpace) :
    (memory.releaseBoth first second).1 =
      { (memory.releaseBoth second first).1 with
        free := { (memory.releaseBoth second first).1.free with
          frames := (memory.releaseBoth first second).1.free.frames } } := by
  simp only [releaseBoth_eq, FreeList.releaseAll_eq]

end Memory

/-- Letting a process go gives back what it held and changes nothing else, and it cannot fail.  To
let it go again changes nothing.  If two processes go, each leaves the same table whoever goes
first, and the free lists are the same up to their order. -/
theorem Session.release_returns {ρ : Type} (session : Session ρ) (other : AddressSpace) :
    session.release.outcome = .ok () ∧
    session.Returns session.release.state ∧
    session.release.state.release.state = session.release.state ∧
    (let forth := session.memory.releaseBoth session.space other
     let back := session.memory.releaseBoth other session.space
     forth.2.1 = back.2.2 ∧ forth.2.2 = back.2.1 ∧
       forth.1.free.frames.toList.Perm back.1.free.frames.toList ∧
       forth.1 = { back.1 with free := { back.1.free with frames := forth.1.free.frames } }) := by
  refine ⟨?_, ?_, ?_, ?_, ?_, Memory.frames_releaseBoth_perm _ _ _,
    Memory.releaseBoth_comm _ _ _⟩
  · rw [release_eq]
  · rw [release_eq]
    exact session.returns_released
  · simp only [release_eq]
    exact session.released_released
  · simp only [Memory.releaseBoth_eq]
  · simp only [Memory.releaseBoth_eq]

end PagedMemory
