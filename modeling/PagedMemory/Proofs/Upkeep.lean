import PagedMemory.Proofs.ByHand
import PagedMemory.Proofs.Outline

/-!
# What requests keep in order

A page that is not resident has a blank entry: the operations that a machine performs clear an entry
when they take a page out, and mark a page only while it is in.  So unmapping a page that is not
resident changes nothing, `PageTable.Clean.unmap_eq_self`.

`Machine.Kept` says this of every process of a machine that is worked by hand, and what else a
reference relies on: the tables have the size that the settings name, the counters belong together,
and no process has been charged more accesses than the machine.
-/

namespace PagedMemory

/-! ## Blank entries -/

namespace PageTable

variable {table : PageTable} {page : Nat}

/-- The entries of pages that are not resident are blank. -/
def Clean (table : PageTable) : Prop :=
  ∀ page slot, table.slot? page = some slot → slot.entry.valid = false → slot.entry = .empty

theorem clean_blank (size : Nat) : (blank size).Clean := by
  intro page slot hslot _
  simp only [slot?, blank, Array.getElem?_replicate] at hslot
  split at hslot
  · cases hslot
    rfl
  · cases hslot

theorem Clean.map (h : table.Clean) (page : Nat) (frame : FrameNumber) :
    (table.map page frame).Clean := by
  intro other slot hslot hinvalid
  rw [slot?_map] at hslot
  split at hslot
  · obtain ⟨_, _, rfl⟩ := Option.map_eq_some_iff.1 hslot
    cases hinvalid
  · exact h other slot hslot hinvalid

theorem Clean.unmap (h : table.Clean) (page : Nat) : (table.unmap page).Clean := by
  intro other slot hslot hinvalid
  rw [slot?_unmap] at hslot
  split at hslot
  · obtain ⟨_, _, rfl⟩ := Option.map_eq_some_iff.1 hslot
    rfl
  · exact h other slot hslot hinvalid

/-- Only a page that is resident may be marked. -/
theorem Clean.markReferenced (h : table.Clean) (hresident : table.Resident page) :
    (table.markReferenced page).Clean := by
  intro other slot hslot hinvalid
  rw [slot?_markReferenced] at hslot
  split at hslot
  · rename_i hsame
    subst hsame
    obtain ⟨before, hbefore, rfl⟩ := Option.map_eq_some_iff.1 hslot
    exact absurd hresident (Absent.not_resident ⟨before, hbefore, hinvalid⟩)
  · exact h other slot hslot hinvalid

theorem Clean.mapFrom (h : table.Clean) (page : Nat) (frames : List FrameNumber) :
    (table.mapFrom page frames).Clean := by
  induction frames generalizing table page with
  | nil => exact h
  | cons frame frames ih => exact ih (h.map page frame) (page + 1)

theorem Clean.vacated (h : table.Clean) : table.vacated.Clean := by
  unfold PageTable.vacated unmapAll
  exact List.foldlRecOn _ PageTable.unmap h fun _ hclean page _ ↦ hclean.unmap page

/-- In such a table nothing is left to unmap of a page that is not resident. -/
theorem Clean.unmap_eq_self (h : table.Clean) (habsent : ¬ table.Resident page) :
    table.unmap page = table := by
  apply ext_slot?
  intro other
  rw [slot?_unmap]
  split
  · rename_i hsame
    subst hsame
    cases hslot : table.slot? page with
    | none => rfl
    | some slot =>
      have hinvalid : slot.entry.valid = false := by
        rw [Bool.eq_false_iff]
        exact fun hvalid ↦ habsent ⟨slot, hslot, hvalid⟩
      have hsame : slot.unmapped = slot := by
        rw [Slot.unmapped, ← h page slot hslot hinvalid]
      rw [Option.map_some, hsame]
  · rfl

end PageTable

/-! ## Address spaces -/

/-- An address space of a machine with these settings and counters is in order. -/
structure AddressSpace.Kept (settings : Settings) (counters : Counters) (space : AddressSpace) :
    Prop where
  size_table : space.table.size = settings.tableEntries
  clean : space.table.Clean
  consistent : space.counters.Consistent
  accesses_le : space.counters.accesses ≤ counters.accesses

/-- The machine may have been charged for others. -/
theorem AddressSpace.Kept.mono {settings : Settings} {counters counters' : Counters}
    {space : AddressSpace} (h : space.Kept settings counters)
    (hmore : counters.accesses ≤ counters'.accesses) : space.Kept settings counters' :=
  { h with accesses_le := Nat.le_trans h.accesses_le hmore }

/-- A reference keeps the address space of its process in order. -/
theorem Session.Touch.kept {ρ : Type} [VictimPolicy ρ] {session : Session ρ} {page : Nat}
    {reply : Answer (Session ρ) Access} (h : Touch session page reply) {settings : Settings}
    (hkept : session.space.Kept settings session.memory.counters)
    (hshared : session.memory.counters.Consistent) :
    reply.state.space.Kept settings reply.state.memory.counters where
  size_table := h.size_table_eq.trans hkept.size_table
  clean := by
    cases h with
    | hit hresident => exact hkept.clean.markReferenced hresident
    | coldMiss => exact hkept.clean.map _ _
    | noVictim => exact hkept.clean
    | framelessVictim => exact hkept.clean.unmap _
    | warmMiss => exact (hkept.clean.unmap _).map _ _
  consistent := (h.consistent hkept.consistent hshared).1
  accesses_le := by
    obtain ⟨hown, hall⟩ := h.accesses_succ
    rw [hown, hall]
    exact Nat.succ_le_succ hkept.accesses_le

/-! ## Machines -/

namespace Machine

variable {ρ : Type}

/-- The counters of a machine with these settings belong together, and all its address spaces are in
order. -/
structure Kept (settings : Settings) (machine : Machine ρ) : Prop where
  settings_eq : machine.memory.settings = settings
  consistent : machine.memory.counters.Consistent
  spaces : ∀ (position : Nat) (process : UserProcess),
    machine.processes[position]? = some process →
      process.space.Kept settings machine.memory.counters

variable {settings : Settings} {machine : Machine ρ}

theorem kept_create {policy : ρ} (hcreate : create settings policy = .ok machine) :
    machine.Kept settings := by
  obtain ⟨_, rfl⟩ := create_eq_ok_iff.1 hcreate
  exact ⟨rfl, Counters.consistent_zero, nofun⟩

/-- A process that has worked has left its own address space in order, and may have added to the
machine's counters. -/
theorem Kept.resume (h : machine.Kept settings) {session : Session ρ}
    (hsettings : session.memory.settings = machine.memory.settings)
    (hconsistent : session.memory.counters.Consistent)
    (hmore : machine.memory.counters.accesses ≤ session.memory.counters.accesses)
    (hspace : session.space.Kept settings session.memory.counters) (position : Nat)
    (process : UserProcess) (ready : List ProcessId) :
    (machine.resume session position process ready).Kept settings where
  settings_eq := hsettings.trans h.settings_eq
  consistent := hconsistent
  spaces := forall_found_resume hspace fun other later _ hlater ↦
    (h.spaces other later hlater).mono hmore

variable [VictimPolicy ρ]

/-- Every request keeps the machine in order, also one that fails. -/
theorem Handling.kept {request : Request} {reply : Answer (Machine ρ) Service}
    (h : Handling machine request reply) (hkept : machine.Kept settings) :
    reply.state.Kept settings := by
  cases h with
  | refused => exact hkept
  | drained => exact ⟨hkept.settings_eq, hkept.consistent, hkept.spaces⟩
  | @created process arraySize keys =>
    refine ⟨hkept.settings_eq, hkept.consistent, forall_found_push ?_ hkept.spaces⟩
    refine ⟨?_, (PageTable.clean_blank _).mapFrom 0 _, Counters.consistent_zero, Nat.zero_le _⟩
    rw [← hkept.settings_eq]
    exact (PageTable.size_mapFrom _ _ _).trans (PageTable.size_blank _)
  | @referenced position page process reply hfound htouch =>
    have hspace := hkept.spaces position process hfound
    have hmore : machine.memory.counters.accesses ≤ reply.state.memory.counters.accesses := by
      rw [htouch.accesses_succ.2]
      exact Nat.le_succ _
    exact hkept.resume htouch.settings_eq
      (htouch.consistent hspace.consistent hkept.consistent).2 hmore
      (htouch.kept hspace hkept.consistent) _ _ _
  | @released position process hfound =>
    have hspace := hkept.spaces position process hfound
    refine hkept.resume rfl hkept.consistent (Nat.le_refl _) ?_ _ _ _
    exact ⟨(PageTable.size_unmapAll _ _).trans hspace.size_table, hspace.clean.vacated,
      hspace.consistent, hspace.accesses_le⟩

/-- Whatever is asked of a machine that is worked by hand, it stays in order. -/
theorem Kept.worked {requests : List Request} (h : machine.Kept settings)
    (hvalid : settings.Valid) (hbears : machine.Bears requests) :
    (machine.worked requests).Kept settings := by
  refine worked_preserves (fun later ↦ later.Kept settings) ?_ ?_ h hbears
  · intro later hlater
    rw [hlater.settings_eq]
    exact hvalid.pinned_le
  · exact fun later request reply hlater hhandling ↦ hhandling.kept hlater

end Machine

end PagedMemory
