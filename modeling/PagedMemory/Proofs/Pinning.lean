import Mathlib.Algebra.Ring.Nat
import PagedMemory.Proofs.Conservation
import PagedMemory.Proofs.Settling

/-!
# Pinned pages

Under aging nothing but the clock ever gets at a pinned page: no search touches one, and the policy
never gives one up.  So a pinned page stays in the frame that it got when its process was created,
and its slot is a matter of counting.  `Slot.aged` is the slot of a page that has been left alone
for so many ticks since it was brought in.

A process gets a tick for every search that it completes and none for one that fails.  Hence
`Machine.pinned_after`: whatever has been asked of the machine, and whoever failed on the way, the
pinned pages of every process that has not left are in the frames that stood last on the free list
when it was created, aged by as many ticks as the process has done searches.
-/

namespace PagedMemory

namespace Slot

/-- The slot of a page that was brought into `frame` so many ticks ago, and left alone since. -/
def aged (frame : FrameNumber) (ticks : Nat) : Slot where
  entry := .mapping frame (decide (ticks = 0))
  history := freshHistory >>> (ticks - 1)

/-- The first tick finds the page touched by its loading, and the later ones do not. -/
theorem tick_aged (frame : FrameNumber) (ticks : Nat) :
    (aged frame ticks).tick = aged frame (ticks + 1) := by
  cases ticks with
  | zero =>
    have hcarried : freshHistory >>> 0 >>> 1 ||| 0x8000 = freshHistory >>> 0 := by decide
    exact congrArg (Slot.mk _) hcarried
  | succ ticks =>
    have hshifted : freshHistory >>> ticks >>> 1 ||| 0#16 = freshHistory >>> (ticks + 1) := by
      rw [BitVec.or_zero, BitVec.shiftRight_add]
    exact congrArg (Slot.mk _) hshifted

theorem toNat_history_aged (frame : FrameNumber) (ticks : Nat) :
    (aged frame ticks).history.toNat =
      if ticks = 0 then 0xFFFF else 0xFFFF / 2 ^ (ticks - 1) := by
  unfold aged
  rw [BitVec.toNat_ushiftRight, Nat.shiftRight_eq_div_pow]
  split
  · rename_i hzero
    subst hzero
    rfl
  · rfl

end Slot

/-- The frame that is taken after so many others is the one that stands so many places before the
last. -/
theorem FreeList.exists_of_getElem?_stack {list : FreeList} {index : Nat} {frame : FrameNumber}
    (h : list.stack[index]? = some frame) :
    ∃ position free, position + index + 1 = list.size ∧ list.frames[position]? = some free ∧
      free.frame = frame := by
  obtain ⟨hin, hframe⟩ := List.getElem?_eq_some_iff.1 h
  have hsize : list.stack.length = list.size := by simp [stack]
  rw [hsize] at hin
  have hposition : list.size - 1 - index < list.frames.size := by
    have hsame : list.frames.size = list.size := rfl
    omega
  refine ⟨list.size - 1 - index, list.frames[list.size - 1 - index], by omega,
    Array.getElem?_eq_getElem hposition, ?_⟩
  rw [← hframe]
  simp [stack, numbers, size]

namespace PageTable

theorem slot?_mapFrom_of_lt {table : PageTable} {page other : Nat} (frames : List FrameNumber)
    (hbefore : other < page) : (table.mapFrom page frames).slot? other = table.slot? other := by
  induction frames generalizing table page with
  | nil => rfl
  | cons frame frames ih =>
    rw [mapFrom, ih (Nat.lt_succ_of_lt hbefore), slot?_map, if_neg (Nat.ne_of_gt hbefore)]

/-- Each of the pages is in the frame that stands at its place among the frames. -/
theorem slot?_mapFrom (table : PageTable) (page index : Nat) {frames : List FrameNumber}
    {frame : FrameNumber} (hin : page + frames.length ≤ table.size)
    (hframe : frames[index]? = some frame) :
    (table.mapFrom page frames).slot? (page + index) = some (.loaded frame) := by
  induction frames generalizing table page index with
  | nil => cases hframe
  | cons first frames ih =>
    rw [List.length_cons] at hin
    cases index with
    | zero =>
      obtain rfl : first = frame := Option.some.inj hframe
      obtain ⟨slot, hslot⟩ : ∃ slot, table.slot? page = some slot :=
        ⟨_, Array.getElem?_eq_getElem (show page < table.size by omega)⟩
      rw [Nat.add_zero, mapFrom, slot?_mapFrom_of_lt frames (Nat.lt_succ_self page), slot?_map,
        if_pos rfl, hslot, Option.map_some]
    | succ index =>
      rw [mapFrom, ← Nat.add_assoc, Nat.add_right_comm]
      exact ih _ _ _ (by rw [size_map]; omega) hframe

end PageTable

/-! ## Sessions -/

namespace Session

variable {session later : Session Aging} {page pinned arraySize key : Nat} {events : List Event}

/-- Under aging a reference to a page behind the pinned ones leaves the slots of these alone. -/
theorem Touch.slot?_pinned {reply : Answer (Session Aging) Access}
    (h : Touch session page reply) (hpage : session.memory.settings.essentialPages ≤ page)
    (hpinned : pinned < session.memory.settings.essentialPages) :
    reply.state.space.table.slot? pinned = session.space.table.slot? pinned := by
  have hother : page ≠ pinned := by omega
  cases h with
  | hit => rw [table_settle, PageTable.slot?_markReferenced, if_neg hother]
  | coldMiss => rw [table_settle, PageTable.slot?_map, if_neg hother]
  | noVictim => rfl
  | framelessVictim _ _ hpick hvictim => exact absurd hvictim (not_framelessVictim hpick)
  | @warmMiss _ _ victim policy hpick =>
    rw [pickVictim_eq] at hpick
    have hoffered := (PageTable.of_oldest?_eq_some (congrArg Prod.fst hpick)).1
    have hkept : victim ≠ pinned := by omega
    rw [table_settle, PageTable.slot?_map, if_neg hother, PageTable.slot?_unmap, if_neg hkept]

/-- The references of a search leave the slots of the pinned pages alone. -/
theorem slot?_pinned_referenceAll
    (hpinned : pinned < session.memory.settings.essentialPages)
    (hrunning : (session.search arraySize key).outcome ≠ .crash) :
    let reply := session.referenceAll (Search.pages session.memory.settings arraySize key)
    reply.state.space.table.slot? pinned = session.space.table.slot? pinned := by
  have hkept := referenceAll_preserves
    (fun later ↦ later.memory.settings = session.memory.settings ∧
      later.space.table.slot? pinned = session.space.table.slot? pinned)
    ?_ ⟨rfl, rfl⟩ (referenceAll_ne_crash_of_search hrunning)
  · exact hkept.2
  · rintro later page reply hpage ⟨hsettings, hslot⟩ htouch
    have hbehind := Search.le_of_mem_pages hpage
    rw [← hsettings] at hbehind hpinned
    exact ⟨htouch.settings_eq.trans hsettings, (htouch.slot?_pinned hbehind hpinned).trans hslot⟩

/-- A search that is completed gives every pinned page one tick. -/
theorem slot?_pinned_of_ok (hpinned : pinned < session.memory.settings.essentialPages)
    (hsearch : session.search arraySize key = ⟨.ok (), later, events⟩) :
    later.space.table.slot? pinned = (session.space.table.slot? pinned).map Slot.tick := by
  have hkept := slot?_pinned_referenceAll hpinned
    (by rw [hsearch]; exact Outcome.ok_ne_crash : (session.search arraySize key).outcome ≠ .crash)
  rw [state_of_search_ok hsearch, ← hkept]
  exact PageTable.slot?_tick _ _

/-- A search that fails gives no page a tick. -/
theorem slot?_pinned_of_error {reason : PagingError}
    (hpinned : pinned < session.memory.settings.essentialPages)
    (hsearch : session.search arraySize key = ⟨.error reason, later, events⟩) :
    later.space.table.slot? pinned = session.space.table.slot? pinned := by
  rw [state_of_search_error hsearch]
  apply slot?_pinned_referenceAll hpinned
  rw [hsearch]
  exact Outcome.error_ne_crash

end Session

/-! ## Machines -/

namespace Machine

variable {settings : Settings} {machine : Machine Aging} {number : ProcessId} {free : FreeList}

/-- Unless it has left, the process has its pinned pages in the frames that stood last on this free
list, and they have been left alone for as many ticks as it has done searches. -/
def Pins (machine : Machine Aging) (number : ProcessId) (free : FreeList) : Prop :=
  ∀ process, machine.processes[number]? = some process → process.terminated = false →
    ∀ page < machine.memory.settings.essentialPages, ∃ frame : FrameNumber,
      free.stack[page]? = some frame ∧ frame.toNat < Entry.frameLimit ∧
        process.space.table.slot? page = some (.aged frame process.currentSearch)

/-- A process that has just been created has its pinned pages in the last free frames. -/
theorem pins_newborn {arraySize : Nat} {keys : Array Nat} {later : Machine Aging}
    (hstorable : machine.Storable)
    (hpinned : machine.memory.settings.essentialPages ≤ machine.memory.settings.tableEntries)
    (hplenty : machine.memory.settings.essentialPages ≤ machine.memory.free.size)
    (hsettings : later.memory.settings = machine.memory.settings)
    (hfound : later.processes[number]? = some (machine.newborn arraySize keys)) :
    later.Pins number machine.memory.free := by
  intro process hprocess _ page hpage
  cases hfound.symm.trans hprocess
  rw [hsettings] at hpage
  have hin : page < machine.memory.free.stack.length := by
    have hlength : machine.memory.free.stack.length = machine.memory.free.size := by
      simp [FreeList.stack]
    omega
  have hframe : machine.memory.free.stack[page]? = some machine.memory.free.stack[page] :=
    List.getElem?_eq_getElem hin
  refine ⟨_, hframe, ?_, ?_⟩
  · apply hstorable
    exact List.mem_append_right _ (List.mem_reverse.1 (List.getElem_mem _))
  · have hloaded : (machine.memory.free.stack.take machine.memory.settings.essentialPages)[page]? =
        some machine.memory.free.stack[page] := by
      rw [List.getElem?_take_of_lt hpage, hframe]
    have hslot := PageTable.slot?_mapFrom (.blank machine.memory.settings.tableEntries) 0 page
      (by rw [List.length_take, PageTable.size_blank]; omega) hloaded
    rw [Nat.zero_add] at hslot
    exact hslot

/-- What becomes of one process does not concern the pinned pages of another. -/
theorem Pins.resume_of_ne {front : ProcessId} {process : UserProcess} {session : Session Aging}
    {ready : List ProcessId} (h : machine.Pins number free) (hne : front ≠ number)
    (hsettings : session.memory.settings = machine.memory.settings) :
    (machine.resume session front process ready).Pins number free := by
  intro later hlater hstays
  rw [getElem?_resume_of_ne hne] at hlater
  have hslots := h later hlater hstays
  rw [← hsettings] at hslots
  exact hslots

/-- A turn keeps the pinned pages of a process where they are if it keeps those of the process at
the front. -/
theorem Pins.resume {front : ProcessId} {process process' : UserProcess}
    {session : Session Aging} {ready : List ProcessId} (h : machine.Pins number free)
    (hfound : machine.processes[front]? = some process)
    (hsettings : session.memory.settings = machine.memory.settings)
    (hself : process'.terminated = false → process.terminated = false ∧
      ∀ page < machine.memory.settings.essentialPages, ∀ frame : FrameNumber,
        process.space.table.slot? page = some (.aged frame process.currentSearch) →
          session.space.table.slot? page = some (.aged frame process'.currentSearch)) :
    (machine.resume session front process' ready).Pins number free := by
  by_cases hne : front = number
  · subst hne
    intro later hlater hstays page hpage
    rw [getElem?_resume_self (Array.getElem?_eq_some_iff.1 hfound).1] at hlater
    cases hlater
    obtain ⟨hstayed, hslots⟩ := hself hstays
    replace hpage : page < machine.memory.settings.essentialPages := hsettings ▸ hpage
    obtain ⟨frame, hframe, hlimit, hslot⟩ := h process hfound hstayed page hpage
    exact ⟨frame, hframe, hlimit, hslots page hpage frame hslot⟩
  · exact h.resume_of_ne hne hsettings

/-- A turn keeps the pinned pages of every process where they are. -/
theorem Pins.turn {reply : Answer (Machine Aging) Bool} (h : machine.Pins number free)
    (hturn : Turn machine reply) : reply.state.Pins number free := by
  have hsettings := hturn.settings_eq
  cases hturn with
  | idle => exact h
  | failed _ hfound _ hsearch =>
    apply h.resume hfound hsettings
    intro hstays
    refine ⟨hstays, fun page hpage frame hslot ↦ ?_⟩
    rw [← hslot]
    exact Session.slot?_pinned_of_error hpage hsearch
  | @requeued front waiting process key session events _ hfound _ hsearch =>
    apply h.resume hfound hsettings
    intro hstays
    refine ⟨hstays, fun page hpage frame hslot ↦ ?_⟩
    calc
      session.space.table.slot? page = (process.space.table.slot? page).map Slot.tick :=
        Session.slot?_pinned_of_ok hpage hsearch
      _ = some (.aged frame (process.currentSearch + 1)) := by
        rw [hslot, Option.map_some, Slot.tick_aged]
  | ended _ hfound | keyless _ hfound =>
    apply h.resume hfound hsettings
    intro hstays
    cases hstays

/-- A spawn concerns no process that is there before it. -/
theorem Pins.spawn {arraySize : Nat} {keys : Array Nat} {reply : Answer (Machine Aging) ProcessId}
    (h : machine.Pins number free) (hin : number < machine.processes.size)
    (hspawn : Spawn machine arraySize keys reply) : reply.state.Pins number free := by
  cases hspawn with
  | refused | drained => exact h
  | created =>
    intro process hfound
    rw [Array.getElem?_push, if_neg (Nat.ne_of_lt hin)] at hfound
    exact h process hfound

/-- Whatever is asked of the machine keeps the pinned pages of a process where they are. -/
theorem Pins.after {calls : List Call} (h : machine.Pins number free)
    (hpinned : machine.memory.settings.essentialPages ≤ machine.memory.settings.tableEntries)
    (hin : number < machine.processes.size) (hendures : machine.Endures calls) :
    (machine.after calls).Pins number free := by
  have hkept := after_preserves
    (fun later ↦ later.memory.settings = machine.memory.settings ∧
      number < later.processes.size ∧ later.Pins number free) ?_ ⟨rfl, hin, h⟩ hendures
  · exact hkept.2.2
  · intro later call hlater hrunning
    refine serve_preserves (fun later ↦ later.memory.settings = machine.memory.settings ∧
      number < later.processes.size ∧ later.Pins number free) ?_ ?_ ?_ hlater hrunning
    · rintro later ⟨hsettings, _⟩
      rw [hsettings]
      exact hpinned
    · rintro later arraySize keys reply ⟨hsettings, hin, hpins⟩ hspawn
      refine ⟨hspawn.settings_eq.trans hsettings, ?_, hpins.spawn hin hspawn⟩
      cases hspawn with
      | refused | drained => exact hin
      | created =>
        rw [Array.size_push]
        exact Nat.lt_succ_of_lt hin
    · rintro later reply ⟨hsettings, hin, hpins⟩ hturn
      rw [← hturn.size_processes_eq] at hin
      exact ⟨hturn.settings_eq.trans hsettings, hin, hpins.turn hturn⟩

/-- A call that creates a process puts its pinned pages into the last free frames. -/
theorem Accounts.pins_created {lost : List FrameNumber} {call : Call}
    (h : machine.Accounts settings lost) (hvalid : settings.Valid)
    (hcreated : (machine.serve call).outcome = .ok (.created number)) :
    (machine.serve call).state.Pins number machine.memory.free ∧
      number < (machine.serve call).state.processes.size := by
  have hpinned := h.pinned_le hvalid
  obtain ⟨arraySize, keys, _, rfl, hplenty, hstate⟩ := of_created hpinned hcreated
  rw [hstate]
  constructor
  · exact pins_newborn (h.storable hvalid) hpinned hplenty rfl (Array.getElem?_push_size ..)
  · rw [Array.size_push]
    exact Nat.lt_succ_self _

/-- Whatever has been asked of a machine under aging, every process that has not left was created in
one of the calls, and each of its pinned pages is still in the frame that it got then: page number
`i` in the one that stood `i` places before the last on the free list.  The page counts as touched
just as long as the process has done no search, and its register has lost one bit for every search
after the first. -/
theorem pinned_after {initial : Machine Aging} {calls : List Call} {process : UserProcess}
    (hcreate : create settings Aging.mk = .ok initial) (hendures : initial.Endures calls)
    (hfound : (initial.after calls).processes[number]? = some process)
    (hstays : process.terminated = false) :
    (∃ visit ∈ initial.visits calls, visit.reply.outcome = .ok (.created number)) ∧
      ∀ visit ∈ initial.visits calls, visit.reply.outcome = .ok (.created number) →
        ∀ page < settings.essentialPages, ∃ position free slot,
          position + page + 1 = visit.before.memory.free.size ∧
          visit.before.memory.free.frames[position]? = some free ∧
          process.space.table.slot? page = some slot ∧
          slot.entry.valid = true ∧ slot.entry.frame = free.frame ∧
          (slot.entry.referenced = true ↔ process.currentSearch = 0) ∧
          slot.history.toNat =
            if process.currentSearch = 0 then 0xFFFF
            else 0xFFFF / 2 ^ (process.currentSearch - 1) := by
  obtain ⟨hvalid, haccounts⟩ := accounts_create hcreate
  have hsettings := (haccounts.after hvalid hendures).settings_eq
  have hnone : initial.processes.size = 0 := by
    rw [(create_eq_ok_iff.1 hcreate).2]
    rfl
  constructor
  · apply exists_created (haccounts.pinned_le hvalid) hendures
    · omega
    · exact (Array.getElem?_eq_some_iff.1 hfound).1
  · intro visit hvisit hcreated page hpage
    obtain ⟨front, back, rfl, hbefore⟩ := exists_of_mem_visits hvisit
    obtain ⟨hfront, hrest⟩ := endures_append_iff.1 hendures
    obtain ⟨hcall, hback⟩ := endures_cons_iff.1 hrest
    have hmiddle := haccounts.after hvalid hfront
    rw [after_append, after] at hfound hsettings
    rw [Visit.reply, hbefore] at hcreated
    obtain ⟨hpins, hin⟩ := hmiddle.pins_created hvalid hcreated
    have hpinned := (hmiddle.serve hvalid hcall).pinned_le hvalid
    rw [← hsettings] at hpage
    obtain ⟨frame, hframe, hlimit, hslot⟩ :=
      hpins.after hpinned hin hback process hfound hstays page hpage
    obtain ⟨position, free, hposition, hfree, rfl⟩ := FreeList.exists_of_getElem?_stack hframe
    rw [hbefore]
    refine ⟨position, free, _, hposition, hfree, hslot, rfl, Entry.frame_mapping hlimit _, ?_,
      Slot.toNat_history_aged _ _⟩
    exact decide_eq_true_iff

/-- Frames for the pinned pages of two processes, and few more. -/
def crowded : Settings where
  pageSize := 4
  userFrames := 7
  tableEntries := 9
  essentialPages := 2
  reserve := 1
  fallback := .mostRecent

/-- The machine with these settings, before any call. -/
def deserted : Machine Aging where
  memory := { settings := crowded, free := .full 7 .mostRecent, policy := .mk }

/-- The first process replaces pages in both of its searches, and the second fails in between. -/
def bustle : List Call := [.spawn 7 #[0, 6, 0], .spawn 7 #[3], .turn, .turn, .turn]

theorem pinned_after_crowded :
    create crowded Aging.mk = .ok deserted ∧ deserted.Endures bustle ∧
      ∃ process, (deserted.after bustle).processes[0]? = some process ∧
        process.terminated = false ∧ process.currentSearch = 2 ∧
        ∃ slot, process.space.table.slot? 1 = some slot ∧ slot.entry.valid = true ∧
          slot.entry.frame = 5 ∧ slot.entry.referenced = false ∧ slot.history.toNat = 0x7FFF := by
  have hcreate : create crowded Aging.mk = .ok deserted := rfl
  have hendures : deserted.Endures bustle := by decide +kernel
  have hfacts : ((deserted.after bustle).processes[0]?).map
      (fun process ↦ (process.terminated, process.currentSearch)) = some (false, 2) := by
    decide +kernel
  obtain ⟨process, hfound, hprocess⟩ := Option.map_eq_some_iff.1 hfacts
  obtain ⟨hstays, hsearch⟩ := Prod.mk.inj hprocess
  have hcreated : (Visit.mk deserted (.spawn 7 #[0, 6, 0])).reply.outcome = .ok (.created 0) := by
    decide +kernel
  obtain ⟨position, free, slot, hposition, hfree, hslot, hvalid, hframe, hreferenced, hhistory⟩ :=
    (pinned_after hcreate hendures hfound hstays).2 _ List.mem_cons_self hcreated 1 (by decide)
  have hplace : position + 1 + 1 = 7 := hposition
  obtain rfl : position = 5 := by omega
  have hnumber : deserted.memory.free.frames[5]?.map (·.frame) = some 5 := by decide
  have hfree' : deserted.memory.free.frames[5]? = some free := hfree
  rw [hfree'] at hnumber
  rw [hsearch] at hreferenced hhistory
  exact ⟨hcreate, hendures, process, hfound, hstays, hsearch, slot, hslot, hvalid,
    hframe.trans (Option.some.inj hnumber), by simpa using hreferenced, hhistory⟩

end Machine

end PagedMemory
