import PagedMemory.Proofs.ByHand

/-!
# When a page comes back to its frame

A frame that lies on the free list keeps its stamp until it is taken.  So if a page of a process
lost its frame, and the frame has been free since, a fault on that page finds a frame with its
stamp, and if the fault is served by a replacement it is served by exact reuse.

Which frame the page gets is another matter.  A cold miss takes the last frame of the list and
leaves an older frame of the page where it is, with its stamp; when the page is evicted again, two
free frames carry the stamp, and the first of them on the list is selected.  `Machine.exact_reuse`
says that the page gets the first frame with its stamp, which is the frame that it lost latest if
there is no other.  `Machine.exact_reuse_of_older` is a life in which there is another, and the page
gets the older one.
-/

namespace PagedMemory

/-- A warm miss on a page that a free frame held last is served by exact reuse, and the page gets
the first such frame on the list. -/
theorem Session.Touch.reuse_of_stamp {ρ : Type} [VictimPolicy ρ] {session : Session ρ} {page : Nat}
    {reply : Answer (Session ρ) Access} (h : Touch session page reply)
    (hstorable : session.Storable) {free : FreeFrame} (hfree : free ∈ session.memory.free.frames)
    (hlast : free.last = some ⟨session.space.process, page⟩) {affinity : Affinity}
    (hwarm : reply.outcome = .ok (.warmMiss affinity)) :
    affinity = .exactReuse ∧ ∃ chosen,
      session.memory.free.frames.find? (·.last = some ⟨session.space.process, page⟩) =
          some chosen ∧
        (page, chosen.frame) ∈ reply.state.space.table.resident := by
  cases h with
  | hit | coldMiss | noVictim | framelessVictim => cases hwarm
  | @warmMiss habsent _ victim _ _ slot frame hslot hframe chosen _ rest hexchange =>
    cases hwarm
    obtain ⟨first, left, hfirst, hexact⟩ := FreeList.exchange?_of_exact hfree hlast
    cases hexchange.symm.trans hexact
    refine ⟨rfl, chosen, hfirst, ?_⟩
    have hlimit : chosen.frame.toNat < Entry.frameLimit := by
      apply hstorable
      have hmember := Array.mem_toList_iff.2 (Array.mem_of_find?_eq_some hfirst)
      exact List.mem_append_right _ (List.mem_map_of_mem hmember)
    obtain ⟨before, hbefore, _⟩ := habsent.unmap victim
    exact PageTable.mem_resident_map (PageTable.lt_size_of_slot?_eq_some hbefore) hlimit

namespace Machine

variable {ρ : Type} [VictimPolicy ρ] {settings : Settings} {machine later : Machine ρ}
  {lost : List FrameNumber} {free : FreeFrame}

omit [VictimPolicy ρ] in
/-- No two free frames have the same number, and none is mapped. -/
theorem Accounts.free_unique (h : machine.Accounts settings lost) (hvalid : settings.Valid)
    (hfree : free ∈ machine.memory.free.frames) :
    free.frame ∉ machine.mappedFrames ∧
      ∀ other ∈ machine.memory.free.frames, other.frame = free.frame → other = free := by
  have hall := h.complete.nodup_iff.2 (Settings.nodup_allFrames hvalid)
  obtain ⟨_, hnumbers, hapart⟩ := List.nodup_append'.1 hall.of_append_left
  have hmember {other : FreeFrame} (hother : other ∈ machine.memory.free.frames) :
      other.frame ∈ machine.freeFrames := List.mem_map_of_mem (Array.mem_toList_iff.2 hother)
  refine ⟨fun hmapped ↦ hapart hmapped (hmember hfree), ?_⟩
  intro other hother hsame
  exact List.inj_on_of_nodup_map hnumbers (Array.mem_toList_iff.2 hother)
    (Array.mem_toList_iff.2 hfree) hsame

/-- A frame that is free after a request as before has kept its stamp. -/
theorem Handling.mem_free_of_stays {request : Request} {reply : Answer (Machine ρ) Service}
    (h : Handling machine request reply) (haccounts : machine.Accounts settings lost)
    (hvalid : settings.Valid) (hfree : free ∈ machine.memory.free.frames)
    (hstays : free.frame ∈ reply.state.freeFrames) : free ∈ reply.state.memory.free.frames := by
  obtain ⟨hunmapped, hunique⟩ := haccounts.free_unique hvalid hfree
  obtain ⟨other, hother, hsame⟩ := List.mem_map.1 hstays
  have hnow := Array.mem_toList_iff.1 hother
  obtain hbefore | ⟨_, hholds, _⟩ := h.mem_free hnow
  · rw [← hunique other hbefore hsame]
    exact hnow
  · rw [hsame] at hholds
    exact absurd hholds.mem_mappedFrames hunmapped

theorem mem_stages_self (machine : Machine ρ) (requests : List Request) :
    machine ∈ machine.stages requests := by
  cases requests <;> exact List.mem_cons_self

/-- A frame that has been free all the time has kept its stamp. -/
theorem Accounts.mem_free_of_stays {requests : List Request} (h : machine.Accounts settings lost)
    (hvalid : settings.Valid) (hbears : machine.Bears requests)
    (hfree : free ∈ machine.memory.free.frames)
    (hstays : ∀ stage ∈ machine.stages requests, free.frame ∈ stage.freeFrames) :
    free ∈ (machine.worked requests).memory.free.frames := by
  induction requests generalizing machine lost with
  | nil => exact hfree
  | cons request requests ih =>
    have hcases := handle_cases (h.pinned_le hvalid) hbears.1
    have hnext := hstays _ (List.mem_cons_of_mem _ (mem_stages_self _ _))
    exact ih (h.handling hvalid hcases) hbears.2 (hcases.mem_free_of_stays h hvalid hfree hnext)
      fun stage hstage ↦ hstays stage (List.mem_cons_of_mem _ hstage)

/-- A page whose frame has been free since the page lost it gets the first free frame with its stamp
if it is brought in by a replacement.  If no other free frame has the stamp, that is the frame which
it lost. -/
theorem exact_reuse {policy : ρ} {before since : List Request} {position page : Nat}
    {process : UserProcess} {frame : FrameNumber} {affinity : Affinity}
    (hcreate : create settings policy = .ok machine) (hbears : machine.Bears (before ++ since))
    (hreleased : { frame := frame, last := some ⟨process.space.process, page⟩ } ∈
      (machine.worked before).memory.free.frames)
    (hstays : ∀ stage ∈ (machine.worked before).stages since, frame ∈ stage.freeFrames)
    (hlater : machine.worked (before ++ since) = later)
    (hfound : later.processes[position]? = some process)
    (hwarm : (later.handle (.reference position page)).outcome =
      .ok (.accessed (.warmMiss affinity))) :
    affinity = .exactReuse ∧ ∃ chosen,
      later.memory.free.frames.find? (·.last = some ⟨process.space.process, page⟩) = some chosen ∧
        (later.handle (.reference position page)).state.Holds ⟨process.space.process, page⟩
          chosen.frame ∧
        ((∀ free ∈ later.memory.free.frames, free.last = some ⟨process.space.process, page⟩ →
          free.frame = frame) → chosen.frame = frame) := by
  obtain ⟨hvalid, hcreated⟩ := accounts_create hcreate
  obtain ⟨hbefore, hsince⟩ := bears_append_iff.1 hbears
  obtain ⟨lost, haccounts⟩ := hcreated.worked hvalid hbefore
  obtain ⟨lost', haccounts'⟩ := haccounts.worked hvalid hsince
  have hfree := haccounts.mem_free_of_stays hvalid hsince hreleased hstays
  rw [← worked_append, hlater] at hfree haccounts'
  have hcases := handle_cases (haccounts'.pinned_le hvalid)
    (by rw [hwarm]; exact nofun : (later.handle (.reference position page)).outcome ≠ .crash)
  generalize later.handle (.reference position page) = reply at hcases hwarm ⊢
  cases hcases with
  | @referenced _ _ process' reply hfound' htouch =>
    obtain rfl : process = process' := Option.some.inj (hfound.symm.trans hfound')
    obtain ⟨access, hserved, haccess⟩ := Outcome.map_eq_ok_iff.1 hwarm
    cases haccess
    have hstorable := (haccounts'.storable hvalid).session hfound
    obtain ⟨hexact, chosen, hfirst, hmapped⟩ := htouch.reuse_of_stamp hstorable hfree rfl hserved
    refine ⟨hexact, chosen, hfirst, ?_, ?_⟩
    · refine ⟨{ process with space := reply.state.space }, ?_, htouch.process_eq, hmapped⟩
      have hinside := (Array.getElem?_eq_some_iff.1 hfound).1
      exact Array.mem_toList_iff.2
        (Array.mem_of_getElem? (getElem?_resume_self hinside reply.state process later.ready))
    · intro hunique
      have hstamp := Array.find?_some hfirst
      exact hunique chosen (Array.mem_of_find?_eq_some hfirst) (of_decide_eq_true hstamp)

/-- Frames for two processes that have little more than their pinned pages. -/
def confined : Settings where
  pageSize := 4
  userFrames := 6
  tableEntries := 5
  essentialPages := 1
  reserve := 2
  fallback := .mostRecent

/-- The machine with these settings, before any request. -/
def untouched : Machine Aging where
  memory := { settings := confined, free := .full 6 .mostRecent, policy := .mk }

/-- Page 1 of process 0 loses its frame. -/
def displacing : List Request :=
  [.create 0 4 #[], .create 1 0 #[], .reference 0 1, .reference 0 2, .reference 0 3]

theorem exact_reuse_confined :
    create confined Aging.mk = .ok untouched ∧
      untouched.Bears (displacing ++ [.reference 0 3]) ∧
      { frame := 3, last := some ⟨0, 1⟩ } ∈ (untouched.worked displacing).memory.free.frames ∧
      (∀ stage ∈ (untouched.worked displacing).stages [.reference 0 3], 3 ∈ stage.freeFrames) ∧
      ((untouched.worked (displacing ++ [.reference 0 3])).handle (.reference 0 1)).outcome =
        .ok (.accessed (.warmMiss .exactReuse)) ∧
      ((untouched.worked (displacing ++ [.reference 0 3])).handle (.reference 0 1)).state.Holds
        ⟨0, 1⟩ 3 := by
  have hcreate : create confined Aging.mk = .ok untouched := rfl
  have hbears : untouched.Bears (displacing ++ [.reference 0 3]) := by decide +kernel
  have hreleased : { frame := 3, last := some ⟨0, 1⟩ } ∈
      (untouched.worked displacing).memory.free.frames := by
    decide +kernel
  have hstays : ∀ stage ∈ (untouched.worked displacing).stages [.reference 0 3],
      3 ∈ stage.freeFrames := by
    decide +kernel
  have hwarm : ((untouched.worked (displacing ++ [.reference 0 3])).handle
      (.reference 0 1)).outcome = .ok (.accessed (.warmMiss .exactReuse)) := by
    decide +kernel
  have hnumber : ((untouched.worked (displacing ++ [.reference 0 3])).processes[0]?).map
      (·.space.process) = some 0 := by
    decide +kernel
  have honly : ∀ free ∈ (untouched.worked (displacing ++ [.reference 0 3])).memory.free.frames,
      free.last = some ⟨0, 1⟩ → free.frame = 3 := by
    decide +kernel
  obtain ⟨process, hfound, hprocess⟩ := Option.map_eq_some_iff.1 hnumber
  have hreleased' : { frame := 3, last := some ⟨process.space.process, 1⟩ } ∈
      (untouched.worked displacing).memory.free.frames := by
    rw [hprocess]
    exact hreleased
  obtain ⟨_, chosen, _, hholds, hlatest⟩ :=
    exact_reuse hcreate hbears hreleased' hstays rfl hfound hwarm
  rw [hprocess] at hholds hlatest
  rw [hlatest honly] at hholds
  exact ⟨hcreate, hbears, hreleased, hstays, hwarm, hholds⟩

/-- Page 1 of process 0 loses its frame and is brought into another one by a cold miss. -/
def displacingTwice : List Request := displacing ++ [.release 1, .reference 0 1]

/-- A page does not always come back to the frame that it lost latest. -/
theorem exact_reuse_of_older :
    create confined Aging.mk = .ok untouched ∧
      untouched.Bears (displacingTwice ++ [.reference 0 4, .reference 0 1]) ∧
      (untouched.worked displacingTwice).Holds ⟨0, 1⟩ 4 ∧
      { frame := 4, last := some ⟨0, 1⟩ } ∈
        (untouched.worked (displacingTwice ++ [.reference 0 4])).memory.free.frames ∧
      ((untouched.worked (displacingTwice ++ [.reference 0 4])).handle (.reference 0 1)).outcome =
        .ok (.accessed (.warmMiss .exactReuse)) ∧
      (untouched.worked (displacingTwice ++ [.reference 0 4, .reference 0 1])).Holds ⟨0, 1⟩ 3 ∧
      ¬ (untouched.worked (displacingTwice ++ [.reference 0 4, .reference 0 1])).Holds ⟨0, 1⟩ 4 :=
  ⟨rfl, by decide +kernel, by decide +kernel, by decide +kernel, by decide +kernel,
    by decide +kernel, by decide +kernel⟩

end Machine

end PagedMemory
