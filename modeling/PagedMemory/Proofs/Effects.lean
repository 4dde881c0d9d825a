import PagedMemory.Proofs.Provenance
import PagedMemory.Proofs.Upkeep

/-!
# What a reference changes, and what it leaves alone

Whatever the policy answers, a reference that succeeds changes a known part of the memory and of its
process, and one that fails changes nothing but two counters of each.  `Session.Marks`,
`Session.Fills` and `Session.Swaps` say what a hit, a cold miss and a warm miss do: to the page, to
the victim, to the free list and to the counters, and that the rest stays.

`Machine.reference_effect` says when a reference goes which way, in any machine that has been worked
by hand, and `Machine.reference_failure` what a failure means.  A failure leaves the table as it was
although the victim is unmapped before it is known to have a frame: a page without a frame has a
blank entry already, by `PageTable.Clean.unmap_eq_self`.
-/

namespace PagedMemory

/-- On an empty list the frame that is given back is the only one to take.  The process that takes
it has held it, for another page. -/
theorem FreeList.exchange?_of_empty {list : FreeList} {incoming leaving : Holder}
    {frame : FrameNumber} (hempty : list.size = 0) (hother : leaving ≠ incoming)
    (howner : leaving.process = incoming.process) :
    list.exchange? incoming frame leaving =
      some ({ frame := frame, last := some leaving }, .sameOwner, list) := by
  have hnone : list.frames = #[] := Array.eq_empty_of_size_eq_zero hempty
  obtain ⟨frames, rule, stream⟩ := list
  simp only at hnone
  subst hnone
  have haffine : (release ⟨#[], rule, stream⟩ frame leaving).affine? incoming =
      some (0, .sameOwner) := by
    simp [affine?, release, Affinity.admits, howner, hother]
  unfold exchange? select?
  rw [if_pos (isEmpty_iff.2 hempty)]
  simp only [haffine]
  rfl

/-- On any other list the selection is made before the frame is given back. -/
theorem FreeList.exchange?_of_nonempty {list : FreeList} {incoming leaving : Holder}
    {frame : FrameNumber} (hsome : list.size ≠ 0) :
    list.exchange? incoming frame leaving =
      (list.select? incoming).map fun (chosen, affinity, rest) ↦
        (chosen, affinity, rest.release frame leaving) := by
  unfold exchange?
  rw [if_neg (isEmpty_iff.not.2 hsome)]

namespace PageTable

/-- The page is in this frame, counts as touched, and has a register full of ones. -/
def HoldsFresh (table : PageTable) (page : Nat) (frame : FrameNumber) : Prop :=
  ∃ slot, table.slot? page = some slot ∧ slot.entry.valid = true ∧
    slot.entry.referenced = true ∧ slot.entry.frame = frame ∧ slot.history = 0xFFFF

theorem holdsFresh_map {table : PageTable} {page : Nat} {frame : FrameNumber}
    (hin : page < table.size) (hlimit : frame.toNat < Entry.frameLimit) :
    (table.map page frame).HoldsFresh page frame := by
  obtain ⟨slot, hslot⟩ : ∃ slot, table.slot? page = some slot :=
    ⟨_, Array.getElem?_eq_getElem hin⟩
  refine ⟨.loaded frame, ?_, rfl, rfl, Entry.frame_mapping hlimit true, rfl⟩
  rw [slot?_map, if_pos rfl, hslot, Option.map_some]

end PageTable

namespace Session

variable {ρ : Type} [VictimPolicy ρ]

/-! ## The three ways to succeed -/

/-- What a hit does: the page counts as touched. -/
structure Marks (before after : Session ρ) (page : Nat) : Prop where
  marked : ∃ slot, before.space.table.slot? page = some slot ∧
    after.space.table.slot? page =
      some { slot with entry := { slot.entry with referenced := true } }
  others : ∀ other ≠ page, after.space.table.slot? other = before.space.table.slot? other
  rest : after = before.settle .withAccess before.memory.free before.memory.policy
    after.space.table

/-- What a cold miss does: the page gets the last free frame. -/
structure Fills (before after : Session ρ) (page : Nat) : Prop where
  filled : ∃ chosen : FreeFrame,
    before.memory.free.frames = after.memory.free.frames.push chosen ∧
      after.space.table.HoldsFresh page chosen.frame
  others : ∀ other ≠ page, after.space.table.slot? other = before.space.table.slot? other
  rest : after = before.settle .withFault
    { before.memory.free with frames := after.memory.free.frames } before.memory.policy
    after.space.table

/-- What a warm miss does: the page gets the free frame that suits it best, and the frame of the
victim goes to the end of the free list.  If the list is empty, the page gets the frame of the
victim itself, and the list stays empty. -/
structure Swaps (before after : Session ρ) (page victim : Nat) (affinity : Affinity) : Prop where
  evicted : ∃ slot, before.space.table.slot? victim = some slot ∧
    after.space.table.slot? victim = some { slot with entry := .empty }
  exchanged : ∃ left taken, (victim, left) ∈ before.space.table.resident ∧
    after.space.table.HoldsFresh page taken ∧
    (before.memory.free.size ≠ 0 → ∃ chosen rest,
      before.memory.free.select? ⟨before.space.process, page⟩ = some (chosen, affinity, rest) ∧
        taken = chosen.frame ∧
        after.memory.free = rest.release left ⟨before.space.process, victim⟩) ∧
    (before.memory.free.size = 0 →
      affinity = .sameOwner ∧ taken = left ∧ after.memory.free = before.memory.free)
  others : ∀ other, other ≠ page → other ≠ victim →
    after.space.table.slot? other = before.space.table.slot? other
  rest : after = before.settle (·.withReplacement affinity) after.memory.free before.pickVictim.2
    after.space.table

variable {session : Session ρ} {page : Nat} {reply : Answer (Session ρ) Access}

theorem Touch.marks (h : Touch session page reply) (hhit : reply.outcome = .ok .hit) :
    session.Marks reply.state page := by
  cases h with
  | hit hresident =>
    obtain ⟨slot, hslot, _⟩ := hresident
    constructor
    case marked =>
      refine ⟨slot, hslot, ?_⟩
      rw [table_settle, PageTable.slot?_markReferenced, if_pos rfl, hslot]
      rfl
    case others =>
      intro other hother
      rw [table_settle, PageTable.slot?_markReferenced, if_neg hother.symm]
    case rest => rfl
  | coldMiss | noVictim | framelessVictim | warmMiss => cases hhit

theorem Touch.fills (h : Touch session page reply) (hstorable : session.Storable)
    (hcold : reply.outcome = .ok .coldMiss) : session.Fills reply.state page := by
  cases h with
  | @coldMiss habsent _ chosen rest hpop =>
    obtain ⟨slot, hslot, _⟩ := habsent
    obtain ⟨hframes, hrule, hstream⟩ := FreeList.of_pop?_eq_some hpop
    have hin := PageTable.lt_size_of_slot?_eq_some hslot
    have hlimit : chosen.frame.toNat < Entry.frameLimit :=
      hstorable _ (List.mem_append_right _ (FreeList.mem_numbers_of_pop? hpop))
    constructor
    case filled => exact ⟨chosen, hframes, PageTable.holdsFresh_map hin hlimit⟩
    case others =>
      intro other hother
      rw [table_settle, PageTable.slot?_map, if_neg hother.symm]
    case rest =>
      obtain ⟨frames, rule, stream⟩ := rest
      simp only at hrule hstream
      rw [hrule, hstream]
      rfl
  | hit | noVictim | framelessVictim | warmMiss => cases hcold

theorem Touch.swaps (h : Touch session page reply) (hstorable : session.Storable)
    {affinity : Affinity} (hwarm : reply.outcome = .ok (.warmMiss affinity)) :
    ∃ victim, session.pickVictim.1 = some victim ∧
      session.Swaps reply.state page victim affinity := by
  cases h with
  | @warmMiss habsent _ victim policy hpick slot left hslot hleft chosen _ free hexchange =>
    cases hwarm
    have hresident : (victim, left) ∈ session.space.table.resident :=
      PageTable.mem_resident_iff.2 ⟨slot, hslot, hleft⟩
    have hne : page ≠ victim := by
      rintro rfl
      exact habsent.not_resident ⟨slot, hslot, (Entry.frame?_eq_some_iff.1 hleft).1⟩
    refine ⟨victim, congrArg Prod.fst hpick, ?_⟩
    constructor
    case evicted =>
      refine ⟨slot, hslot, ?_⟩
      rw [table_settle, PageTable.slot?_map, if_neg hne, PageTable.slot?_unmap, if_pos rfl, hslot]
      rfl
    case exchanged =>
      refine ⟨left, chosen.frame, hresident, ?_, ?_, ?_⟩
      · obtain ⟨before, hbefore, _⟩ := habsent.unmap victim
        exact PageTable.holdsFresh_map (PageTable.lt_size_of_slot?_eq_some hbefore)
          (hstorable _ (mem_held_of_exchange? hslot hleft hexchange))
      · intro hsome
        rw [FreeList.exchange?_of_nonempty hsome] at hexchange
        obtain ⟨⟨_, _, rest⟩, hselect, heq⟩ := Option.map_eq_some_iff.1 hexchange
        cases heq
        exact ⟨chosen, rest, hselect, rfl, rfl⟩
      · intro hempty
        have hother : Holder.mk session.space.process victim ≠ ⟨session.space.process, page⟩ :=
          fun hsame ↦ hne (congrArg Holder.page hsame).symm
        rw [FreeList.exchange?_of_empty hempty hother rfl] at hexchange
        cases hexchange
        exact ⟨rfl, rfl, rfl⟩
    case others =>
      intro other hpage hvictim
      rw [table_settle, PageTable.slot?_map, if_neg hpage.symm, PageTable.slot?_unmap,
        if_neg hvictim.symm]
    case rest =>
      rw [hpick]
      rfl
  | hit | coldMiss | noVictim | framelessVictim => cases hwarm

/-! ## Which way a reference goes -/

theorem Touch.hit_iff (h : Touch session page reply) :
    reply.outcome = .ok .hit ↔ session.space.table.Resident page := by
  cases h with
  | hit hresident => exact iff_of_true rfl hresident
  | coldMiss habsent | noVictim habsent | framelessVictim habsent | warmMiss habsent =>
    exact iff_of_false nofun habsent.not_resident

theorem Touch.coldMiss_iff (h : Touch session page reply) :
    reply.outcome = .ok .coldMiss ↔
      ¬ session.space.table.Resident page ∧
        session.memory.settings.reserve < session.memory.free.size := by
  cases h with
  | hit hresident => exact iff_of_false nofun fun hcold ↦ hcold.1 hresident
  | coldMiss habsent hroomy => exact iff_of_true rfl ⟨habsent.not_resident, hroomy⟩
  | noVictim _ hshort | framelessVictim _ hshort | warmMiss _ hshort =>
    exact iff_of_false nofun fun hcold ↦ Nat.not_lt_of_le hshort hcold.2

theorem Touch.warmMiss_iff (h : Touch session page reply) :
    (∃ affinity, reply.outcome = .ok (.warmMiss affinity)) ↔
      ¬ session.space.table.Resident page ∧
        session.memory.free.size ≤ session.memory.settings.reserve ∧
        ∃ victim, session.pickVictim.1 = some victim ∧ session.space.table.Resident victim := by
  cases h with
  | hit hresident => exact iff_of_false nofun fun hwarm ↦ hwarm.1 hresident
  | coldMiss _ hroomy => exact iff_of_false nofun fun hwarm ↦ Nat.not_lt_of_le hwarm.2.1 hroomy
  | noVictim _ _ hpick =>
    refine iff_of_false nofun ?_
    rintro ⟨_, _, victim, hnamed, _⟩
    rw [hpick] at hnamed
    cases hnamed
  | framelessVictim _ _ hpick hvictim =>
    refine iff_of_false nofun ?_
    rintro ⟨_, _, victim, hnamed, hresident⟩
    rw [hpick] at hnamed
    cases hnamed
    exact hvictim.not_resident hresident
  | warmMiss habsent hshort hpick hslot hframe =>
    refine iff_of_true ⟨_, rfl⟩ ⟨habsent.not_resident, hshort, _, congrArg Prod.fst hpick, ?_⟩
    exact ⟨_, hslot, (Entry.frame?_eq_some_iff.1 hframe).1⟩

/-- A reference fails because the policy names no page, or one that is not resident, and then
changes only two counters of the process and two of the machine. -/
theorem Touch.of_error (h : Touch session page reply) (hclean : session.space.table.Clean)
    {reason : PagingError} (hfailed : reply.outcome = .error reason) :
    ¬ session.space.table.Resident page ∧
      session.memory.free.size ≤ session.memory.settings.reserve ∧
      reply.state = session.settle .withFault session.memory.free session.pickVictim.2
        session.space.table ∧
      (session.pickVictim.1 = none ∧ reason = .noVictim session.space.process page ∨
        ∃ victim, session.pickVictim.1 = some victim ∧ victim < session.space.table.size ∧
          ¬ session.space.table.Resident victim ∧
          reason = .frameOwnership (.framelessVictim victim session.space.process)) := by
  cases h with
  | hit | coldMiss | warmMiss => cases hfailed
  | noVictim habsent hshort hpick =>
    cases hfailed
    refine ⟨habsent.not_resident, hshort, ?_, .inl ⟨congrArg Prod.fst hpick, rfl⟩⟩
    rw [hpick]
  | framelessVictim habsent hshort hpick hvictim =>
    cases hfailed
    have hframeless := hvictim.not_resident
    obtain ⟨slot, hslot, _⟩ := hvictim
    refine ⟨habsent.not_resident, hshort, ?_, .inr ⟨_, congrArg Prod.fst hpick,
      PageTable.lt_size_of_slot?_eq_some hslot, hframeless, rfl⟩⟩
    rw [hpick, hclean.unmap_eq_self hframeless]

/-- A full counter of accesses ends every reference. -/
theorem reference_of_full (hfull : Word.bound ≤ session.memory.counters.accesses + 1) :
    (session.reference page).outcome = .crash := by
  have hnone : session.count? Counters.recordAccess? = none := by
    rw [Option.eq_none_iff_forall_ne_some]
    intro counted hcounted
    obtain ⟨_, _, _, hshared, _⟩ := of_count?_eq_some hcounted
    exact Nat.not_lt_of_le hfull (Counters.recordAccess?_eq_some_iff.1 hshared).1
  unfold reference
  rw [hnone]
  rfl

/-- A reference to a page of the table crashes if the machine's counter of accesses is full, or if
the policy is asked and names a page outside the table. -/
theorem reference_eq_crash_iff {settings : Settings}
    (hkept : session.space.Kept settings session.memory.counters)
    (hshared : session.memory.counters.Consistent) (hpage : page < settings.tableEntries) :
    (session.reference page).outcome = .crash ↔
      Word.bound ≤ session.memory.counters.accesses + 1 ∨
        ¬ session.space.table.Resident page ∧
          session.memory.free.size ≤ session.memory.settings.reserve ∧
          ∃ victim, session.pickVictim.1 = some victim ∧ settings.tableEntries ≤ victim := by
  rw [← hkept.size_table] at hpage ⊢
  constructor
  · intro hcrash
    by_contra hnot
    obtain ⟨hroom, hnamed⟩ := not_or.1 hnot
    have hle := hkept.accesses_le
    have hroomy : session.Roomy := ⟨hkept.consistent, hshared, by omega, by omega⟩
    refine hroomy.reference_ne_crash hpage ?_ hcrash
    intro habsent hshort victim policy hpick
    by_contra hout
    exact hnamed ⟨habsent, hshort, victim, congrArg Prod.fst hpick, Nat.le_of_not_lt hout⟩
  · rintro (hfull | ⟨habsent, hshort, victim, hnamed, hout⟩)
    · exact reference_of_full hfull
    · by_contra hrunning
      have htouch := touch_reference hrunning
      generalize session.reference page = reply at htouch
      cases htouch with
      | hit hresident => exact habsent hresident
      | coldMiss _ hroomy => exact Nat.not_lt_of_le hshort hroomy
      | noVictim _ _ hpick =>
        rw [hpick] at hnamed
        cases hnamed
      | framelessVictim _ _ hpick hvictim =>
        rw [hpick] at hnamed
        cases hnamed
        obtain ⟨slot, hslot, _⟩ := hvictim
        exact Nat.not_lt_of_le hout (PageTable.lt_size_of_slot?_eq_some hslot)
      | warmMiss _ _ hpick hslot =>
        rw [hpick] at hnamed
        cases hnamed
        exact Nat.not_lt_of_le hout (PageTable.lt_size_of_slot?_eq_some hslot)

/-- While there is room for one more access, a reference succeeds in the way that residence, the
free list and the policy's answer determine, and in no other case. -/
theorem reference_ok_iff {settings : Settings}
    (hkept : session.space.Kept settings session.memory.counters)
    (hshared : session.memory.counters.Consistent) (hpage : page < settings.tableEntries)
    (hroom : session.memory.counters.accesses + 1 < Word.bound) :
    ((session.reference page).outcome = .ok .hit ↔ session.space.table.Resident page) ∧
    ((session.reference page).outcome = .ok .coldMiss ↔
      ¬ session.space.table.Resident page ∧
        session.memory.settings.reserve < session.memory.free.size) ∧
    ((∃ affinity, (session.reference page).outcome = .ok (.warmMiss affinity)) ↔
      ¬ session.space.table.Resident page ∧
        session.memory.free.size ≤ session.memory.settings.reserve ∧
        ∃ victim, session.pickVictim.1 = some victim ∧ session.space.table.Resident victim) := by
  by_cases hcrash : (session.reference page).outcome = .crash
  · -- A crash leaves none of the three conditions: the policy has named a page outside the table.
    obtain hfull | ⟨habsent, hshort, victim, hnamed, hout⟩ :=
      (reference_eq_crash_iff hkept hshared hpage).1 hcrash
    · exact absurd hroom (Nat.not_lt_of_le hfull)
    · rw [hcrash]
      refine ⟨iff_of_false nofun habsent,
        iff_of_false nofun fun hcold ↦ Nat.not_lt_of_le hshort hcold.2, iff_of_false nofun ?_⟩
      rintro ⟨_, _, other, hother, hresident⟩
      cases hnamed.symm.trans hother
      rw [← hkept.size_table] at hout
      exact Nat.not_lt_of_le hout hresident.lt_size
  · have htouch := touch_reference hcrash
    exact ⟨htouch.hit_iff, htouch.coldMiss_iff, htouch.warmMiss_iff⟩

end Session

/-! ## Machines that are worked by hand -/

namespace Machine

variable {ρ : Type} [VictimPolicy ρ] {settings : Settings} {policy : ρ} {machine : Machine ρ}
  {requests : List Request} {position page : Nat} {process : UserProcess}

/-- The session of any process of a machine that has been worked by hand is in order, and its frames
can be stored. -/
theorem session_worked (hcreate : create settings policy = .ok machine)
    (hbears : machine.Bears requests)
    (hfound : (machine.worked requests).processes[position]? = some process) :
    (machine.worked requests).memory.settings = settings ∧
      (machine.worked requests).memory.counters.Consistent ∧
      process.space.Kept settings (machine.worked requests).memory.counters ∧
      ((machine.worked requests).session process).Storable := by
  obtain ⟨hvalid, haccounts⟩ := accounts_create hcreate
  obtain ⟨lost, hlater⟩ := haccounts.worked hvalid hbears
  have hkept := (kept_create hcreate).worked hvalid hbears
  exact ⟨hkept.settings_eq, hkept.consistent, hkept.spaces position process hfound,
    (hlater.storable hvalid).session hfound⟩

/-- Take any machine that has been worked by hand, whatever its policy answers, and a page of the
table of one of its processes.  A reference crashes only if the machine's counter of accesses is
full or if the policy is asked and names a page outside the table.  While the counter has room, a
reference is a hit if and only if the page is resident, a cold miss if and only if it is not and
more frames are free than are kept in reserve, and a warm miss if and only if it is not, no more
frames are free, and the policy names a page that is resident.  Each of the three does what
`Session.Marks`, `Session.Fills` and `Session.Swaps` say and nothing else. -/
theorem reference_effect (hcreate : create settings policy = .ok machine)
    (hbears : machine.Bears requests)
    (hfound : (machine.worked requests).processes[position]? = some process)
    (hpage : page < settings.tableEntries) :
    let session := (machine.worked requests).session process
    let reply := session.reference page
    let resident := session.space.table.Resident
    let free := session.memory.free.size
    (reply.outcome = .crash ↔ Word.bound ≤ session.memory.counters.accesses + 1 ∨
      ¬ resident page ∧ free ≤ settings.reserve ∧
        ∃ victim, session.pickVictim.1 = some victim ∧ settings.tableEntries ≤ victim) ∧
    (session.memory.counters.accesses + 1 < Word.bound →
      (reply.outcome = .ok .hit ↔ resident page) ∧
      (reply.outcome = .ok .coldMiss ↔ ¬ resident page ∧ settings.reserve < free) ∧
      ((∃ affinity, reply.outcome = .ok (.warmMiss affinity)) ↔
        ¬ resident page ∧ free ≤ settings.reserve ∧
          ∃ victim, session.pickVictim.1 = some victim ∧ resident victim)) ∧
    (reply.outcome = .ok .hit → session.Marks reply.state page) ∧
    (reply.outcome = .ok .coldMiss → session.Fills reply.state page) ∧
    ∀ affinity, reply.outcome = .ok (.warmMiss affinity) →
      ∃ victim, session.pickVictim.1 = some victim ∧
        session.Swaps reply.state page victim affinity := by
  obtain ⟨hsettings, hconsistent, hkept, hstorable⟩ := session_worked hcreate hbears hfound
  have htouch {access : Access}
      (hok : (((machine.worked requests).session process).reference page).outcome = .ok access) :=
    Session.touch_reference (hok.trans_ne Outcome.ok_ne_crash)
  rw [← hsettings] at hkept hpage ⊢
  refine ⟨Session.reference_eq_crash_iff hkept hconsistent hpage,
    Session.reference_ok_iff hkept hconsistent hpage, ?_, ?_, ?_⟩
  · exact fun hhit ↦ (htouch hhit).marks hhit
  · exact fun hcold ↦ (htouch hcold).fills hstorable hcold
  · exact fun affinity hwarm ↦ (htouch hwarm).swaps hstorable hwarm

/-- A process whose pages `1` and `2` have used up the frames of the machine. -/
def crowding : List Request := [.create 0 4 #[], .reference 0 1, .reference 0 2]

/-- With no frame free, page `3` takes the frame of page `1`, and page `2` is a hit. -/
theorem reference_effect_crowding :
    create cramped Aging.mk = .ok pristine ∧ pristine.Bears crowding ∧
      ∃ process ∈ (pristine.worked crowding).processes[0]?,
        (((pristine.worked crowding).session process).reference 3).outcome =
            .ok (.warmMiss .sameOwner) ∧
          ((pristine.worked crowding).session process).Swaps
            (((pristine.worked crowding).session process).reference 3).state 3 1 .sameOwner ∧
          ((pristine.worked crowding).session process).Marks
            (((pristine.worked crowding).session process).reference 2).state 2 := by
  have hcreate : create cramped Aging.mk = .ok pristine := rfl
  have hbears : pristine.Bears crowding := by decide +kernel
  obtain ⟨process, hfound, hwarm, hpick, hhit⟩ :
      ∃ process ∈ (pristine.worked crowding).processes[0]?,
        (((pristine.worked crowding).session process).reference 3).outcome =
            .ok (.warmMiss .sameOwner) ∧
          ((pristine.worked crowding).session process).pickVictim.1 = some 1 ∧
          (((pristine.worked crowding).session process).reference 2).outcome = .ok .hit := by
    decide +kernel
  obtain ⟨_, _, _, _, hswaps⟩ := reference_effect hcreate hbears hfound (show 3 < 5 by decide)
  obtain ⟨_, _, hmarks, _⟩ := reference_effect hcreate hbears hfound (show 2 < 5 by decide)
  obtain ⟨victim, hvictim, hswapped⟩ := hswaps _ hwarm
  cases hpick.symm.trans hvictim
  exact ⟨hcreate, hbears, process, hfound, hwarm, hswapped, hmarks hhit⟩

/-- Take any machine that has been worked by hand, whatever its policy answers.  A reference of one
of its processes that fails is to a page that is not resident, while no more frames are free than
are kept in reserve.  It fails with the error that no victim was found if the policy names no page,
and otherwise the policy has named a page of the table that is not resident, and the error says so.
No reference runs out of frames or finds the free list empty.  A failure leaves the table and the
free list as they were, with the stream that draws are made from; it is charged as an access and a
fault to the process and to the machine, and nothing else has changed but what the policy keeps for
itself. -/
theorem reference_failure {reason : PagingError} (hcreate : create settings policy = .ok machine)
    (hbears : machine.Bears requests)
    (hfound : (machine.worked requests).processes[position]? = some process)
    (hfailed : (((machine.worked requests).session process).reference page).outcome =
      .error reason) :
    let session := (machine.worked requests).session process
    let after := (session.reference page).state
    let owner := process.space.process
    let resident := session.space.table.Resident
    (¬ resident page ∧ session.memory.free.size ≤ settings.reserve) ∧
    (session.pickVictim.1 = none ∧ reason = .noVictim owner page ∨
      ∃ victim, session.pickVictim.1 = some victim ∧ victim < settings.tableEntries ∧
        ¬ resident victim ∧ reason = .frameOwnership (.framelessVictim victim owner) ∧
        (OwnershipFlaw.framelessVictim victim owner).describe =
          s!"victim page {victim} of process {owner} has no frame") ∧
    (∀ other, reason ≠ .outOfFrames other) ∧
    (∀ victim other, reason ≠ .frameOwnership (.emptyPool victim other)) ∧
    after.memory = { session.memory with
      policy := session.pickVictim.2
      counters := { session.memory.counters with
        accesses := session.memory.counters.accesses + 1
        faults := session.memory.counters.faults + 1 } } ∧
    after.space = { session.space with
      counters := { session.space.counters with
        accesses := session.space.counters.accesses + 1
        faults := session.space.counters.faults + 1 } } := by
  obtain ⟨hsettings, _, hkept, _⟩ := session_worked hcreate hbears hfound
  rw [← hsettings] at hkept ⊢
  have htouch := Session.touch_reference (hfailed.trans_ne Outcome.error_ne_crash)
  obtain ⟨habsent, hshort, hstate, hreason⟩ := htouch.of_error hkept.clean hfailed
  refine ⟨⟨habsent, hshort⟩, ?_, ?_, ?_, congrArg Session.memory hstate,
    congrArg Session.space hstate⟩
  · obtain hnone | ⟨victim, hpick, hin, hframeless, hflaw⟩ := hreason
    · exact .inl hnone
    · have hvictim := Nat.lt_of_lt_of_eq hin hkept.size_table
      exact .inr ⟨victim, hpick, hvictim, hframeless, hflaw, rfl⟩
  · obtain ⟨_, rfl⟩ | ⟨_, _, _, _, rfl⟩ := hreason <;> exact nofun
  · obtain ⟨_, rfl⟩ | ⟨_, _, _, _, rfl⟩ := hreason <;> exact nofun

/-- The machine with the settings `cramped` and a policy that names page `4`, whoever asks first. -/
def misled : Machine Scripted where
  memory := { settings := cramped, free := .full 3 .mostRecent, policy := .mk [some 4] }

/-- Page `4` has no frame to give to page `3`. -/
theorem reference_failure_crowding :
    create cramped (Scripted.mk [some 4]) = .ok misled ∧ misled.Bears crowding ∧
      ∃ process ∈ (misled.worked crowding).processes[0]?,
        (((misled.worked crowding).session process).reference 3).outcome =
            .error (.frameOwnership (.framelessVictim 4 0)) ∧
          (((misled.worked crowding).session process).reference 3).state.space.table =
            process.space.table := by
  have hcreate : create cramped (Scripted.mk [some 4]) = .ok misled := rfl
  have hbears : misled.Bears crowding := by decide +kernel
  obtain ⟨process, hfound, hfailed⟩ : ∃ process ∈ (misled.worked crowding).processes[0]?,
      (((misled.worked crowding).session process).reference 3).outcome =
        .error (.frameOwnership (.framelessVictim 4 0)) := by decide +kernel
  obtain ⟨_, _, _, _, _, hspace⟩ := reference_failure hcreate hbears hfound hfailed
  have htable := congrArg AddressSpace.table hspace
  exact ⟨hcreate, hbears, process, hfound, hfailed, htable⟩

end Machine

end PagedMemory
