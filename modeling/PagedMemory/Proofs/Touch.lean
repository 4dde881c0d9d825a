import PagedMemory.Memory
import PagedMemory.Proofs.Charges
import PagedMemory.Proofs.Residents
import PagedMemory.Proofs.Selection

/-!
# How a reference to a page goes

`Session.Touch` lists the five ways in which a reference can go without a crash: a hit, a cold miss,
a warm miss, and two failures of a fault that found the free list short.  Each way comes with the
condition under which it is taken and with the whole reply, state and events included, so that
whatever holds of a reference is a case analysis on `Session.touch_reference` and nobody opens
`Session.reference` again.  Two errors that the program provides for never occur: a list that is
longer than the reserve has a frame to give, and an exchange always finds one.

`Session.reference_ne_crash` says when a reference does not crash: the page lies in the table, the
victim too, and no counter overflows.
-/

namespace PagedMemory.Session

variable {ρ : Type}

/-- The session after a reference: new books, and the same charge for the process and the machine.
-/
def settle (session : Session ρ) (charge : Counters → Counters) (free : FreeList) (policy : ρ)
    (table : PageTable) : Session ρ where
  memory :=
    { session.memory with
      free := free, policy := policy, counters := charge session.memory.counters }
  space := { session.space with table := table, counters := charge session.space.counters }

section

variable (session : Session ρ) (charge : Counters → Counters) (free : FreeList) (policy : ρ)
  (table : PageTable)

@[simp] theorem settings_settle :
    (session.settle charge free policy table).memory.settings = session.memory.settings := rfl

@[simp] theorem free_settle : (session.settle charge free policy table).memory.free = free := rfl

@[simp] theorem policy_settle :
    (session.settle charge free policy table).memory.policy = policy := rfl

@[simp] theorem memory_counters_settle :
    (session.settle charge free policy table).memory.counters =
      charge session.memory.counters := rfl

@[simp] theorem process_settle :
    (session.settle charge free policy table).space.process = session.space.process := rfl

@[simp] theorem table_settle : (session.settle charge free policy table).space.table = table := rfl

@[simp] theorem space_counters_settle :
    (session.settle charge free policy table).space.counters =
      charge session.space.counters := rfl

@[simp] theorem withFree_settle (other : FreeList) :
    (session.settle charge free policy table).withFree other =
      session.settle charge other policy table := rfl

@[simp] theorem withPolicy_settle (other : ρ) :
    (session.settle charge free policy table).withPolicy other =
      session.settle charge free other table := rfl

@[simp] theorem withTable_settle (other : PageTable) :
    (session.settle charge free policy table).withTable other =
      session.settle charge free policy other := rfl

end

variable [VictimPolicy ρ]

/-- What the policy answers when the process has to give up a page. -/
def pickVictim (session : Session ρ) : Option Nat × ρ :=
  VictimPolicy.pick session.memory.policy session.space.table
    session.memory.settings.essentialPages

/-- The ways in which a reference to `page` can go, with the replies that they give. -/
inductive Touch (session : Session ρ) (page : Nat) : Answer (Session ρ) Access → Prop
  | hit (hresident : session.space.table.Resident page) :
    Touch session page
      ⟨.ok .hit,
        session.settle .withAccess session.memory.free session.memory.policy
          (session.space.table.markReferenced page),
        [.pageHit session.space.process page]⟩
  | coldMiss (habsent : session.space.table.Absent page)
    (hroomy : session.memory.settings.reserve < session.memory.free.size) {chosen : FreeFrame}
    {rest : FreeList} (hpop : session.memory.free.pop? = some (chosen, rest)) :
    Touch session page
      ⟨.ok .coldMiss,
        session.settle .withFault rest session.memory.policy
          (session.space.table.map page chosen.frame),
        [.freeFrameFound page (Slot.loaded chosen.frame).entry.frame]⟩
  | noVictim (habsent : session.space.table.Absent page)
    (hshort : session.memory.free.size ≤ session.memory.settings.reserve) {policy : ρ}
    (hpick : session.pickVictim = (none, policy)) :
    Touch session page
      ⟨.error (.noVictim session.space.process page),
        session.settle .withFault session.memory.free policy session.space.table, []⟩
  | framelessVictim (habsent : session.space.table.Absent page)
    (hshort : session.memory.free.size ≤ session.memory.settings.reserve)
    {victim : Nat} {policy : ρ}
    (hpick : session.pickVictim = (some victim, policy))
    (hvictim : session.space.table.Absent victim) :
    Touch session page
      ⟨.error (.frameOwnership (.framelessVictim victim session.space.process)),
        session.settle .withFault session.memory.free policy (session.space.table.unmap victim),
        []⟩
  | warmMiss (habsent : session.space.table.Absent page)
    (hshort : session.memory.free.size ≤ session.memory.settings.reserve)
    {victim : Nat} {policy : ρ}
    (hpick : session.pickVictim = (some victim, policy)) {slot : Slot} {frame : FrameNumber}
    (hslot : session.space.table.slot? victim = some slot)
    (hframe : slot.entry.frame? = some frame) {chosen : FreeFrame} {affinity : Affinity}
    {rest : FreeList}
    (hexchange : session.memory.free.exchange? ⟨session.space.process, page⟩ frame
      ⟨session.space.process, victim⟩ = some (chosen, affinity, rest)) :
    Touch session page
      ⟨.ok (.warmMiss affinity),
        session.settle (·.withReplacement affinity) rest policy
          ((session.space.table.unmap victim).map page chosen.frame),
        [.victimReplaced page victim frame slot.history,
          .framePicked affinity chosen.frame ⟨session.space.process, page⟩]⟩

/-! ## Every reference goes in one of these ways -/

omit [VictimPolicy ρ] in
theorem of_count?_eq_some {session counted : Session ρ} {record? : Counters → Option Counters}
    (h : session.count? record? = some counted) :
    ∃ own shared, record? session.space.counters = some own ∧
      record? session.memory.counters = some shared ∧
      counted = ⟨{ session.memory with counters := shared },
        { session.space with counters := own }⟩ := by
  simp only [count?, Option.bind_eq_bind, Option.bind_eq_some_iff] at h
  obtain ⟨own, hown, shared, hshared, hcounted⟩ := h
  cases hcounted
  exact ⟨own, shared, hown, hshared, rfl⟩

omit [VictimPolicy ρ] in
theorem eq_settle_of_access {session counted : Session ρ}
    (h : session.count? Counters.recordAccess? = some counted) :
    counted = session.settle .withAccess session.memory.free session.memory.policy
      session.space.table := by
  obtain ⟨own, shared, hown, hshared, rfl⟩ := of_count?_eq_some h
  obtain ⟨_, rfl⟩ := Counters.recordAccess?_eq_some_iff.1 hown
  obtain ⟨_, rfl⟩ := Counters.recordAccess?_eq_some_iff.1 hshared
  rfl

omit [VictimPolicy ρ] in
theorem eq_settle_of_fault {session counted : Session ρ} {free : FreeList} {policy : ρ}
    {table : PageTable}
    (h : (session.settle .withAccess free policy table).count? Counters.recordFault? =
      some counted) :
    counted = session.settle .withFault free policy table := by
  obtain ⟨own, shared, hown, hshared, rfl⟩ := of_count?_eq_some h
  obtain ⟨_, rfl⟩ := Counters.recordFault?_withAccess_eq_some_iff.1 hown
  obtain ⟨_, rfl⟩ := Counters.recordFault?_withAccess_eq_some_iff.1 hshared
  rfl

omit [VictimPolicy ρ] in
theorem eq_settle_of_replacement {session counted : Session ρ} {free : FreeList} {policy : ρ}
    {table : PageTable} {affinity : Affinity}
    (h : (session.settle .withFault free policy table).count?
      (·.recordReplacement? affinity) = some counted) :
    counted = session.settle (·.withReplacement affinity) free policy table := by
  obtain ⟨own, shared, hown, hshared, rfl⟩ := of_count?_eq_some h
  obtain ⟨_, rfl⟩ := Counters.recordReplacement?_withFault_eq_some_iff.1 hown
  obtain ⟨_, rfl⟩ := Counters.recordReplacement?_withFault_eq_some_iff.1 hshared
  rfl

omit [VictimPolicy ρ] in
/-- A selection that does not overflow takes what the free list selects, and charges it. -/
theorem select_settle (session : Session ρ) {free rest : FreeList} (policy : ρ) (table : PageTable)
    {page : Nat} {chosen : FreeFrame} {affinity : Affinity}
    (hselect : free.select? ⟨session.space.process, page⟩ = some (chosen, affinity, rest))
    (hrunning : ((session.settle .withFault free policy table).select page).outcome ≠ .crash) :
    (session.settle .withFault free policy table).select page =
      ⟨.ok (some (chosen, affinity)),
        session.settle (·.withReplacement affinity) rest policy table,
        [.framePicked affinity chosen.frame ⟨session.space.process, page⟩]⟩ := by
  unfold select at hrunning ⊢
  simp only [free_settle, process_settle, hselect, withFree_settle] at hrunning ⊢
  cases hcount : (session.settle .withFault rest policy table).count?
      (·.recordReplacement? affinity) with
  | none =>
    rw [hcount] at hrunning
    exact absurd rfl hrunning
  | some counted =>
    rw [eq_settle_of_replacement hcount]
    rfl

omit [VictimPolicy ρ] in
/-- An exchange that does not overflow takes what the free list exchanges, and charges it. -/
theorem exchange_settle {session : Session ρ} {policy : ρ} {table : PageTable} {page victim : Nat}
    {frame : FrameNumber}
    (hrunning : ((session.settle .withFault session.memory.free policy table).exchange page victim
      frame).outcome ≠ .crash) :
    ∃ chosen affinity rest,
      session.memory.free.exchange? ⟨session.space.process, page⟩ frame
          ⟨session.space.process, victim⟩ = some (chosen, affinity, rest) ∧
        (session.settle .withFault session.memory.free policy table).exchange page victim frame =
          ⟨.ok (.warmMiss affinity),
            session.settle (·.withReplacement affinity) rest policy (table.map page chosen.frame),
            [.framePicked affinity chosen.frame ⟨session.space.process, page⟩]⟩ := by
  obtain ⟨chosen, affinity, rest, hexchange⟩ := session.memory.free.exists_exchange?
    ⟨session.space.process, page⟩ frame ⟨session.space.process, victim⟩
  refine ⟨chosen, affinity, rest, hexchange, ?_⟩
  unfold FreeList.exchange? at hexchange
  -- The two orders differ in where the victim's frame is when the selection is made.
  cases hempty : session.memory.free.isEmpty with
  | true =>
    have hreleased : (session.settle .withFault session.memory.free policy table).releaseFrame frame
        victim = session.settle .withFault
          (session.memory.free.release frame ⟨session.space.process, victim⟩) policy table := rfl
    simp only [hempty, if_true] at hexchange
    simp only [exchange, free_settle, hempty, if_true, hreleased] at hrunning ⊢
    rw [select_settle session policy table hexchange (Reply.ne_crash_of_andThen hrunning)]
    rfl
  | false =>
    simp only [hempty, Bool.false_eq_true, if_false] at hexchange
    obtain ⟨_, hselect, heq⟩ := Option.map_eq_some_iff.1 hexchange
    cases heq
    simp only [exchange, free_settle, hempty, Bool.false_eq_true, if_false] at hrunning ⊢
    rw [select_settle session policy table hselect (Reply.ne_crash_of_andThen hrunning)]
    rfl

/-- A page that is loaded while the list is longer than the reserve gets a frame. -/
theorem touch_load {session : Session ρ} {page : Nat} (habsent : session.space.table.Absent page)
    (hroomy : session.memory.settings.reserve < session.memory.free.size) :
    Touch session page ((session.settle .withFault session.memory.free session.memory.policy
      session.space.table).load page) := by
  unfold load
  cases hpop : session.memory.free.pop? with
  | none =>
    have hzero := FreeList.pop?_eq_none_iff.1 hpop
    omega
  | some popped =>
    simp only [free_settle, hpop]
    exact .coldMiss habsent hroomy hpop

/-- A replacement that does not crash goes in one of the last three ways. -/
theorem touch_replace {session : Session ρ} {page : Nat}
    (habsent : session.space.table.Absent page)
    (hshort : session.memory.free.size ≤ session.memory.settings.reserve)
    (hrunning : ((session.settle .withFault session.memory.free session.memory.policy
      session.space.table).replace page).outcome ≠ .crash) :
    Touch session page ((session.settle .withFault session.memory.free session.memory.policy
      session.space.table).replace page) := by
  have hpicked : VictimPolicy.pick session.memory.policy session.space.table
      session.memory.settings.essentialPages = session.pickVictim := rfl
  unfold replace at hrunning ⊢
  simp only [policy_settle, table_settle, settings_settle, withPolicy_settle, withTable_settle,
    hpicked] at hrunning ⊢
  rcases hpick : session.pickVictim with ⟨choice, policy⟩
  simp only [hpick] at hrunning ⊢
  cases choice with
  | none => exact .noVictim habsent hshort hpick
  | some victim =>
    cases hslot : session.space.table.slot? victim with
    | none =>
      simp only [hslot] at hrunning
      exact absurd rfl hrunning
    | some slot =>
      simp only [hslot] at hrunning ⊢
      cases hframe : slot.entry.frame? with
      | none =>
        exact .framelessVictim habsent hshort hpick ⟨slot, hslot, Entry.frame?_eq_none_iff.1 hframe⟩
      | some frame =>
        simp only [hframe] at hrunning
        obtain ⟨chosen, affinity, rest, hexchange, hreply⟩ := exchange_settle hrunning
        simp only [hreply]
        exact .warmMiss habsent hshort hpick hslot hframe hexchange

/-- A reference that does not crash goes in one of the five ways. -/
theorem touch_reference {session : Session ρ} {page : Nat}
    (hrunning : (session.reference page).outcome ≠ .crash) :
    Touch session page (session.reference page) := by
  unfold reference at hrunning ⊢
  cases hcount : session.count? Counters.recordAccess? with
  | none =>
    rw [hcount] at hrunning
    exact absurd rfl hrunning
  | some counted =>
    obtain rfl := eq_settle_of_access hcount
    simp only [hcount, table_settle] at hrunning ⊢
    cases hslot : session.space.table.slot? page with
    | none =>
      rw [hslot] at hrunning
      exact absurd rfl hrunning
    | some slot =>
      simp only [hslot] at hrunning ⊢
      cases hvalid : slot.entry.valid with
      | true =>
        rw [if_pos rfl]
        exact .hit ⟨slot, hslot, hvalid⟩
      | false =>
        have habsent : session.space.table.Absent page := ⟨slot, hslot, hvalid⟩
        simp only [hvalid, Bool.false_eq_true, if_false] at hrunning ⊢
        cases hfault : (session.settle .withAccess session.memory.free session.memory.policy
            session.space.table).count? Counters.recordFault? with
        | none =>
          rw [hfault] at hrunning
          exact absurd rfl hrunning
        | some faulted =>
          obtain rfl := eq_settle_of_fault hfault
          simp only [hfault, settings_settle, free_settle] at hrunning ⊢
          by_cases hroomy : session.memory.settings.reserve < session.memory.free.size
          · simp only [hroomy, if_true]
            exact touch_load habsent hroomy
          · simp only [hroomy, if_false] at hrunning ⊢
            exact touch_replace habsent (Nat.le_of_not_lt hroomy) hrunning

/-! ## A reference that does not crash -/

/-- Both sets of counters are consistent and have room for one more access. -/
structure Roomy (session : Session ρ) : Prop where
  own : session.space.counters.Consistent
  shared : session.memory.counters.Consistent
  own_room : session.space.counters.accesses + 1 < Word.bound
  shared_room : session.memory.counters.accesses + 1 < Word.bound

variable {session : Session ρ}

omit [VictimPolicy ρ] in
theorem Roomy.count?_access (h : session.Roomy) :
    session.count? Counters.recordAccess? =
      some (session.settle .withAccess session.memory.free session.memory.policy
        session.space.table) := by
  have hown := Counters.recordAccess?_eq_some_iff.2 ⟨h.own_room, rfl⟩
  have hshared := Counters.recordAccess?_eq_some_iff.2 ⟨h.shared_room, rfl⟩
  simp only [count?, hown, hshared, Option.bind_eq_bind, Option.bind_some]
  rfl

omit [VictimPolicy ρ] in
theorem Roomy.count?_fault (h : session.Roomy) (free : FreeList) (policy : ρ) (table : PageTable) :
    (session.settle .withAccess free policy table).count? Counters.recordFault? =
      some (session.settle .withFault free policy table) := by
  have hown := Counters.recordFault?_withAccess_eq_some_iff.2
    ⟨(h.own.room h.own_room .fallback).1, rfl⟩
  have hshared := Counters.recordFault?_withAccess_eq_some_iff.2
    ⟨(h.shared.room h.shared_room .fallback).1, rfl⟩
  simp only [count?, space_counters_settle, memory_counters_settle, hown, hshared,
    Option.bind_eq_bind, Option.bind_some]
  rfl

omit [VictimPolicy ρ] in
theorem Roomy.count?_replacement (h : session.Roomy) (affinity : Affinity) (free : FreeList)
    (policy : ρ) (table : PageTable) :
    (session.settle .withFault free policy table).count? (·.recordReplacement? affinity) =
      some (session.settle (·.withReplacement affinity) free policy table) := by
  have hown := Counters.recordReplacement?_withFault_eq_some_iff.2
    ⟨(h.own.room h.own_room affinity).2, rfl⟩
  have hshared := Counters.recordReplacement?_withFault_eq_some_iff.2
    ⟨(h.shared.room h.shared_room affinity).2, rfl⟩
  simp only [count?, space_counters_settle, memory_counters_settle, hown, hshared,
    Option.bind_eq_bind, Option.bind_some]
  rfl

omit [VictimPolicy ρ] in
theorem Roomy.select_ne_crash (h : session.Roomy) (free : FreeList) (policy : ρ)
    (table : PageTable) (page : Nat) :
    ((session.settle .withFault free policy table).select page).outcome ≠ .crash := by
  unfold select
  simp only [free_settle, withFree_settle]
  split
  · exact Outcome.ok_ne_crash
  · simp only [h.count?_replacement]
    exact Outcome.ok_ne_crash

omit [VictimPolicy ρ] in
theorem Roomy.exchange_ne_crash (h : session.Roomy) (free : FreeList) (policy : ρ)
    (table : PageTable) (page victim : Nat) (frame : FrameNumber) :
    ((session.settle .withFault free policy table).exchange page victim frame).outcome ≠
      .crash := by
  have hreleased : (session.settle .withFault free policy table).releaseFrame frame victim =
      session.settle .withFault (free.release frame ⟨session.space.process, victim⟩) policy
        table := rfl
  unfold exchange
  apply Reply.andThen_ne_crash
  · rw [hreleased]
    split
    · exact h.select_ne_crash _ _ _ _
    · exact h.select_ne_crash _ _ _ _
  · intro choice _
    cases choice with
    | none => exact Outcome.error_ne_crash
    | some choice => exact Outcome.ok_ne_crash

omit [VictimPolicy ρ] in
theorem load_ne_crash (session : Session ρ) (page : Nat) :
    (session.load page).outcome ≠ .crash := by
  unfold load
  cases session.memory.free.pop? with
  | none => exact Outcome.error_ne_crash
  | some popped => exact Outcome.ok_ne_crash

/-- A replacement crashes only if the policy names a page outside the table, or a counter
overflows. -/
theorem Roomy.replace_ne_crash (h : session.Roomy) (page : Nat)
    (hvictim : ∀ victim policy, session.pickVictim = (some victim, policy) →
      victim < session.space.table.size) :
    ((session.settle .withFault session.memory.free session.memory.policy
      session.space.table).replace page).outcome ≠ .crash := by
  have hpicked : VictimPolicy.pick session.memory.policy session.space.table
      session.memory.settings.essentialPages = session.pickVictim := rfl
  unfold replace
  simp only [policy_settle, table_settle, settings_settle, withPolicy_settle, withTable_settle,
    hpicked]
  rcases hpick : session.pickVictim with ⟨choice, policy⟩
  cases choice with
  | none => exact Outcome.error_ne_crash
  | some victim =>
    have hin := hvictim victim policy hpick
    cases hslot : session.space.table.slot? victim with
    | none =>
      have hout := (PageTable.slot?_eq_none_iff _ _).1 hslot
      omega
    | some slot =>
      cases hframe : slot.entry.frame? with
      | none =>
        simp only [hslot, hframe]
        exact Outcome.error_ne_crash
      | some frame =>
        simp only [hslot, hframe]
        exact h.exchange_ne_crash _ _ _ _ _ _

/-- A reference crashes only if a page lies outside the table or a counter overflows.  The policy is
asked for a page only if a fault finds the free list short. -/
theorem Roomy.reference_ne_crash (h : session.Roomy) {page : Nat}
    (hpage : page < session.space.table.size)
    (hvictim : ¬ session.space.table.Resident page →
      session.memory.free.size ≤ session.memory.settings.reserve →
      ∀ victim policy, session.pickVictim = (some victim, policy) →
        victim < session.space.table.size) :
    (session.reference page).outcome ≠ .crash := by
  unfold reference
  simp only [h.count?_access, table_settle]
  cases hslot : session.space.table.slot? page with
  | none =>
    have hout := (PageTable.slot?_eq_none_iff _ _).1 hslot
    omega
  | some slot =>
    cases hvalid : slot.entry.valid with
    | true =>
      simp only [hvalid, if_true]
      exact Outcome.ok_ne_crash
    | false =>
      have habsent : session.space.table.Absent page := ⟨slot, hslot, hvalid⟩
      simp only [hvalid, Bool.false_eq_true, if_false, h.count?_fault, settings_settle,
        free_settle]
      by_cases hroomy : session.memory.settings.reserve < session.memory.free.size
      · simp only [hroomy, if_true]
        exact load_ne_crash _ _
      · simp only [hroomy, if_false]
        exact h.replace_ne_crash page (hvictim habsent.not_resident (Nat.le_of_not_lt hroomy))

end PagedMemory.Session
