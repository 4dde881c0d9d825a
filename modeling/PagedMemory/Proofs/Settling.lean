import PagedMemory.Proofs.Searching

/-!
# How a process settles in memory

A process is *settled* when one of its pages that may be given up is resident.  Under aging that is
all it takes to be safe: a fault that finds the free list short gives such a page up, and the page
that comes in may be given up in turn.  So a settled process stays settled, and none of its
references fails.

A process that is not settled becomes so at its first reference, unless the free list is short just
then.  In that case the reference fails, and changes nothing but the counters.
-/

namespace PagedMemory.Session

/-- A page that the process may give up is resident. -/
def Settled {ρ : Type} (session : Session ρ) : Prop :=
  ∃ page, session.memory.settings.essentialPages ≤ page ∧ session.space.table.Resident page

variable {session : Session Aging} {page : Nat} {reply : Answer (Session Aging) Access}

theorem pickVictim_eq (session : Session Aging) :
    session.pickVictim =
      (session.space.table.oldest? session.memory.settings.essentialPages,
        session.memory.policy) := rfl

theorem oldest?_eq_none_iff_not_settled :
    session.space.table.oldest? session.memory.settings.essentialPages = none ↔
      ¬ session.Settled := by
  rw [PageTable.oldest?_eq_none_iff]
  constructor
  · rintro hnone ⟨page, hpage, hresident⟩
    exact hnone page hpage hresident
  · exact fun hnot page hpage hresident ↦ hnot ⟨page, hpage, hresident⟩

/-! ## One reference -/

/-- The oldest page of a table always has a frame. -/
theorem not_framelessVictim {victim : Nat} {policy : Aging}
    (hpick : session.pickVictim = (some victim, policy)) :
    ¬ session.space.table.Absent victim := by
  rw [pickVictim_eq] at hpick
  have holdest := congrArg Prod.fst hpick
  exact fun habsent ↦ habsent.not_resident (PageTable.of_oldest?_eq_some holdest).2

/-- A reference of a process that is settled, or that finds enough free frames, succeeds and leaves
the process settled. -/
theorem Touch.settled (h : Touch session page reply)
    (hpage : session.memory.settings.essentialPages ≤ page)
    (hsafe : session.Settled ∨ session.memory.settings.reserve < session.memory.free.size) :
    (∃ access, reply.outcome = .ok access) ∧ reply.state.Settled := by
  cases h with
  | hit hresident =>
    exact ⟨⟨_, rfl⟩, page, hpage, PageTable.resident_markReferenced_iff.2 hresident⟩
  | coldMiss habsent hroomy hpop => exact ⟨⟨_, rfl⟩, page, hpage, habsent.resident_map _⟩
  | noVictim habsent hshort hpick =>
    rw [pickVictim_eq] at hpick
    obtain hsettled | hroomy := hsafe
    · exact absurd hsettled (oldest?_eq_none_iff_not_settled.1 (congrArg Prod.fst hpick))
    · omega
  | framelessVictim habsent hshort hpick hvictim =>
    exact absurd hvictim (not_framelessVictim hpick)
  | warmMiss habsent => exact ⟨⟨_, rfl⟩, page, hpage, (habsent.unmap _).resident_map _⟩

/-- A reference of a process that is not settled and finds too few free frames fails, and changes
only the counters. -/
theorem Touch.starved (h : Touch session page reply)
    (hpage : session.memory.settings.essentialPages ≤ page) (hbare : ¬ session.Settled)
    (hshort : session.memory.free.size ≤ session.memory.settings.reserve) :
    reply = ⟨.error (.noVictim session.space.process page),
      session.settle .withFault session.memory.free session.memory.policy session.space.table,
      []⟩ := by
  have hnone := oldest?_eq_none_iff_not_settled.2 hbare
  cases h with
  | hit hresident => exact absurd ⟨page, hpage, hresident⟩ hbare
  | coldMiss habsent hroomy => omega
  | noVictim => rfl
  | framelessVictim habsent hshort hpick =>
    rw [pickVictim_eq, hnone] at hpick
    cases hpick
  | warmMiss habsent hshort hpick =>
    rw [pickVictim_eq, hnone] at hpick
    cases hpick

/-! ## A search -/

/-- The process is settled exactly if it has made a reference. -/
def Standing {ρ : Type} (session : Session ρ) : Prop :=
  session.Settled ↔ 0 < session.space.counters.accesses

theorem settled_tick_iff :
    (session.withTable session.space.table.tick).Settled ↔ session.Settled := by
  unfold Settled
  simp only [withTable, PageTable.resident_tick_iff]

theorem Standing.tick (h : session.Standing) :
    (session.withTable session.space.table.tick).Standing := by
  unfold Standing at h ⊢
  rw [settled_tick_iff, h]
  rfl

/-- References of a process that is settled, or finds enough free frames, succeed, and leave the
process settled if there was one. -/
theorem referenceAll_of_safe {pages : List (Option Nat)} (hstanding : session.Standing)
    (hsafe : pages = [] ∨ session.Settled ∨
      session.memory.settings.reserve < session.memory.free.size)
    (hpages : ∀ page, some page ∈ pages → session.memory.settings.essentialPages ≤ page)
    (hrunning : (session.referenceAll pages).outcome ≠ .crash) :
    (session.referenceAll pages).outcome = .ok () ∧
      (session.referenceAll pages).state.Standing ∧
      (pages ≠ [] ∨ session.Settled → (session.referenceAll pages).state.Settled) := by
  induction pages generalizing session with
  | nil => exact ⟨rfl, hstanding, fun hsettled ↦ hsettled.resolve_left fun hnil ↦ hnil rfl⟩
  | cons page pages ih =>
    cases page with
    | none => exact absurd rfl hrunning
    | some page =>
      rw [referenceAll_cons] at hrunning ⊢
      have htouch := touch_reference (Reply.ne_crash_of_andThen hrunning)
      have hsafe' := hsafe.resolve_left (List.cons_ne_nil _ _)
      obtain ⟨⟨access, hok⟩, hnext⟩ := htouch.settled (hpages page List.mem_cons_self) hsafe'
      have hstanding' : (session.reference page).state.Standing := by
        unfold Standing
        rw [htouch.accesses_succ.1]
        exact ⟨fun _ ↦ Nat.succ_pos _, fun _ ↦ hnext⟩
      have hpages' : ∀ other, some other ∈ pages →
          (session.reference page).state.memory.settings.essentialPages ≤ other := by
        rw [htouch.settings_eq]
        exact fun other hother ↦ hpages other (List.mem_cons_of_mem _ hother)
      simp only [Reply.andThen, hok] at hrunning ⊢
      obtain ⟨hdone, hstands, hsettles⟩ := ih hstanding' (.inr (.inl hnext)) hpages' hrunning
      exact ⟨hdone, hstands, fun _ ↦ hsettles (.inr hnext)⟩

/-- A search of a process that is settled, or finds enough free frames, succeeds; so does a search
that touches no page. -/
theorem search_of_safe {arraySize key : Nat} (hstanding : session.Standing)
    (hsafe : Search.pages session.memory.settings arraySize key = [] ∨ session.Settled ∨
      session.memory.settings.reserve < session.memory.free.size)
    (hrunning : (session.search arraySize key).outcome ≠ .crash) :
    (session.search arraySize key).outcome = .ok () ∧
      (session.search arraySize key).state.Standing ∧
      (Search.pages session.memory.settings arraySize key ≠ [] ∨ session.Settled →
        (session.search arraySize key).state.Settled) := by
  obtain ⟨hserved, hstands, hsettles⟩ := referenceAll_of_safe hstanding hsafe
    (fun _ ↦ Search.le_of_mem_pages) (referenceAll_ne_crash_of_search hrunning)
  rw [search_of_ok hserved]
  exact ⟨rfl, hstands.tick, fun hpages ↦ settled_tick_iff.2 (hsettles hpages)⟩

/-- Such a search leaves the process settled, unless it touches no page. -/
theorem settled_of_search {arraySize key : Nat} (hstanding : session.Standing)
    (hsafe : Search.pages session.memory.settings arraySize key = [] ∨ session.Settled ∨
      session.memory.settings.reserve < session.memory.free.size)
    (hrunning : (session.search arraySize key).outcome ≠ .crash) :
    (session.search arraySize key).state.Settled ∨ arraySize ≤ 1 := by
  obtain ⟨_, _, hsettles⟩ := search_of_safe hstanding hsafe hrunning
  by_cases hsmall : arraySize ≤ 1
  · exact .inr hsmall
  · obtain ⟨pages, hpages⟩ := Search.exists_pages_cons session.memory.settings key
      (show 2 ≤ arraySize by omega)
    refine .inl (hsettles (.inl ?_))
    rw [hpages]
    exact List.cons_ne_nil _ _

/-- The first search of a process that finds too few free frames fails at its first page. -/
theorem search_of_starved {arraySize key : Nat} {pages : List (Option Nat)}
    (hpages : Search.pages session.memory.settings arraySize key = some page :: pages)
    (hbare : ¬ session.Settled)
    (hshort : session.memory.free.size ≤ session.memory.settings.reserve)
    (hfirst : (session.reference page).outcome ≠ .crash) :
    session.search arraySize key =
      ⟨.error (.noVictim session.space.process page),
        session.settle .withFault session.memory.free session.memory.policy session.space.table,
        []⟩ := by
  have hmember : some page ∈ Search.pages session.memory.settings arraySize key := by
    rw [hpages]
    exact List.mem_cons_self
  have hfailed := (touch_reference hfirst).starved (Search.le_of_mem_pages hmember) hbare hshort
  unfold search
  simp only [hpages, referenceAll_cons, hfailed, Reply.andThen]

/-- A search that succeeds leaves a process settled that has made a reference, and no other. -/
theorem Standing.search {arraySize key : Nat} (h : session.Standing)
    (hok : (session.search arraySize key).outcome = .ok ()) :
    (session.search arraySize key).state.Standing := by
  have hrunning : (session.search arraySize key).outcome ≠ .crash := by
    rw [hok]
    exact nofun
  by_cases hsafe : Search.pages session.memory.settings arraySize key = [] ∨ session.Settled ∨
      session.memory.settings.reserve < session.memory.free.size
  · exact (search_of_safe h hsafe hrunning).2.1
  · simp only [not_or, Nat.not_lt] at hsafe
    obtain ⟨hsome, hbare, hshort⟩ := hsafe
    obtain ⟨first, pages, hpages⟩ := List.exists_cons_of_ne_nil hsome
    obtain ⟨page, rfl, hfirst⟩ := reference_ne_crash_of_search hpages hrunning
    rw [search_of_starved hpages hbare hshort hfirst] at hok
    cases hok

end PagedMemory.Session
