import PagedMemory.Proofs.Loading
import PagedMemory.Proofs.Outline
import PagedMemory.Proofs.Settling

/-!
# Sessions that differ in their frames

Two sessions are alike when they agree on everything but the choice of frames: the fallback rule,
the entries of the free list, the frames behind the pages, and how the replacements are spread over
the affinity rules.  Under aging, a reference looks at none of these.  It goes the same way in
sessions that are alike, gives the same answer up to the affinity, and leaves them alike; so do a
search and the release of all frames.
-/

namespace PagedMemory

/-- The counters agree, except for the rule that served each replacement. -/
structure Counters.Alike (left right : Counters) : Prop where
  accesses_eq : left.accesses = right.accesses
  faults_eq : left.faults = right.faults
  replacements_eq : left.replacements = right.replacements
  attempts_eq : left.attempts.total = right.attempts.total

namespace Counters.Alike

variable {left right : Counters}

theorem refl (counters : Counters) : counters.Alike counters := ⟨rfl, rfl, rfl, rfl⟩

theorem withAccess (h : left.Alike right) : left.withAccess.Alike right.withAccess :=
  ⟨congrArg (· + 1) h.accesses_eq, h.faults_eq, h.replacements_eq, h.attempts_eq⟩

theorem withFault (h : left.Alike right) : left.withFault.Alike right.withFault :=
  ⟨congrArg (· + 1) h.accesses_eq, congrArg (· + 1) h.faults_eq, h.replacements_eq, h.attempts_eq⟩

theorem withReplacement (h : left.Alike right) (affinity affinity' : Affinity) :
    (left.withReplacement affinity).Alike (right.withReplacement affinity') where
  accesses_eq := congrArg (· + 1) h.accesses_eq
  faults_eq := congrArg (· + 1) h.faults_eq
  replacements_eq := congrArg (· + 1) h.replacements_eq
  attempts_eq := by
    simp only [Counters.withReplacement, AffinityTally.total_set_succ, h.attempts_eq]

end Counters.Alike

namespace Session

/-- The sessions agree on everything but the choice of frames. -/
structure Alike (left right : Session Aging) : Prop where
  settings_eq : ∃ rule, right.memory.settings = { left.memory.settings with fallback := rule }
  size_free_eq : left.memory.free.size = right.memory.free.size
  shared : left.memory.counters.Alike right.memory.counters
  process_eq : left.space.process = right.space.process
  outline_eq : left.space.table.outline = right.space.table.outline
  own : left.space.counters.Alike right.space.counters

variable {left right : Session Aging}

theorem Alike.essentialPages_eq (h : left.Alike right) :
    left.memory.settings.essentialPages = right.memory.settings.essentialPages := by
  obtain ⟨rule, hrule⟩ := h.settings_eq
  rw [hrule]

theorem Alike.reserve_eq (h : left.Alike right) :
    left.memory.settings.reserve = right.memory.settings.reserve := by
  obtain ⟨rule, hrule⟩ := h.settings_eq
  rw [hrule]

theorem Alike.short_iff (h : left.Alike right) :
    left.memory.free.size ≤ left.memory.settings.reserve ↔
      right.memory.free.size ≤ right.memory.settings.reserve := by
  rw [h.reserve_eq, h.size_free_eq]

theorem Alike.resident_iff (h : left.Alike right) (page : Nat) :
    left.space.table.Resident page ↔ right.space.table.Resident page := by
  rw [← PageTable.resident_outline_iff, h.outline_eq, PageTable.resident_outline_iff]

/-- Sessions that are alike give up the same page. -/
theorem Alike.pickVictim_eq (h : left.Alike right) :
    left.pickVictim.1 = right.pickVictim.1 := by
  simp only [Session.pickVictim_eq]
  rw [← PageTable.oldest?_outline, h.outline_eq, PageTable.oldest?_outline, h.essentialPages_eq]

/-- Charging the same and changing the same pages keeps sessions alike. -/
theorem Alike.settle (h : left.Alike right) {charge charge' : Counters → Counters}
    {free free' : FreeList} {policy policy' : Aging} {table table' : PageTable}
    (hcharge : ∀ {counters counters' : Counters}, counters.Alike counters' →
      (charge counters).Alike (charge' counters'))
    (hsize : free.size = free'.size) (houtline : table.outline = table'.outline) :
    (left.settle charge free policy table).Alike (right.settle charge' free' policy' table') where
  settings_eq := h.settings_eq
  size_free_eq := hsize
  shared := hcharge h.shared
  process_eq := h.process_eq
  outline_eq := houtline
  own := hcharge h.own

/-! ## One reference -/

section

variable {page : Nat} {reply : Answer (Session Aging) Access}

/-! Each way that a reference goes in one session is the way it goes in one that is alike. -/

theorem Alike.hit (h : left.Alike right) (hresident : left.space.table.Resident page)
    (hright : Touch right page reply) :
    reply.outcome = .ok .hit ∧
      (left.settle .withAccess left.memory.free left.memory.policy
        (left.space.table.markReferenced page)).Alike reply.state := by
  have hresident' := (h.resident_iff page).1 hresident
  cases hright with
  | hit =>
    refine ⟨rfl, h.settle Counters.Alike.withAccess h.size_free_eq ?_⟩
    rw [PageTable.outline_markReferenced, PageTable.outline_markReferenced, h.outline_eq]
  | coldMiss habsent | noVictim habsent | framelessVictim habsent | warmMiss habsent =>
    exact absurd hresident' habsent.not_resident

theorem Alike.coldMiss (h : left.Alike right) (habsent : left.space.table.Absent page)
    (hroomy : left.memory.settings.reserve < left.memory.free.size) {chosen : FreeFrame}
    {rest : FreeList} (hpop : left.memory.free.pop? = some (chosen, rest))
    (hright : Touch right page reply) :
    reply.outcome = .ok .coldMiss ∧
      (left.settle .withFault rest left.memory.policy
        (left.space.table.map page chosen.frame)).Alike reply.state := by
  cases hright with
  | hit hresident => exact absurd ((h.resident_iff page).2 hresident) habsent.not_resident
  | coldMiss _ _ hpop' =>
    have hleft := FreeList.size_of_pop?_eq_some hpop
    have hright := FreeList.size_of_pop?_eq_some hpop'
    have hsize := h.size_free_eq
    refine ⟨rfl, h.settle Counters.Alike.withFault (by omega) ?_⟩
    rw [PageTable.outline_map, PageTable.outline_map, h.outline_eq]
  | noVictim _ hshort | framelessVictim _ hshort | warmMiss _ hshort =>
    exact absurd hroomy (Nat.not_lt_of_le (h.short_iff.2 hshort))

theorem Alike.noVictim (h : left.Alike right) (habsent : left.space.table.Absent page)
    (hshort : left.memory.free.size ≤ left.memory.settings.reserve)
    (hnone : left.pickVictim.1 = none) (hright : Touch right page reply) (policy : Aging) :
    reply.outcome = .error (.noVictim left.space.process page) ∧
      (left.settle .withFault left.memory.free policy left.space.table).Alike reply.state := by
  have hshort' := h.short_iff.1 hshort
  rw [h.pickVictim_eq] at hnone
  cases hright with
  | hit hresident => exact absurd ((h.resident_iff page).2 hresident) habsent.not_resident
  | coldMiss _ hroomy => exact absurd hroomy (Nat.not_lt_of_le hshort')
  | noVictim =>
    rw [h.process_eq]
    exact ⟨rfl, h.settle Counters.Alike.withFault h.size_free_eq h.outline_eq⟩
  | framelessVictim _ _ hpick | warmMiss _ _ hpick =>
    rw [hpick] at hnone
    cases hnone

theorem Alike.warmMiss (h : left.Alike right) (habsent : left.space.table.Absent page)
    (hshort : left.memory.free.size ≤ left.memory.settings.reserve) {victim : Nat}
    (hvictim : left.pickVictim.1 = some victim) {frame : FrameNumber} {chosen : FreeFrame}
    {affinity : Affinity} {rest : FreeList}
    (hexchange : left.memory.free.exchange? ⟨left.space.process, page⟩ frame
      ⟨left.space.process, victim⟩ = some (chosen, affinity, rest))
    (hright : Touch right page reply) (policy : Aging) :
    (∃ affinity', reply.outcome = .ok (.warmMiss affinity')) ∧
      (left.settle (·.withReplacement affinity) rest policy
        ((left.space.table.unmap victim).map page chosen.frame)).Alike reply.state := by
  have hshort' := h.short_iff.1 hshort
  rw [h.pickVictim_eq] at hvictim
  cases hright with
  | hit hresident => exact absurd ((h.resident_iff page).2 hresident) habsent.not_resident
  | coldMiss _ hroomy => exact absurd hroomy (Nat.not_lt_of_le hshort')
  | noVictim _ _ hpick =>
    rw [hpick] at hvictim
    cases hvictim
  | framelessVictim _ _ hpick habsent' => exact absurd habsent' (not_framelessVictim hpick)
  | warmMiss _ _ hpick _ _ hexchange' =>
    rw [hpick] at hvictim
    cases hvictim
    have hleft := FreeList.size_of_exchange?_eq_some hexchange
    have hright := FreeList.size_of_exchange?_eq_some hexchange'
    have hsize := h.size_free_eq
    refine ⟨⟨_, rfl⟩, h.settle (fun hcounters ↦ hcounters.withReplacement _ _) (by omega) ?_⟩
    rw [PageTable.outline_map, PageTable.outline_map, PageTable.outline_unmap,
      PageTable.outline_unmap, h.outline_eq]

/-- References in sessions that are alike go the same way. -/
theorem Touch.alike (h : left.Alike right) {reply' : Answer (Session Aging) Access}
    (hleft : Touch left page reply) (hright : Touch right page reply') :
    reply.outcome.map (fun _ ↦ ()) = reply'.outcome.map (fun _ ↦ ()) ∧
      reply.state.Alike reply'.state := by
  cases hleft with
  | hit hresident =>
    obtain ⟨houtcome, hstate⟩ := h.hit hresident hright
    rw [houtcome]
    exact ⟨rfl, hstate⟩
  | coldMiss habsent hroomy hpop =>
    obtain ⟨houtcome, hstate⟩ := h.coldMiss habsent hroomy hpop hright
    rw [houtcome]
    exact ⟨rfl, hstate⟩
  | noVictim habsent hshort hpick =>
    obtain ⟨houtcome, hstate⟩ :=
      h.noVictim habsent hshort (congrArg Prod.fst hpick) hright _
    rw [houtcome]
    exact ⟨rfl, hstate⟩
  | framelessVictim _ _ hpick habsent => exact absurd habsent (not_framelessVictim hpick)
  | warmMiss habsent hshort hpick _ _ hexchange =>
    obtain ⟨⟨_, houtcome⟩, hstate⟩ :=
      h.warmMiss habsent hshort (congrArg Prod.fst hpick) hexchange hright _
    rw [houtcome]
    exact ⟨rfl, hstate⟩

end

/-! ## Searches -/

/-- Sequences of references in sessions that are alike end the same way. -/
theorem referenceAll_alike (h : left.Alike right) {pages : List (Option Nat)}
    (hleft : (left.referenceAll pages).outcome ≠ .crash)
    (hright : (right.referenceAll pages).outcome ≠ .crash) :
    (left.referenceAll pages).outcome = (right.referenceAll pages).outcome ∧
      (left.referenceAll pages).state.Alike (right.referenceAll pages).state := by
  induction pages generalizing left right with
  | nil => exact ⟨rfl, h⟩
  | cons page pages ih =>
    cases page with
    | none => exact absurd rfl hleft
    | some page =>
      rw [referenceAll_cons] at hleft hright ⊢
      rw [referenceAll_cons]
      have hfirst := Reply.ne_crash_of_andThen hleft
      have hfirst' := Reply.ne_crash_of_andThen hright
      obtain ⟨houtcome, hnext⟩ :=
        (touch_reference hfirst).alike h (touch_reference hfirst')
      unfold Reply.andThen at hleft hright ⊢
      cases hserved : (left.reference page).outcome with
      | crash => exact absurd hserved hfirst
      | ok access =>
        cases hserved' : (right.reference page).outcome with
        | crash => exact absurd hserved' hfirst'
        | error reason =>
          rw [hserved, hserved'] at houtcome
          cases houtcome
        | ok access' =>
          simp only [hserved, hserved'] at hleft hright ⊢
          exact ih hnext hleft hright
      | error reason =>
        cases hserved' : (right.reference page).outcome with
        | crash => exact absurd hserved' hfirst'
        | error reason' =>
          rw [hserved, hserved'] at houtcome
          cases houtcome
          exact ⟨rfl, hnext⟩
        | ok access' =>
          rw [hserved, hserved'] at houtcome
          cases houtcome

theorem Alike.tick (h : left.Alike right) :
    (left.withTable left.space.table.tick).Alike (right.withTable right.space.table.tick) where
  settings_eq := h.settings_eq
  size_free_eq := h.size_free_eq
  shared := h.shared
  process_eq := h.process_eq
  outline_eq := by
    simp only [withTable, PageTable.outline_tick, h.outline_eq]
  own := h.own

theorem Alike.pages_eq (h : left.Alike right) (arraySize key : Nat) :
    Search.pages left.memory.settings arraySize key =
      Search.pages right.memory.settings arraySize key := by
  obtain ⟨rule, hrule⟩ := h.settings_eq
  rw [hrule]
  rfl

/-- Searches in sessions that are alike end the same way. -/
theorem search_alike (h : left.Alike right) {arraySize key : Nat}
    (hleft : (left.search arraySize key).outcome ≠ .crash)
    (hright : (right.search arraySize key).outcome ≠ .crash) :
    (left.search arraySize key).outcome = (right.search arraySize key).outcome ∧
      (left.search arraySize key).state.Alike (right.search arraySize key).state := by
  have hserved := referenceAll_ne_crash_of_search hleft
  have hserved' := referenceAll_ne_crash_of_search hright
  rw [← h.pages_eq] at hserved'
  obtain ⟨houtcome, hafter⟩ := referenceAll_alike h hserved hserved'
  rw [h.pages_eq] at houtcome hserved hafter
  cases hend : (right.referenceAll
      (Search.pages right.memory.settings arraySize key)).outcome with
  | ok _ =>
    rw [hend, ← h.pages_eq] at houtcome
    rw [search_of_ok houtcome, search_of_ok hend, h.pages_eq]
    exact ⟨rfl, hafter.tick⟩
  | error reason =>
    rw [hend, ← h.pages_eq] at houtcome
    rw [search_of_error houtcome, search_of_error hend, h.pages_eq]
    exact ⟨rfl, hafter⟩
  | crash =>
    rw [hend] at houtcome
    exact absurd houtcome hserved

/-! ## Giving everything back -/

theorem Alike.released (h : left.Alike right) : left.released.Alike right.released where
  settings_eq := h.settings_eq
  size_free_eq := by
    simp only [Session.released, FreeList.size_releaseAll, h.size_free_eq]
    rw [← PageTable.length_resident_outline, h.outline_eq, PageTable.length_resident_outline]
  shared := h.shared
  process_eq := h.process_eq
  outline_eq := by
    simp only [Session.released, PageTable.outline_vacated, h.outline_eq]
  own := h.own

end Session

end PagedMemory
