import PagedMemory.Proofs.Searching
import PagedMemory.Proofs.Ledger
import PagedMemory.Proofs.Serving

/-!
# How many pages a process has in memory

A cold miss adds a page, a warm miss takes one for another, and a reference that fails leaves the
pages alone although it counts as a fault.  So the number of resident pages is a matter of counters:
it is the number of pinned pages and faults, less the replacements and the failed references.
`Session.Occupancy` states this balance for the session of a process, and that no page is resident
but the pinned ones and those of its array.  No reference ever makes the number smaller.
-/

namespace PagedMemory

namespace Search

/-- Every page that a search touches is the page of an element of the array. -/
theorem exists_index_of_mem_pages {settings : Settings} {arraySize key page : Nat}
    (h : some page ∈ pages settings arraySize key) :
    ∃ index < arraySize, settings.pageOfIndex? index = some page := by
  obtain ⟨interval, hinterval, hpage⟩ := List.mem_map.1 h
  exact ⟨interval.midpoint, midpoint_lt_of_mem_intervals hinterval,
    (Interval.page?_eq_some_iff.1 hpage).2⟩

end Search

namespace PageTable

/-- No page is resident but the pinned ones and those of an array of this size. -/
def Within (table : PageTable) (settings : Settings) (arraySize : Nat) : Prop :=
  ∀ page, table.Resident page → page < settings.essentialPages ∨
    ∃ index < arraySize, settings.pageOfIndex? index = some page

/-- The pinned pages and the pages of the array bound the number of resident pages. -/
theorem Within.length_le {table : PageTable} {settings : Settings} {arraySize : Nat}
    (h : table.Within settings arraySize) :
    table.resident.length ≤ settings.essentialPages +
      (arraySize + settings.intsPerPage - 1) / settings.intsPerPage := by
  have hsubset : table.residentPages ⊆ List.range (settings.essentialPages +
      (arraySize + settings.intsPerPage - 1) / settings.intsPerPage) := by
    intro page hpage
    rw [List.mem_range]
    obtain hpinned | ⟨index, hindex, hof⟩ := h page (mem_residentPages_iff.1 hpage)
    · exact Nat.lt_add_right _ hpinned
    · obtain ⟨hints, _, rfl⟩ := Settings.pageOfIndex?_eq_some_iff.1 hof
      have hceil : (index + settings.intsPerPage) / settings.intsPerPage ≤
          (arraySize + settings.intsPerPage - 1) / settings.intsPerPage :=
        Nat.div_le_div_right (by omega)
      rw [Nat.add_div_right _ (Nat.pos_of_ne_zero hints)] at hceil
      unfold Settings.pageOf
      omega
  have hlength := (nodup_residentPages table).length_le_of_subset hsubset
  rw [length_residentPages, List.length_range] at hlength
  exact hlength

end PageTable

namespace Session

variable {ρ : Type} [VictimPolicy ρ] {session : Session ρ} {page : Nat}
  {reply : Answer (Session ρ) Access}

/-- What a reference does to the balance of resident pages and counters. -/
theorem Touch.balance (h : Touch session page reply) :
    reply.state.space.table.resident.length + reply.state.space.counters.replacements +
        session.space.counters.faults +
        (if ∃ reason, reply.outcome = .error reason then 1 else 0) =
      session.space.table.resident.length + session.space.counters.replacements +
        reply.state.space.counters.faults := by
  cases h with
  | hit => simp [Counters.withAccess]
  | coldMiss habsent =>
    simp only [table_settle, PageTable.length_resident_map habsent, space_counters_settle,
      Counters.withFault, reduceCtorEq, exists_false, if_false]
    omega
  | noVictim =>
    rw [if_pos ⟨_, rfl⟩]
    simp only [table_settle, space_counters_settle, Counters.withFault]
    omega
  | framelessVictim habsent hshort hpick hvictim =>
    rw [if_pos ⟨_, rfl⟩]
    simp only [table_settle, space_counters_settle, Counters.withFault,
      PageTable.length_resident_unmap_of_absent hvictim]
    omega
  | @warmMiss habsent _ victim _ _ slot frame hslot hframe =>
    have hvictim : session.space.table.Resident victim :=
      ⟨slot, hslot, (Entry.frame?_eq_some_iff.1 hframe).1⟩
    have hunmapped := PageTable.length_resident_unmap hvictim
    simp only [table_settle, PageTable.length_resident_map (habsent.unmap victim),
      space_counters_settle, Counters.withReplacement, reduceCtorEq, exists_false, if_false]
    omega

/-- A reference adds at most one replacement, and only along with a fault. -/
theorem Touch.replacements_le (h : Touch session page reply) :
    reply.state.space.counters.replacements + session.space.counters.faults +
        (if ∃ reason, reply.outcome = .error reason then 1 else 0) ≤
      session.space.counters.replacements + reply.state.space.counters.faults := by
  cases h with
  | hit => simp [Counters.withAccess]
  | coldMiss => simp [Counters.withFault]
  | noVictim | framelessVictim =>
    rw [if_pos ⟨_, rfl⟩]
    simp only [space_counters_settle, Counters.withFault]
    omega
  | warmMiss =>
    simp only [space_counters_settle, Counters.withReplacement, reduceCtorEq, exists_false,
      if_false]
    omega

/-- No reference makes the number of resident pages smaller. -/
theorem Touch.length_resident_le (h : Touch session page reply) :
    session.space.table.resident.length ≤ reply.state.space.table.resident.length := by
  have hbalance := h.balance
  have hreplacements := h.replacements_le
  omega

theorem length_resident_le_search {arraySize key : Nat}
    (hrunning : (session.search arraySize key).outcome ≠ .crash) :
    session.space.table.resident.length ≤
      (session.search arraySize key).state.space.table.resident.length := by
  refine search_preserves
    (fun later ↦ session.space.table.resident.length ≤ later.space.table.resident.length)
    ?_ ?_ (Nat.le_refl _) hrunning
  · exact fun later page reply _ hlater htouch ↦ Nat.le_trans hlater htouch.length_resident_le
  · intro later hlater
    simp only [withTable, PageTable.length_resident_tick]
    exact hlater

/-! ## The balance over a search -/

/-- The pages of a process balance with its counters and with its references that failed, and lie
where the pages of the process can lie. -/
structure Occupancy (settings : Settings) (arraySize : Nat) (session : Session ρ)
    (own : List Reference) : Prop where
  settings_eq : session.memory.settings = settings
  within : session.space.table.Within settings arraySize
  balance : session.space.table.resident.length + session.space.counters.replacements +
    own.countP (·.Failed) = settings.essentialPages + session.space.counters.faults

variable {settings : Settings} {arraySize : Nat} {own : List Reference}

theorem Occupancy.reference (h : session.Occupancy settings arraySize own)
    (hpage : ∃ index < arraySize, settings.pageOfIndex? index = some page)
    (hrunning : (session.reference page).outcome ≠ .crash) :
    (session.reference page).state.Occupancy settings arraySize
      (own ++ [session.referenceTo page]) where
  settings_eq := (touch_reference hrunning).settings_eq.trans h.settings_eq
  within := by
    intro other hresident
    obtain rfl | hbefore := (touch_reference hrunning).resident_of hresident
    · exact .inr hpage
    · exact h.within other hbefore
  balance := by
    have hstep := (touch_reference hrunning).balance
    have hbefore := h.balance
    have hfailed : (session.referenceTo page).Failed ↔
        ∃ reason, (session.reference page).outcome = .error reason := Iff.rfl
    rw [List.countP_append, List.countP_singleton]
    simp only [decide_eq_true_eq, hfailed]
    omega

theorem Occupancy.search (h : session.Occupancy settings arraySize own) {key : Nat}
    (hrunning : (session.search arraySize key).outcome ≠ .crash) :
    (session.search arraySize key).state.Occupancy settings arraySize
      (own ++ session.references (Search.pages session.memory.settings arraySize key)) := by
  refine search_records (fun past later ↦ later.Occupancy settings arraySize (own ++ past))
    [] ?_ ?_ ?_ hrunning
  · intro past later page hpage hlater hserved
    rw [← List.append_assoc]
    rw [h.settings_eq] at hpage
    exact hlater.reference (Search.exists_index_of_mem_pages hpage) hserved
  · intro past later hlater
    refine ⟨hlater.settings_eq, ?_, ?_⟩
    · exact fun page hresident ↦ hlater.within page (PageTable.resident_tick_iff.1 hresident)
    · simp only [withTable, PageTable.length_resident_tick]
      exact hlater.balance
  · rw [List.append_nil]
    exact h

end Session

end PagedMemory
