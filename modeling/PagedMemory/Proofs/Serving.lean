import Mathlib.Data.List.Dedup
import PagedMemory.Proofs.Conservation
import PagedMemory.Proofs.Searching
import PagedMemory.Proofs.Settling

/-!
# What a search costs

A search makes one access for each of its pages, and brings in no other pages.  So it takes at most
as many frames off the free list as it touches different pages.  It does not crash if all its pages
lie in the table and the counters have room for that many accesses.
-/

namespace PagedMemory.Session

/-- How many different pages a search touches. -/
def footprint (settings : Settings) (arraySize key : Nat) : Nat :=
  (Search.pages settings arraySize key).dedup.length

section

variable {ρ : Type} [VictimPolicy ρ] {session : Session ρ}

/-- References that succeed make one access each. -/
theorem referenceAll_accesses {pages : List (Option Nat)}
    (hok : (session.referenceAll pages).outcome = .ok ()) :
    (session.referenceAll pages).state.space.counters.accesses =
        session.space.counters.accesses + pages.length ∧
      (session.referenceAll pages).state.memory.counters.accesses =
        session.memory.counters.accesses + pages.length := by
  induction pages generalizing session with
  | nil => exact ⟨rfl, rfl⟩
  | cons page pages ih =>
    cases page with
    | none => cases hok
    | some page =>
      rw [referenceAll_cons] at hok ⊢
      obtain ⟨access, hserved, hrest, hstate⟩ := Reply.of_andThen_ok hok
      have htouch : (session.reference page).outcome ≠ .crash := by
        rw [hserved]
        exact nofun
      obtain ⟨hown, hshared⟩ := (touch_reference htouch).accesses_succ
      obtain ⟨hown', hshared'⟩ := ih hrest
      rw [hstate, hown', hshared', hown, hshared, List.length_cons]
      omega

/-- A search that succeeds makes one access for each of its pages. -/
theorem search_accesses {arraySize key : Nat}
    (hok : (session.search arraySize key).outcome = .ok ()) :
    (session.search arraySize key).state.space.counters.accesses =
        session.space.counters.accesses +
          (Search.pages session.memory.settings arraySize key).length ∧
      (session.search arraySize key).state.memory.counters.accesses =
        session.memory.counters.accesses +
          (Search.pages session.memory.settings arraySize key).length := by
  obtain ⟨_, hserved, _, hstate⟩ := Reply.of_andThen_ok hok
  have hcounts := referenceAll_accesses hserved
  unfold search
  rw [hstate]
  exact hcounts

/-- Only the page that is touched can become resident. -/
theorem Touch.resident_of {page other : Nat} {reply : Answer (Session ρ) Access}
    (h : Touch session page reply) (hresident : reply.state.space.table.Resident other) :
    other = page ∨ session.space.table.Resident other := by
  cases h with
  | hit => exact .inr (PageTable.resident_markReferenced_iff.1 hresident)
  | coldMiss =>
    obtain ⟨hsame, _⟩ | hbefore := PageTable.resident_map_iff.1 hresident
    · exact .inl hsame
    · exact .inr hbefore
  | noVictim => exact .inr hresident
  | framelessVictim => exact .inr (PageTable.resident_unmap_iff.1 hresident).2
  | warmMiss =>
    obtain ⟨hsame, _⟩ | hbefore := PageTable.resident_map_iff.1 hresident
    · exact .inl hsame
    · exact .inr (PageTable.resident_unmap_iff.1 hbefore).2

/-- After a search no page is resident but those it touched and those that were resident before. -/
theorem search_resident {arraySize key other : Nat}
    (hrunning : (session.search arraySize key).outcome ≠ .crash)
    (hresident : (session.search arraySize key).state.space.table.Resident other) :
    some other ∈ Search.pages session.memory.settings arraySize key ∨
      session.space.table.Resident other := by
  have hkept := search_preserves
    (fun later ↦ ∀ other, later.space.table.Resident other →
      some other ∈ Search.pages session.memory.settings arraySize key ∨
        session.space.table.Resident other) ?_ ?_ (fun _ ↦ .inr) hrunning
  · exact hkept other hresident
  · intro later page reply hpage hlater htouch other hresident
    obtain rfl | hbefore := htouch.resident_of hresident
    · exact .inl hpage
    · exact hlater other hbefore
  · exact fun later hlater other hresident ↦ hlater other (PageTable.resident_tick_iff.1 hresident)

/-- A search takes at most one frame off the free list for each page that it touches. -/
theorem size_free_le_search {arraySize key : Nat} (hstorable : session.Storable)
    (hrunning : (session.search arraySize key).outcome ≠ .crash) :
    session.memory.free.size ≤
      (session.search arraySize key).state.memory.free.size +
        footprint session.memory.settings arraySize key := by
  let later := (session.search arraySize key).state
  let pages := Search.pages session.memory.settings arraySize key
  have hframes : later.space.table.resident.length + later.memory.free.size =
      session.space.table.resident.length + session.memory.free.size := by
    simpa [held] using (search_held_perm hstorable hrunning).length_eq
  have hsubset : later.space.table.residentPages.map some ⊆
      session.space.table.residentPages.map some ++ pages.dedup := by
    intro page? hpage
    obtain ⟨page, hresident, rfl⟩ := List.mem_map.1 hpage
    rw [PageTable.mem_residentPages_iff] at hresident
    obtain htouched | hbefore := search_resident hrunning hresident
    · exact List.mem_append_right _ (List.mem_dedup.2 htouched)
    · exact List.mem_append_left _ (List.mem_map_of_mem (PageTable.mem_residentPages_iff.2 hbefore))
  have hnodup : (later.space.table.residentPages.map some).Nodup :=
    (PageTable.nodup_residentPages _).map fun _ _ ↦ Option.some.inj
  have hgrowth : later.space.table.resident.length ≤
      session.space.table.resident.length + pages.dedup.length := by
    calc
      later.space.table.resident.length = (later.space.table.residentPages.map some).length := by
        rw [List.length_map, PageTable.length_residentPages]
      _ ≤ (session.space.table.residentPages.map some ++ pages.dedup).length :=
        hnodup.length_le_of_subset hsubset
      _ = session.space.table.resident.length + pages.dedup.length := by
        rw [List.length_append, List.length_map, PageTable.length_residentPages]
  show session.memory.free.size ≤ later.memory.free.size + pages.dedup.length
  omega

end

/-! ## Searches that do not crash -/

variable {session : Session Aging}

/-- Both sets of counters are in order, and have room for so many accesses. -/
structure Spacious (session : Session Aging) (count : Nat) : Prop where
  own : session.space.counters.Consistent
  shared : session.memory.counters.Consistent
  own_le : session.space.counters.accesses ≤ session.memory.counters.accesses
  room : session.memory.counters.accesses + count < Word.bound

theorem Touch.spacious {count page : Nat} {reply : Answer (Session Aging) Access}
    (h : Touch session page reply) (hspacious : session.Spacious (count + 1)) :
    reply.state.Spacious count := by
  have hcounts := h.accesses_succ
  have hle := hspacious.own_le
  have hroom := hspacious.room
  obtain ⟨hown, hshared⟩ := h.consistent hspacious.own hspacious.shared
  exact ⟨hown, hshared, by omega, by omega⟩

/-- References to pages of the table do not crash while the counters have room. -/
theorem referenceAll_ne_crash {pages : List (Option Nat)}
    (hspacious : session.Spacious pages.length)
    (hpages : ∀ page? ∈ pages, ∃ page, page? = some page ∧ page < session.space.table.size) :
    (session.referenceAll pages).outcome ≠ .crash := by
  induction pages generalizing session with
  | nil => exact nofun
  | cons page? pages ih =>
    obtain ⟨page, rfl, hin⟩ := hpages page? List.mem_cons_self
    have hle := hspacious.own_le
    have hroom := hspacious.room
    rw [List.length_cons] at hroom
    have hroomy : session.Roomy := ⟨hspacious.own, hspacious.shared, by omega, by omega⟩
    have hfirst : (session.reference page).outcome ≠ .crash := by
      apply hroomy.reference_ne_crash hin
      intro _ _ victim policy hpick
      rw [pickVictim_eq] at hpick
      exact (PageTable.of_oldest?_eq_some (congrArg Prod.fst hpick)).2.lt_size
    have htouch := touch_reference hfirst
    rw [referenceAll_cons]
    apply Reply.andThen_ne_crash hfirst
    intro access _
    apply ih (htouch.spacious hspacious)
    intro other hother
    rw [htouch.size_table_eq]
    exact hpages other (List.mem_cons_of_mem _ hother)

/-- A search does not crash while the counters have room. -/
theorem search_ne_crash {arraySize key : Nat} (hspacious : session.Spacious 63)
    (hfits : Memory.arrayFits? session.memory.settings arraySize = some true)
    (hsize : arraySize ≤ 2 ^ 63)
    (htable : session.space.table.size = session.memory.settings.tableEntries) :
    (session.search arraySize key).outcome ≠ .crash := by
  have hlength := Search.length_pages_le session.memory.settings key hsize
  have hroom := hspacious.room
  unfold search
  apply Reply.andThen_ne_crash
  · apply referenceAll_ne_crash ⟨hspacious.own, hspacious.shared, hspacious.own_le, by omega⟩
    intro page? hpage
    rw [htable]
    exact Search.exists_of_mem_pages hfits (Nat.le_succ_of_le hsize) hpage
  · exact nofun

end PagedMemory.Session
