import Mathlib.Algebra.Ring.Nat
import PagedMemory.Proofs.Touch
import PagedMemory.Search
import PagedMemory.UserProcess

/-!
# What a search preserves

A search is a sequence of references that stops at the first failure, and a clock tick if none
fails.  `Session.referenceAll_preserves` and `Session.search_preserves` carry a property of sessions
from one reference to a whole search, whether or not it fails.  The settings, the number of the
process and the size of its table never change.

`Settings.pageOf` is the page of an element counted without a word's bound.  The pages of a search
lie behind the pinned pages, and in the table if the array does.  Every interval of a search lies in
the array, and each has at most half as many steps in it as the one before: a search in an interval
narrower than `2 ^ n` takes at most `n` steps.
-/

namespace PagedMemory

namespace Session

variable {ρ : Type} [VictimPolicy ρ]

theorem Touch.settings_eq {session : Session ρ} {page : Nat} {reply : Answer (Session ρ) Access}
    (h : Touch session page reply) : reply.state.memory.settings = session.memory.settings := by
  cases h <;> rfl

theorem Touch.process_eq {session : Session ρ} {page : Nat} {reply : Answer (Session ρ) Access}
    (h : Touch session page reply) : reply.state.space.process = session.space.process := by
  cases h <;> rfl

theorem Touch.size_table_eq {session : Session ρ} {page : Nat}
    {reply : Answer (Session ρ) Access} (h : Touch session page reply) :
    reply.state.space.table.size = session.space.table.size := by
  cases h <;> simp

/-- A sequence of references that goes on after its first page has served that page. -/
theorem referenceAll_cons (session : Session ρ) (page : Nat) (pages : List (Option Nat)) :
    session.referenceAll (some page :: pages) =
      (session.reference page).andThen fun _ session ↦ session.referenceAll pages := rfl

/-- What every single reference preserves, also one that fails, a sequence of them preserves. -/
theorem referenceAll_preserves (holds : Session ρ → Prop) {pages : List (Option Nat)}
    {session : Session ρ}
    (hstep : ∀ session page reply, some page ∈ pages → holds session →
      Touch session page reply → holds reply.state)
    (hstart : holds session) (hrunning : (session.referenceAll pages).outcome ≠ .crash) :
    holds (session.referenceAll pages).state := by
  induction pages generalizing session with
  | nil => exact hstart
  | cons page pages ih =>
    cases page with
    | none => exact absurd rfl hrunning
    | some page =>
      rw [referenceAll_cons] at hrunning ⊢
      have htouch := Reply.ne_crash_of_andThen hrunning
      have hnext := hstep session page _ List.mem_cons_self hstart (touch_reference htouch)
      unfold Reply.andThen at hrunning ⊢
      cases houtcome : (session.reference page).outcome with
      | ok access =>
        simp only [houtcome] at hrunning ⊢
        exact ih (fun session page reply hpage ↦
          hstep session page reply (List.mem_cons_of_mem _ hpage)) hnext hrunning
      | error reason => exact hnext
      | crash => exact absurd houtcome htouch

/-! ## Searches -/

/-- A search that serves all its references ends with a clock tick. -/
theorem search_of_ok {session : Session ρ} {arraySize key : Nat}
    (h : (session.referenceAll
      (Search.pages session.memory.settings arraySize key)).outcome = .ok ()) :
    session.search arraySize key =
      let reply := session.referenceAll (Search.pages session.memory.settings arraySize key)
      ⟨.ok (), reply.state.withTable reply.state.space.table.tick,
        reply.events ++ [.tableAged reply.state.space.process]⟩ := by
  unfold search Reply.andThen
  simp only [h]
  rfl

/-- A search in which a reference fails ends there. -/
theorem search_of_error {session : Session ρ} {arraySize key : Nat} {reason : PagingError}
    (h : (session.referenceAll
      (Search.pages session.memory.settings arraySize key)).outcome = .error reason) :
    session.search arraySize key =
      let reply := session.referenceAll (Search.pages session.memory.settings arraySize key)
      ⟨.error reason, reply.state, reply.events⟩ := by
  unfold search Reply.andThen
  simp only [h]

/-- A search that succeeds has served its references, and gives the pages a tick after them. -/
theorem state_of_search_ok {session later : Session ρ} {arraySize key : Nat} {events : List Event}
    (h : session.search arraySize key = ⟨.ok (), later, events⟩) :
    later =
      let reply := session.referenceAll (Search.pages session.memory.settings arraySize key)
      reply.state.withTable reply.state.space.table.tick := by
  unfold search Reply.andThen at h
  split at h
  · exact (congrArg Reply.state h).symm
  · cases congrArg Reply.outcome h
  · cases congrArg Reply.outcome h

/-- A search that fails leaves what its references have left. -/
theorem state_of_search_error {session later : Session ρ} {arraySize key : Nat}
    {reason : PagingError} {events : List Event}
    (h : session.search arraySize key = ⟨.error reason, later, events⟩) :
    later = (session.referenceAll (Search.pages session.memory.settings arraySize key)).state := by
  unfold search Reply.andThen at h
  split at h
  · cases congrArg Reply.outcome h
  · exact (congrArg Reply.state h).symm
  · cases congrArg Reply.outcome h

theorem referenceAll_ne_crash_of_search {session : Session ρ} {arraySize key : Nat}
    (h : (session.search arraySize key).outcome ≠ .crash) :
    (session.referenceAll
      (Search.pages session.memory.settings arraySize key)).outcome ≠ .crash :=
  Reply.ne_crash_of_andThen h

/-- A search that does not crash has a word for its first page, and refers to it without a crash. -/
theorem reference_ne_crash_of_search {session : Session ρ} {arraySize key : Nat}
    {first : Option Nat} {pages : List (Option Nat)}
    (hpages : Search.pages session.memory.settings arraySize key = first :: pages)
    (h : (session.search arraySize key).outcome ≠ .crash) :
    ∃ page, first = some page ∧ (session.reference page).outcome ≠ .crash := by
  have hserving := referenceAll_ne_crash_of_search h
  rw [hpages] at hserving
  cases first with
  | none => exact absurd rfl hserving
  | some page =>
    rw [referenceAll_cons] at hserving
    exact ⟨page, rfl, Reply.ne_crash_of_andThen hserving⟩

/-- What every reference of a search and the clock tick preserve, the search preserves. -/
theorem search_preserves (holds : Session ρ → Prop) {session : Session ρ} {arraySize key : Nat}
    (hstep : ∀ session' page reply,
      some page ∈ Search.pages session.memory.settings arraySize key → holds session' →
        Touch session' page reply → holds reply.state)
    (htick : ∀ session, holds session → holds (session.withTable session.space.table.tick))
    (hstart : holds session) (hrunning : (session.search arraySize key).outcome ≠ .crash) :
    holds (session.search arraySize key).state := by
  have hreferences := referenceAll_ne_crash_of_search hrunning
  have hserved := referenceAll_preserves holds hstep hstart hreferences
  cases houtcome : (session.referenceAll
      (Search.pages session.memory.settings arraySize key)).outcome with
  | ok _ =>
    rw [search_of_ok houtcome]
    exact htick _ hserved
  | error reason =>
    rw [search_of_error houtcome]
    exact hserved
  | crash => exact absurd houtcome hreferences

/-- A search changes neither the settings nor whose table it works on, nor the size of the table. -/
theorem search_fixed {session : Session ρ} {arraySize key : Nat}
    (hrunning : (session.search arraySize key).outcome ≠ .crash) :
    (session.search arraySize key).state.memory.settings = session.memory.settings ∧
      (session.search arraySize key).state.space.process = session.space.process ∧
      (session.search arraySize key).state.space.table.size = session.space.table.size := by
  refine search_preserves
    (fun later ↦ later.memory.settings = session.memory.settings ∧
      later.space.process = session.space.process ∧
      later.space.table.size = session.space.table.size) ?_ ?_ ⟨rfl, rfl, rfl⟩ hrunning
  · rintro later page reply _ ⟨hsettings, hprocess, hsize⟩ htouch
    exact ⟨htouch.settings_eq.trans hsettings, htouch.process_eq.trans hprocess,
      htouch.size_table_eq.trans hsize⟩
  · rintro later ⟨hsettings, hprocess, hsize⟩
    exact ⟨hsettings, hprocess, (PageTable.size_tick _).trans hsize⟩

theorem Touch.accesses_succ {session : Session ρ} {page : Nat} {reply : Answer (Session ρ) Access}
    (h : Touch session page reply) :
    reply.state.space.counters.accesses = session.space.counters.accesses + 1 ∧
      reply.state.memory.counters.accesses = session.memory.counters.accesses + 1 := by
  cases h <;> exact ⟨rfl, rfl⟩

theorem Touch.consistent {session : Session ρ} {page : Nat} {reply : Answer (Session ρ) Access}
    (h : Touch session page reply) (hown : session.space.counters.Consistent)
    (hshared : session.memory.counters.Consistent) :
    reply.state.space.counters.Consistent ∧ reply.state.memory.counters.Consistent := by
  cases h with
  | hit => exact ⟨hown.withAccess, hshared.withAccess⟩
  | coldMiss => exact ⟨hown.withFault, hshared.withFault⟩
  | noVictim => exact ⟨hown.withFault, hshared.withFault⟩
  | framelessVictim => exact ⟨hown.withFault, hshared.withFault⟩
  | warmMiss => exact ⟨hown.withReplacement _, hshared.withReplacement _⟩

/-- A search keeps the counters of the process and those of the machine consistent. -/
theorem search_consistent {session : Session ρ} {arraySize key : Nat}
    (hown : session.space.counters.Consistent) (hshared : session.memory.counters.Consistent)
    (hrunning : (session.search arraySize key).outcome ≠ .crash) :
    (session.search arraySize key).state.space.counters.Consistent ∧
      (session.search arraySize key).state.memory.counters.Consistent := by
  refine search_preserves
    (fun later ↦ later.space.counters.Consistent ∧ later.memory.counters.Consistent) ?_ ?_
    ⟨hown, hshared⟩ hrunning
  · rintro later page reply _ ⟨hown, hshared⟩ htouch
    exact htouch.consistent hown hshared
  · exact fun later hlater ↦ hlater

end Session

/-! ## The page of an element -/

namespace Settings

/-- The page of an element of the searched array, whether or not it is a word. -/
def pageOf (settings : Settings) (index : Nat) : Nat :=
  settings.essentialPages + index / settings.intsPerPage

theorem pageOf_le_pageOf {settings : Settings} {index index' : Nat} (h : index ≤ index') :
    settings.pageOf index ≤ settings.pageOf index' :=
  Nat.add_le_add_left (Nat.div_le_div_right h) _

theorem pageOfIndex?_eq_some_iff {settings : Settings} {index page : Nat} :
    settings.pageOfIndex? index = some page ↔
      settings.intsPerPage ≠ 0 ∧ settings.pageOf index < Word.bound ∧
        settings.pageOf index = page := by
  unfold pageOfIndex? pageOf
  split
  · rename_i hnone
    exact iff_of_false nofun fun h ↦ h.1 hnone
  · rename_i hints
    rw [Word.add?_eq_some_iff, and_iff_right hints]

end Settings

/-! ## The pages of a search -/

namespace Search

/-- No search touches a pinned page. -/
theorem le_of_mem_pages {settings : Settings} {arraySize key page : Nat}
    (h : some page ∈ pages settings arraySize key) : settings.essentialPages ≤ page := by
  obtain ⟨interval, _, hpage⟩ := List.mem_map.1 h
  simp only [Interval.page?, Option.bind_eq_bind, Option.bind_eq_some_iff] at hpage
  obtain ⟨_, _, hindex⟩ := hpage
  obtain ⟨_, _, rfl⟩ := Settings.pageOfIndex?_eq_some_iff.1 hindex
  exact Nat.le_add_right _ _

/-- A search in an array of at most one element touches no page. -/
theorem pages_eq_nil {settings : Settings} {arraySize key : Nat} (hsmall : arraySize ≤ 1) :
    pages settings arraySize key = [] := by
  unfold pages intervals intervalsBetween
  rw [if_neg (by omega)]
  rfl

/-- Any other search begins in the middle of the array. -/
theorem exists_pages_cons (settings : Settings) {arraySize : Nat} (key : Nat)
    (hseveral : 2 ≤ arraySize) :
    ∃ rest, pages settings arraySize key =
      (Interval.mk 0 (arraySize - 1)).page? settings :: rest := by
  unfold pages intervals
  rw [intervalsBetween, if_pos (by omega), List.map_cons]
  exact ⟨_, rfl⟩

theorem Interval.page?_eq_some_iff {settings : Settings} {interval : Interval} {page : Nat} :
    interval.page? settings = some page ↔
      interval.left + interval.right < Word.bound ∧
        settings.pageOfIndex? interval.midpoint = some page := by
  unfold Interval.page? Interval.midpoint
  simp only [Option.bind_eq_bind, Option.bind_eq_some_iff, Word.add?_eq_some_iff]
  constructor
  · rintro ⟨_, ⟨hword, rfl⟩, hpage⟩
    exact ⟨hword, hpage⟩
  · rintro ⟨hword, hpage⟩
    exact ⟨_, ⟨hword, rfl⟩, hpage⟩

/-- If the array fits into the table, each of its elements lies in a page of the table. -/
theorem exists_pageOfIndex? {settings : Settings} {arraySize index : Nat}
    (hfits : Memory.arrayFits? settings arraySize = some true) (hindex : index < arraySize) :
    ∃ page, settings.pageOfIndex? index = some page ∧ page < settings.tableEntries := by
  unfold Memory.arrayFits? at hfits
  rw [if_neg (by omega), Option.map_eq_some_iff] at hfits
  obtain ⟨last, hlast, hin⟩ := hfits
  rw [decide_eq_true_eq] at hin
  obtain ⟨hints, hword, rfl⟩ := Settings.pageOfIndex?_eq_some_iff.1 hlast
  have hle : settings.pageOf index ≤ settings.pageOf (arraySize - 1) :=
    Settings.pageOf_le_pageOf (by omega)
  have hpage := Settings.pageOfIndex?_eq_some_iff.2 ⟨hints, Nat.lt_of_le_of_lt hle hword, rfl⟩
  exact ⟨settings.pageOf index, hpage, Nat.lt_of_le_of_lt hle hin⟩

/-! ## How far a search goes -/

/-- The intervals of a search lie inside the one that it begins with. -/
theorem of_mem_intervalsBetween {key left right : Nat} {interval : Interval}
    (h : interval ∈ intervalsBetween key left right) :
    left ≤ interval.left ∧ interval.left < interval.right ∧ interval.right ≤ right := by
  induction left, right using intervalsBetween.induct key with
  | case1 left right hmore middle hlower hupper =>
    rw [intervalsBetween, if_pos hmore] at h
    obtain rfl | hrest := List.mem_cons.1 h
    · exact ⟨Nat.le_refl _, hmore, Nat.le_refl _⟩
    · split at hrest
      · have hinside := hlower hrest
        omega
      · have hinside := hupper hrest
        omega
  | case2 left right hdone =>
    rw [intervalsBetween, if_neg hdone] at h
    cases h

/-- Each step halves the interval. -/
theorem length_intervalsBetween_le {key left right : Nat} (count : Nat)
    (hwidth : right - left < 2 ^ count) : (intervalsBetween key left right).length ≤ count := by
  induction count generalizing left right with
  | zero =>
    rw [intervalsBetween, if_neg (by omega)]
    exact Nat.le_refl 0
  | succ count ih =>
    rw [intervalsBetween]
    split
    · rw [Nat.pow_succ] at hwidth
      simp only [List.length_cons, Nat.succ_le_succ_iff]
      split
      · apply ih
        omega
      · apply ih
        omega
    · exact Nat.zero_le _

/-- A search in an array of at most `2 ^ 63` elements touches at most 63 pages. -/
theorem length_pages_le (settings : Settings) {arraySize : Nat} (key : Nat)
    (hsize : arraySize ≤ 2 ^ 63) : (pages settings arraySize key).length ≤ 63 := by
  unfold pages intervals
  rw [List.length_map]
  apply length_intervalsBetween_le
  omega

/-- A search looks at elements of the array only. -/
theorem midpoint_lt_of_mem_intervals {arraySize key : Nat} {interval : Interval}
    (h : interval ∈ intervals arraySize key) : interval.midpoint < arraySize := by
  obtain ⟨_, hleft, hright⟩ := of_mem_intervalsBetween h
  unfold Interval.midpoint
  omega

/-- All pages of a search lie in a table into which the array fits. -/
theorem exists_of_mem_pages {settings : Settings} {arraySize key : Nat}
    (hfits : Memory.arrayFits? settings arraySize = some true) (hsize : arraySize ≤ 2 ^ 63 + 1)
    {page? : Option Nat} (h : page? ∈ pages settings arraySize key) :
    ∃ page, page? = some page ∧ page < settings.tableEntries := by
  obtain ⟨interval, hinterval, rfl⟩ := List.mem_map.1 h
  obtain ⟨_, hleft, hright⟩ := of_mem_intervalsBetween hinterval
  obtain ⟨page, hpage, hin⟩ := exists_pageOfIndex? hfits (midpoint_lt_of_mem_intervals hinterval)
  refine ⟨page, ?_, hin⟩
  rw [Interval.page?_eq_some_iff]
  refine ⟨?_, hpage⟩
  unfold Word.bound
  omega

end Search

end PagedMemory
