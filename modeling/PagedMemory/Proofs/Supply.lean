import Mathlib.Data.List.Dedup
import PagedMemory.Proofs.Searching

/-!
# Searches that find frames enough

While every fault finds more frames free than are kept in reserve, the policy is never asked.  Then
a process keeps every page that it has touched, and every different page costs it one fault.
`Session.Supplied` says of a session that this has been so, and that the frames last for all pages
that the process will ever touch, with some to spare for others.  A search keeps the session
supplied, whatever the policy is.
-/

namespace PagedMemory

theorem length_dedup_concat_of_mem {α : Type} [DecidableEq α] {list : List α} {value : α}
    (h : value ∈ list) : (list ++ [value]).dedup.length = list.dedup.length := by
  rw [(List.perm_append_singleton value list).dedup.length_eq, List.dedup_cons_of_mem h]

theorem length_dedup_concat_of_not_mem {α : Type} [DecidableEq α] {list : List α} {value : α}
    (h : value ∉ list) : (list ++ [value]).dedup.length = list.dedup.length + 1 := by
  rw [(List.perm_append_singleton value list).dedup.length_eq, List.dedup_cons_of_notMem h,
    List.length_cons]

theorem length_dedup_le_of_subset {α : Type} [DecidableEq α] {list list' : List α}
    (h : list ⊆ list') : list.dedup.length ≤ list'.dedup.length := by
  apply (List.nodup_dedup list).length_le_of_subset
  intro value hvalue
  exact List.mem_dedup.2 (h (List.mem_dedup.1 hvalue))

namespace Counters

/-- What a process is charged for touching these pages if it never has to give one up. -/
def ofPages (pages : List (Option Nat)) : Counters where
  accesses := pages.length
  faults := pages.dedup.length

theorem consistent_ofPages (pages : List (Option Nat)) : (ofPages pages).Consistent :=
  ⟨(List.dedup_sublist pages).length_le, Nat.zero_le _, rfl⟩

theorem ofPages_concat_of_mem {pages : List (Option Nat)} {page : Option Nat} (h : page ∈ pages) :
    ofPages (pages ++ [page]) = (ofPages pages).withAccess := by
  simp only [ofPages, withAccess, length_dedup_concat_of_mem h, List.length_append,
    List.length_singleton]

theorem ofPages_concat_of_not_mem {pages : List (Option Nat)} {page : Option Nat}
    (h : page ∉ pages) : ofPages (pages ++ [page]) = (ofPages pages).withFault := by
  simp only [ofPages, withFault, length_dedup_concat_of_not_mem h, List.length_append,
    List.length_singleton]

/-- Without a replacement no rule has been used. -/
theorem Consistent.attempts_eq_zero {counters : Counters} (h : counters.Consistent)
    (hkept : counters.replacements = 0) : counters.attempts = {} := by
  have htotal := h.total_attempts
  rcases hattempts : counters.attempts with ⟨exactReuse, unowned, sameOwner, fallback⟩
  rw [hkept, hattempts] at htotal
  simp only [AffinityTally.total] at htotal
  simp only [AffinityTally.mk.injEq]
  omega

end Counters

namespace Session

variable {ρ : Type}

/-- The process has touched the pages of `past` and has them all, and there are frames for the other
pages of `all` behind the reserve, with some to spare. -/
structure Supplied (settings : Settings) (session : Session ρ) (past all : List (Option Nat))
    (spare : Nat) : Prop where
  settings_eq : session.memory.settings = settings
  resident_iff : ∀ page, session.space.table.Resident page ↔
    page < settings.essentialPages ∨ some page ∈ past
  counters_eq : session.space.counters = .ofPages past
  shared : session.memory.counters.Consistent
  kept : session.memory.counters.replacements = 0
  own_le : past.length ≤ session.memory.counters.accesses
  subset : past ⊆ all
  supply : settings.reserve + spare + all.dedup.length ≤
    session.memory.free.size + past.dedup.length

variable [VictimPolicy ρ] {session : Session ρ} {settings : Settings}
  {past all : List (Option Nat)} {spare : Nat}

omit [VictimPolicy ρ] in
theorem Supplied.concat_subset (h : session.Supplied settings past all spare) {page : Option Nat}
    (hpage : page ∈ all) : past ++ [page] ⊆ all :=
  List.append_subset.2 ⟨h.subset, List.cons_subset.2 ⟨hpage, List.nil_subset _⟩⟩

omit [VictimPolicy ρ] in
/-- A page that the process will touch and does not have finds a free frame behind the reserve. -/
theorem Supplied.reserve_lt (h : session.Supplied settings past all spare) {page : Nat}
    (hpage : some page ∈ all) (hnew : some page ∉ past) :
    session.memory.settings.reserve < session.memory.free.size := by
  have hmore := length_dedup_le_of_subset (h.concat_subset hpage)
  rw [length_dedup_concat_of_not_mem hnew] at hmore
  have hsupply := h.supply
  rw [h.settings_eq]
  omega

omit [VictimPolicy ρ] in
theorem Supplied.concat_le (h : session.Supplied settings past all spare) (page : Option Nat) :
    (past ++ [page]).length ≤ session.memory.counters.accesses + 1 := by
  rw [List.length_append, List.length_singleton]
  exact Nat.succ_le_succ h.own_le

omit [VictimPolicy ρ] in
/-- A page that the process has does not become resident again. -/
theorem Supplied.hit (h : session.Supplied settings past all spare) {page : Nat}
    (hpage : some page ∈ all) (hpast : some page ∈ past) :
    (session.settle .withAccess session.memory.free session.memory.policy
      (session.space.table.markReferenced page)).Supplied settings (past ++ [some page]) all
        spare where
  settings_eq := h.settings_eq
  resident_iff := by
    intro other
    simp only [table_settle, PageTable.resident_markReferenced_iff, h.resident_iff other,
      List.mem_append, List.mem_singleton, Option.some.injEq]
    constructor
    · rintro (hpinned | hbefore)
      · exact .inl hpinned
      · exact .inr (.inl hbefore)
    · rintro (hpinned | hbefore | rfl)
      · exact .inl hpinned
      · exact .inr hbefore
      · exact .inr hpast
  counters_eq := by
    rw [Counters.ofPages_concat_of_mem hpast, ← h.counters_eq]
    rfl
  shared := h.shared.withAccess
  kept := h.kept
  own_le := h.concat_le _
  subset := h.concat_subset hpage
  supply := by
    rw [length_dedup_concat_of_mem hpast]
    exact h.supply

omit [VictimPolicy ρ] in
/-- A page that the process touches for the first time takes one frame of its supply. -/
theorem Supplied.coldMiss (h : session.Supplied settings past all spare) {page : Nat}
    (hpage : some page ∈ all) (habsent : session.space.table.Absent page) {chosen : FreeFrame}
    {rest : FreeList} (hpop : session.memory.free.pop? = some (chosen, rest)) :
    (session.settle .withFault rest session.memory.policy
      (session.space.table.map page chosen.frame)).Supplied settings (past ++ [some page]) all
        spare := by
  have hnew : some page ∉ past :=
    fun hpast ↦ habsent.not_resident ((h.resident_iff page).2 (.inr hpast))
  constructor
  case settings_eq => exact h.settings_eq
  case resident_iff =>
    intro other
    obtain ⟨slot, hslot, _⟩ := habsent
    simp only [table_settle, PageTable.resident_map_iff, h.resident_iff other,
      List.mem_append, List.mem_singleton, Option.some.injEq,
      and_iff_left (PageTable.lt_size_of_slot?_eq_some hslot)]
    rw [or_comm, or_assoc]
  case counters_eq =>
    rw [Counters.ofPages_concat_of_not_mem hnew, ← h.counters_eq]
    rfl
  case shared => exact h.shared.withFault
  case kept => exact h.kept
  case own_le => exact h.concat_le _
  case subset => exact h.concat_subset hpage
  case supply =>
    have hsize := FreeList.size_of_pop?_eq_some hpop
    have hsupply := h.supply
    rw [length_dedup_concat_of_not_mem hnew, free_settle]
    omega

/-- A reference of a supplied process is a hit or a cold miss, and leaves it supplied. -/
theorem Touch.supplied {page : Nat} {reply : Answer (Session ρ) Access}
    (htouch : Touch session page reply) (h : session.Supplied settings past all spare)
    (hpage : some page ∈ all) (hlow : settings.essentialPages ≤ page) :
    (∃ access, reply.outcome = .ok access) ∧
      reply.state.Supplied settings (past ++ [some page]) all spare := by
  have hroomy (habsent : session.space.table.Absent page) :
      session.memory.settings.reserve < session.memory.free.size := by
    apply h.reserve_lt hpage
    exact fun hpast ↦ habsent.not_resident ((h.resident_iff page).2 (.inr hpast))
  cases htouch with
  | hit hresident =>
    obtain hpinned | hpast := (h.resident_iff page).1 hresident
    · exact absurd hlow (Nat.not_le_of_lt hpinned)
    · exact ⟨⟨.hit, rfl⟩, h.hit hpage hpast⟩
  | coldMiss habsent _ hpop => exact ⟨⟨.coldMiss, rfl⟩, h.coldMiss hpage habsent hpop⟩
  | noVictim habsent hshort | framelessVictim habsent hshort | warmMiss habsent hshort =>
    exact absurd (hroomy habsent) (Nat.not_lt_of_le hshort)

theorem Supplied.touch (h : session.Supplied settings past all spare) {page : Nat}
    (hpage : some page ∈ all)
    (hin : page < session.space.table.size)
    (hroom : session.memory.counters.accesses + 1 < Word.bound) :
    Touch session page (session.reference page) := by
  have hown : session.space.counters.accesses + 1 < Word.bound := by
    rw [h.counters_eq]
    exact Nat.lt_of_le_of_lt (Nat.succ_le_succ h.own_le) hroom
  have hconsistent : session.space.counters.Consistent := by
    rw [h.counters_eq]
    exact Counters.consistent_ofPages past
  have hroomy : session.Roomy := ⟨hconsistent, h.shared, hown, hroom⟩
  apply touch_reference
  apply hroomy.reference_ne_crash hin
  intro hmissing hscarce
  have hnew : some page ∉ past := fun hpast ↦ hmissing ((h.resident_iff page).2 (.inr hpast))
  exact absurd (h.reserve_lt hpage hnew) (Nat.not_lt_of_le hscarce)

/-- References of a supplied process succeed and leave it supplied. -/
theorem Supplied.referenceAll {pages : List (Option Nat)}
    (h : session.Supplied settings past all spare) (hsubset : pages ⊆ all)
    (hpages : ∀ page? ∈ pages, ∃ page, page? = some page ∧ settings.essentialPages ≤ page ∧
      page < session.space.table.size)
    (hroom : session.memory.counters.accesses + pages.length < Word.bound) :
    (session.referenceAll pages).outcome = .ok () ∧
      (session.referenceAll pages).state.Supplied settings (past ++ pages) all spare := by
  induction pages generalizing session past with
  | nil =>
    rw [List.append_nil]
    exact ⟨rfl, h⟩
  | cons page? pages ih =>
    obtain ⟨page, rfl, hlow, hin⟩ := hpages page? List.mem_cons_self
    rw [List.length_cons] at hroom
    have hpage := hsubset List.mem_cons_self
    have htouch := h.touch hpage hin (by omega)
    obtain ⟨⟨access, hserved⟩, hnext⟩ := htouch.supplied h hpage hlow
    have haccesses := htouch.accesses_succ.2
    have hsize := htouch.size_table_eq
    rw [referenceAll_cons, List.append_cons]
    unfold Reply.andThen
    simp only [hserved]
    apply ih hnext (fun other hother ↦ hsubset (List.mem_cons_of_mem _ hother))
    · intro other hother
      rw [hsize]
      exact hpages other (List.mem_cons_of_mem _ hother)
    · omega

/-- A search of a supplied process succeeds and leaves it supplied. -/
theorem Supplied.search (h : session.Supplied settings past all spare) {arraySize key : Nat}
    (hsubset : Search.pages settings arraySize key ⊆ all)
    (hfits : Memory.arrayFits? settings arraySize = some true) (hsize : arraySize ≤ 2 ^ 63)
    (htable : session.space.table.size = settings.tableEntries)
    (hroom : session.memory.counters.accesses + 63 < Word.bound) :
    (session.search arraySize key).outcome = .ok () ∧
      (session.search arraySize key).state.Supplied settings
        (past ++ Search.pages settings arraySize key) all spare := by
  have hlength := Search.length_pages_le settings key hsize
  obtain ⟨hok, hserved⟩ := h.referenceAll hsubset (by
    intro page? hpage
    obtain ⟨page, rfl, hin⟩ := Search.exists_of_mem_pages hfits (Nat.le_succ_of_le hsize) hpage
    rw [htable]
    exact ⟨page, rfl, Search.le_of_mem_pages hpage, hin⟩) (by omega)
  rw [← h.settings_eq] at hok
  rw [search_of_ok hok]
  rw [h.settings_eq] at hok ⊢
  refine ⟨rfl, hserved.settings_eq, ?_, hserved.counters_eq, hserved.shared, hserved.kept,
    hserved.own_le, hserved.subset, hserved.supply⟩
  intro page
  rw [← hserved.resident_iff]
  exact PageTable.resident_tick_iff

end Session

end PagedMemory
