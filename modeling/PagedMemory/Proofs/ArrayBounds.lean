import PagedMemory.Proofs.Conservation
import PagedMemory.Proofs.Searching

/-!
# How large an array may be

The elements of an array lie behind the pinned pages of its process, so an array fits into a table
exactly if its last element does.  `Settings.Reaches` says that some element of an array lies in a
given page or beyond, counted without a word's bound.

A spawn refuses an array that reaches the end of the table, but it forms the page of the last
element as a word first, so an array that reaches page `Word.bound` crashes it.
`Machine.refusal_after` says which of the two happens, for every array and after every life.

A search adds the two ends of its interval before it halves the sum.  By
`Memory.sums_of_created` the sums of all searches in an array are words exactly if the array has at
most `2 ^ 63 + 1` elements, while a table of a few large pages accepts every array.
-/

namespace PagedMemory

/-! ## How far an array reaches -/

namespace Settings

variable {settings : Settings} {arraySize limit : Nat}

theorem intsPerPage_pos (hvalid : settings.Valid) : 0 < settings.intsPerPage := by
  obtain ⟨_, ⟨hpage, _⟩, _⟩ := valid_iff.1 hvalid
  exact Nat.div_pos hpage (by decide)

/-- Some element of an array of this size lies in page `limit` or beyond. -/
def Reaches (settings : Settings) (arraySize limit : Nat) : Prop :=
  ∃ index < arraySize, limit ≤ settings.pageOf index

/-- The last element of an array goes furthest. -/
theorem reaches_iff :
    settings.Reaches arraySize limit ↔
      0 < arraySize ∧ limit ≤ settings.pageOf (arraySize - 1) := by
  constructor
  · rintro ⟨index, hindex, hlimit⟩
    exact ⟨by omega, Nat.le_trans hlimit (pageOf_le_pageOf (by omega))⟩
  · rintro ⟨hsome, hlimit⟩
    exact ⟨arraySize - 1, by omega, hlimit⟩

instance : Decidable (settings.Reaches arraySize limit) :=
  decidable_of_iff _ reaches_iff.symm

/-- An array does not fit exactly if it reaches the end of the table, and there is no answer if it
reaches a page that is not a word. -/
theorem arrayFits?_eq (hvalid : settings.Valid) (arraySize : Nat) :
    Memory.arrayFits? settings arraySize =
      if settings.Reaches arraySize Word.bound then none
      else some (decide (¬ settings.Reaches arraySize settings.tableEntries)) := by
  have hints : settings.intsPerPage ≠ 0 := Nat.ne_of_gt (intsPerPage_pos hvalid)
  simp only [reaches_iff]
  unfold Memory.arrayFits?
  by_cases hempty : arraySize = 0
  · subst hempty
    rfl
  · have hsome : 0 < arraySize := Nat.pos_of_ne_zero hempty
    rw [if_neg hempty]
    by_cases hword : settings.pageOf (arraySize - 1) < Word.bound
    · rw [pageOfIndex?_eq_some_iff.2 ⟨hints, hword, rfl⟩]
      simp [hsome, Nat.not_le_of_lt hword]
    · have hnone : settings.pageOfIndex? (arraySize - 1) = none := by
        rw [Option.eq_none_iff_forall_ne_some]
        intro page hpage
        exact hword (pageOfIndex?_eq_some_iff.1 hpage).2.1
      simp [hnone, hsome, Nat.le_of_not_lt hword]

end Settings

/-! ## Which arrays a spawn refuses -/

namespace Machine

variable {ρ : Type} {machine : Machine ρ} {settings : Settings} {arraySize : Nat} {keys : Array Nat}

/-- A spawn that refuses an array leaves everything as it was. -/
theorem spawn_of_large (hfits : Memory.arrayFits? machine.memory.settings arraySize = some false) :
    machine.spawn arraySize keys =
      ⟨.error (.addressSpaceOverflow machine.processes.size arraySize
        machine.memory.settings.tableEntries), machine, []⟩ := by
  unfold spawn Memory.createProcess
  simp only [hfits]
  rfl

/-- What a spawn asks before it creates a process, in this order: whether the page of the last
element is a word, whether it lies in the table, whether the table can be built, and whether there
are frames for the pinned pages. -/
theorem spawn_outcome_eq (hvalid : machine.memory.settings.Valid) (arraySize : Nat)
    (keys : Array Nat) :
    (machine.spawn arraySize keys).outcome =
      if machine.memory.settings.Reaches arraySize Word.bound then .crash
      else if machine.memory.settings.Reaches arraySize machine.memory.settings.tableEntries then
        .error (.addressSpaceOverflow machine.processes.size arraySize
          machine.memory.settings.tableEntries)
      else if PageTable.sizeLimit ≤ machine.memory.settings.tableEntries then .crash
      else if machine.memory.settings.essentialPages ≤ machine.memory.free.size then
        .ok machine.processes.size
      else .error (.outOfFrames machine.processes.size) := by
  have hfits := Settings.arrayFits?_eq hvalid arraySize
  split_ifs with hoverflow hlarge hboundless hplenty
  · rw [if_pos hoverflow] at hfits
    unfold spawn Memory.createProcess
    simp only [hfits]
    rfl
  · rw [if_neg hoverflow, decide_eq_false (not_not.2 hlarge)] at hfits
    rw [spawn_of_large hfits]
  · rw [if_neg hoverflow, decide_eq_true hlarge] at hfits
    unfold spawn Memory.createProcess PageTable.blank?
    simp only [hfits, if_pos hboundless]
    rfl
  · rw [if_neg hoverflow, decide_eq_true hlarge] at hfits
    rw [spawn_of_plenty hfits (Nat.lt_of_not_le hboundless) hvalid.pinned_le hplenty]
  · rw [if_neg hoverflow, decide_eq_true hlarge] at hfits
    unfold spawn
    simp only [createProcess_eq hfits (Nat.lt_of_not_le hboundless) hvalid.pinned_le,
      if_neg hplenty]
    rfl

/-- After every life a spawn refuses exactly the arrays that reach the end of the table and no page
past the words, and refusing changes nothing.  It crashes on the arrays that reach a page past the
words, and on all that fit if the table is too large to be built.  All other spawns create a process
or run out of frames. -/
theorem refusal_after [VictimPolicy ρ] {policy : ρ} {calls : List Call} {later : Machine ρ}
    (hcreate : create settings policy = .ok machine) (hendures : machine.Endures calls)
    (hlater : machine.after calls = later) (arraySize : Nat) (keys : Array Nat) :
    ((later.spawn arraySize keys).outcome =
        .error (.addressSpaceOverflow later.processes.size arraySize settings.tableEntries) ↔
      settings.Reaches arraySize settings.tableEntries ∧
        ¬ settings.Reaches arraySize Word.bound) ∧
    ((later.spawn arraySize keys).outcome =
        .error (.addressSpaceOverflow later.processes.size arraySize settings.tableEntries) →
      (later.spawn arraySize keys).state = later ∧ (later.spawn arraySize keys).events = []) ∧
    ((later.spawn arraySize keys).outcome = .crash ↔
      settings.Reaches arraySize Word.bound ∨
        ¬ settings.Reaches arraySize settings.tableEntries ∧
          PageTable.sizeLimit ≤ settings.tableEntries) ∧
    ((later.spawn arraySize keys).outcome = .ok later.processes.size ∨
        (later.spawn arraySize keys).outcome = .error (.outOfFrames later.processes.size) ↔
      ¬ settings.Reaches arraySize Word.bound ∧
        ¬ settings.Reaches arraySize settings.tableEntries ∧
          settings.tableEntries < PageTable.sizeLimit) := by
  obtain ⟨hvalid, hcreated⟩ := accounts_create hcreate
  have haccounts := hcreated.after hvalid hendures
  rw [hlater] at haccounts
  obtain rfl := haccounts.settings_eq
  have houtcome := spawn_outcome_eq hvalid arraySize keys
  have hrefused : (later.spawn arraySize keys).outcome =
        .error (.addressSpaceOverflow later.processes.size arraySize
          later.memory.settings.tableEntries) ↔
      later.memory.settings.Reaches arraySize later.memory.settings.tableEntries ∧
        ¬ later.memory.settings.Reaches arraySize Word.bound := by
    rw [houtcome]
    split_ifs <;> simp_all
  refine ⟨hrefused, ?_, ?_, ?_⟩
  · intro hlarge
    obtain ⟨hreaches, hword⟩ := hrefused.1 hlarge
    have hfits := Settings.arrayFits?_eq hvalid arraySize
    rw [if_neg hword, decide_eq_false (not_not.2 hreaches)] at hfits
    rw [spawn_of_large hfits]
    exact ⟨rfl, rfl⟩
  · rw [houtcome]
    split_ifs <;> simp_all
  · rw [houtcome]
    split_ifs <;> simp_all

/-- Two pages for the array of a process, of one element each. -/
def narrow : Settings where
  pageSize := 4
  userFrames := 4
  tableEntries := 4
  essentialPages := 2
  reserve := 0
  fallback := .mostRecent

theorem refusal_after_narrow :
    ∃ machine : Machine Aging, create narrow .mk = .ok machine ∧
      machine.Endures [.spawn 2 #[0], .turn] ∧
      narrow.Reaches 3 narrow.tableEntries ∧ ¬ narrow.Reaches 3 Word.bound ∧
      ((machine.after [.spawn 2 #[0], .turn]).spawn 3 #[7]).outcome =
        .error (.addressSpaceOverflow (machine.after [.spawn 2 #[0], .turn]).processes.size 3 4) ∧
      ((machine.after [.spawn 2 #[0], .turn]).spawn 3 #[7]).state =
        machine.after [.spawn 2 #[0], .turn] :=
  have hcreate : create narrow Aging.mk = .ok _ := rfl
  have hendures : Endures _ [.spawn 2 #[0], .turn] := by decide +kernel
  have hlarge : narrow.Reaches 3 narrow.tableEntries := by decide
  have hword : ¬ narrow.Reaches 3 Word.bound := by decide
  have hrefusal := refusal_after hcreate hendures rfl 3 #[7]
  have hrefused := hrefusal.1.2 ⟨hlarge, hword⟩
  ⟨_, hcreate, hendures, hlarge, hword, hrefused, (hrefusal.2.1 hrefused).1⟩

/-- An array that reaches past the words reaches past the table, but a spawn does not refuse it. -/
theorem spawn_narrow_crashes :
    narrow.Valid ∧ 2 ^ 64 - 1 < Word.bound ∧ narrow.Reaches (2 ^ 64 - 1) narrow.tableEntries ∧
      ∃ machine : Machine Aging, create narrow .mk = .ok machine ∧
        (machine.spawn (2 ^ 64 - 1) #[]).outcome = .crash := by
  have hvalid : narrow.Valid := by decide
  have hcreate : create narrow Aging.mk = .ok _ := rfl
  refine ⟨hvalid, by decide, by decide, _, hcreate, ?_⟩
  exact (spawn_outcome_eq hvalid _ _).trans (if_pos (by decide))

end Machine

/-! ## Which sums of a search are words -/

namespace Search

/-- A search for a key above the midpoint goes on behind it. -/
theorem intervalsBetween_of_above {key left right : Nat} (hmore : left < right)
    (habove : (left + right) / 2 < key) :
    intervalsBetween key left right =
      ⟨left, right⟩ :: intervalsBetween key ((left + right) / 2 + 1) right := by
  rw [intervalsBetween, if_pos hmore]
  simp only [if_neg (Nat.not_le_of_lt habove)]

/-- The search for the last index moves its left end only, until at most three indices are left. -/
theorem exists_narrow_interval {key left right : Nat} (hkey : key = right) (hmore : left < right) :
    ∃ interval ∈ intervalsBetween key left right,
      2 * right ≤ interval.left + interval.right + 2 := by
  induction left, right using intervalsBetween.induct key with
  | case1 left right _ middle _ hupper =>
    rw [intervalsBetween_of_above hmore (by omega)]
    by_cases hwide : middle + 1 < right
    · obtain ⟨interval, hinterval, hsum⟩ := hupper hkey hwide
      exact ⟨interval, List.mem_cons_of_mem _ hinterval, hsum⟩
    · refine ⟨⟨left, right⟩, List.mem_cons_self, ?_⟩
      simp only [middle] at hwide ⊢
      omega
  | case2 left right hdone => exact absurd hmore hdone

/-- The sums of all searches in an array are words if the array has at most `2 ^ 63 + 1` elements,
and only then. -/
theorem sums_lt_iff {arraySize : Nat} (hword : arraySize < Word.bound) :
    (∀ key < Word.bound, ∀ interval ∈ intervals arraySize key,
        interval.left + interval.right < Word.bound) ↔ arraySize ≤ 2 ^ 63 + 1 := by
  constructor
  · intro hsums
    by_contra hlarge
    obtain ⟨interval, hinterval, hsum⟩ :=
      exists_narrow_interval rfl (show 0 < arraySize - 1 by omega)
    have hbound := hsums (arraySize - 1) (by omega) interval hinterval
    unfold Word.bound at hbound
    omega
  · intro hsmall key _ interval hinterval
    obtain ⟨_, hleft, hright⟩ := of_mem_intervalsBetween hinterval
    unfold Word.bound
    omega

end Search

/-- References that come to a page number which is no word do not all succeed. -/
theorem Session.referenceAll_ne_ok {ρ : Type} [VictimPolicy ρ] {pages : List (Option Nat)}
    (hnone : none ∈ pages) (session : Session ρ) :
    (session.referenceAll pages).outcome ≠ .ok () := by
  induction pages generalizing session with
  | nil => cases hnone
  | cons page pages ih =>
    cases page with
    | none => exact nofun
    | some page =>
      rw [referenceAll_cons]
      intro hok
      obtain ⟨_, _, hrest, _⟩ := Reply.of_andThen_ok hok
      have hlater : none ∈ pages := by simpa using hnone
      exact ih hlater _ hrest

namespace Memory

variable {ρ : Type} [VictimPolicy ρ] {memory : Memory ρ} {number : ProcessId} {arraySize : Nat}
  {keys : Array Nat} {process : UserProcess}

omit [VictimPolicy ρ] in
/-- A process is created only if its array fits. -/
theorem arrayFits?_of_created
    (hcreated : (memory.createProcess number arraySize keys).outcome = .ok process) :
    arrayFits? memory.settings arraySize = some true := by
  unfold createProcess at hcreated
  split at hcreated
  · cases hcreated
  · cases hcreated
  · assumption

/-- In the searches of a process that was created every page of a midpoint is a word, and lies in
the table.  The sums that are halved are words exactly if the array has at most `2 ^ 63 + 1`
elements: then no search comes to a page number that is no word, whatever its key, and otherwise
the search for the last index never succeeds, whatever the memory. -/
theorem sums_of_created (hword : arraySize < Word.bound)
    (hcreated : (memory.createProcess number arraySize keys).outcome = .ok process) :
    (∀ key, ∀ interval ∈ Search.intervals arraySize key,
      memory.settings.pageOf interval.midpoint < Word.bound ∧
        memory.settings.pageOf interval.midpoint < memory.settings.tableEntries) ∧
    ((∀ key < Word.bound, ∀ interval ∈ Search.intervals arraySize key,
      interval.left + interval.right < Word.bound) ↔ arraySize ≤ 2 ^ 63 + 1) ∧
    (arraySize ≤ 2 ^ 63 + 1 → ∀ key, none ∉ Search.pages memory.settings arraySize key) ∧
    (2 ^ 63 + 1 < arraySize → ∀ session : Session ρ, session.memory.settings = memory.settings →
      (session.search arraySize (arraySize - 1)).outcome ≠ .ok ()) := by
  have hfits := arrayFits?_of_created hcreated
  refine ⟨?_, Search.sums_lt_iff hword, ?_, ?_⟩
  · intro key interval hinterval
    obtain ⟨page, hpage, hin⟩ :=
      Search.exists_pageOfIndex? hfits (Search.midpoint_lt_of_mem_intervals hinterval)
    obtain ⟨_, hpageWord, rfl⟩ := Settings.pageOfIndex?_eq_some_iff.1 hpage
    exact ⟨hpageWord, hin⟩
  · intro hsmall key hnone
    obtain ⟨page, hpage, _⟩ := Search.exists_of_mem_pages hfits hsmall hnone
    cases hpage
  · intro hlarge session hsettings hok
    obtain ⟨_, hserved, _⟩ := Reply.of_andThen_ok hok
    refine Session.referenceAll_ne_ok ?_ session hserved
    obtain ⟨interval, hinterval, hsum⟩ :=
      Search.exists_narrow_interval rfl (show 0 < arraySize - 1 by omega)
    refine List.mem_map.2 ⟨interval, hinterval, ?_⟩
    rw [Option.eq_none_iff_forall_ne_some]
    intro page hpage
    have hbound := (Search.Interval.page?_eq_some_iff.1 hpage).1
    unfold Word.bound at hbound
    omega

end Memory

namespace Machine

/-- Eight pages of nearly `2 ^ 62` elements each. -/
def immense : Settings where
  pageSize := 2 ^ 64 - 4
  userFrames := 8
  tableEntries := 8
  essentialPages := 1
  reserve := 0
  fallback := .mostRecent

/-- The machine with these settings, before any call. -/
def unsearched : Machine Aging where
  memory := { settings := immense, free := .full 8 .mostRecent, policy := .mk }

theorem sums_of_created_immense :
    2 ^ 63 + 1 < Word.bound ∧
      ∃ process, (unsearched.memory.createProcess 0 (2 ^ 63 + 1) #[0]).outcome = .ok process ∧
        ∀ key, none ∉ Search.pages immense (2 ^ 63 + 1) key :=
  have hword : 2 ^ 63 + 1 < Word.bound := by decide
  have hcreated : (unsearched.memory.createProcess 0 (2 ^ 63 + 1) #[0]).outcome = .ok _ := rfl
  ⟨hword, _, hcreated, (Memory.sums_of_created hword hcreated).2.2.1 (by decide)⟩

/-- A process is created with the largest array, and its first search ends the program: the ends of
the second interval have no sum. -/
theorem turn_immense_crashes :
    create immense .mk = .ok unsearched ∧ 2 ^ 64 - 1 < Word.bound ∧
      (unsearched.spawn (2 ^ 64 - 1) #[2 ^ 64 - 1]).outcome = .ok 0 ∧
      (∃ interval ∈ Search.intervals (2 ^ 64 - 1) (2 ^ 64 - 1),
        Word.bound ≤ interval.left + interval.right) ∧
      (unsearched.spawn (2 ^ 64 - 1) #[2 ^ 64 - 1]).state.turn.outcome = .crash := by
  obtain ⟨rest, hintervals⟩ : ∃ rest, Search.intervals (2 ^ 64 - 1) (2 ^ 64 - 1) =
      ⟨0, 2 ^ 64 - 2⟩ :: ⟨2 ^ 63, 2 ^ 64 - 2⟩ :: rest := by
    unfold Search.intervals
    rw [Search.intervalsBetween_of_above (by decide) (by decide),
      Search.intervalsBetween_of_above (by decide) (by decide)]
    exact ⟨_, rfl⟩
  refine ⟨rfl, by decide, rfl, ⟨⟨2 ^ 63, 2 ^ 64 - 2⟩, ?_, by decide⟩, ?_⟩
  · rw [hintervals]
    exact List.mem_cons_of_mem _ List.mem_cons_self
  · have hpages : Search.pages immense (2 ^ 64 - 1) (2 ^ 64 - 1) =
        some 3 :: none :: rest.map (·.page? immense) := by
      unfold Search.pages
      rw [hintervals]
      rfl
    let spawned := (unsearched.spawn (2 ^ 64 - 1) #[2 ^ 64 - 1]).state
    let searcher := unsearched.newborn (2 ^ 64 - 1) #[2 ^ 64 - 1]
    have hready : spawned.ready = [0] := rfl
    have hfound : spawned.processes[0]? = some searcher := rfl
    have hkey : searcher.nextKey? = some (2 ^ 64 - 1) := rfl
    apply turn_of_crash hready hfound hkey
    change (((spawned.session searcher).referenceAll
      (Search.pages immense (2 ^ 64 - 1) (2 ^ 64 - 1))).andThen fun _ session ↦
        session.tick).outcome = .crash
    rw [hpages]
    rfl

end Machine

end PagedMemory
