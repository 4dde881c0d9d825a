import Mathlib.Data.List.Iterate
import Mathlib.Data.Nat.Log
import PagedMemory.Proofs.Journal
import PagedMemory.Proofs.Transparency

/-!
# Where a search ends

A search keeps an interval of indices, and each of its references replaces the interval by one of
its halves: `Search.Interval.half`.  The index of the interval that is nearest to the key,
`Search.Interval.target`, stays inside, so it is what is left in the end, whatever the key is.  The
lower half of an interval of odd length is the longer one, so a search in an array of `n` elements
takes between `Nat.log 2 n` and `Nat.clog 2 n` references.

`Machine.search_converges` puts this together with what a search does to the machine: a search whose
references all succeed makes the references of these intervals, ages the table once and moves on to
the next key.
-/

namespace PagedMemory

/-! ## Halving -/

namespace Search

namespace Interval

/-- The half of an interval in which the search for `key` goes on. -/
def half (key : Nat) (interval : Interval) : Interval :=
  if key ≤ interval.midpoint then { interval with right := interval.midpoint }
  else { interval with left := interval.midpoint + 1 }

/-- The intervals through which the search for `key` goes from this one on. -/
def path (key : Nat) (interval : Interval) : List Interval :=
  intervalsBetween key interval.left interval.right

/-- The index of the interval that is nearest to the key. -/
def target (key : Nat) (interval : Interval) : Nat :=
  max interval.left (min key interval.right)

variable {key : Nat} {interval : Interval}

theorem path_of_lt (h : interval.left < interval.right) :
    interval.path key = interval :: (interval.half key).path key := by
  unfold path half midpoint
  rw [intervalsBetween, if_pos h]
  by_cases hkey : key ≤ (interval.left + interval.right) / 2
  · simp only [if_pos hkey]
  · simp only [if_neg hkey]

theorem path_of_not_lt (h : ¬ interval.left < interval.right) : interval.path key = [] := by
  unfold path
  rw [intervalsBetween, if_neg h]

/-- The two ends of the half in which a search goes on. -/
theorem half_cases (key : Nat) (interval : Interval) :
    key ≤ interval.midpoint ∧ (interval.half key).left = interval.left ∧
        (interval.half key).right = interval.midpoint ∨
      interval.midpoint < key ∧ (interval.half key).left = interval.midpoint + 1 ∧
        (interval.half key).right = interval.right := by
  unfold half
  split
  · exact .inl ⟨‹_›, rfl, rfl⟩
  · exact .inr ⟨Nat.lt_of_not_le ‹_›, rfl, rfl⟩

/-- What halving preserves backwards, and what holds of intervals with one index or none, holds of
every interval. -/
theorem halving_induction {holds : Interval → Prop} (key : Nat)
    (hdone : ∀ interval, ¬ interval.left < interval.right → holds interval)
    (hhalf : ∀ interval, interval.left < interval.right → holds (interval.half key) →
      holds interval) (interval : Interval) : holds interval := by
  by_cases hmore : interval.left < interval.right
  · exact hhalf interval hmore (halving_induction key hdone hhalf (interval.half key))
  · exact hdone interval hmore
termination_by interval.right - interval.left
decreasing_by
  have hends := half_cases key interval
  unfold midpoint at hends
  omega

/-- A search replaces its interval by a half of it, over and over. -/
theorem path_eq_iterate (key : Nat) (interval : Interval) :
    interval.path key = List.iterate (half key) interval (interval.path key).length := by
  induction interval using halving_induction key with
  | hdone interval hdone => rw [path_of_not_lt hdone]; rfl
  | hhalf interval hmore ih =>
    rw [path_of_lt hmore, List.length_cons, List.iterate, ← ih]

/-- The nearest index lies in the half in which the search goes on. -/
theorem target_half (h : interval.left < interval.right) :
    (interval.half key).target key = interval.target key := by
  have hends := half_cases key interval
  unfold midpoint at hends
  unfold target
  omega

/-- A search ends with the index that is nearest to the key. -/
theorem iterate_half_length_path (key : Nat) {interval : Interval}
    (hordered : interval.left ≤ interval.right) :
    (half key)^[(interval.path key).length] interval =
      ⟨interval.target key, interval.target key⟩ := by
  induction interval using halving_induction key with
  | hdone interval hdone =>
    obtain ⟨left, right⟩ := interval
    obtain rfl : left = right := by
      simp only at hordered hdone
      omega
    rw [path_of_not_lt hdone]
    simp [target]
  | hhalf interval hmore ih =>
    have hends := half_cases key interval
    unfold midpoint at hends
    rw [path_of_lt hmore, List.length_cons, Function.iterate_succ_apply, ih (by omega),
      target_half hmore]

/-- Neither half of an interval is shorter than half of it, rounded down. -/
theorem le_length_path {count : Nat} (hwide : 2 ^ count ≤ interval.right - interval.left + 1) :
    count ≤ (interval.path key).length := by
  induction count generalizing interval with
  | zero => exact Nat.zero_le _
  | succ count ih =>
    have hends := half_cases key interval
    have hpos := Nat.two_pow_pos count
    unfold midpoint at hends
    rw [Nat.pow_succ] at hwide
    rw [path_of_lt (by omega), List.length_cons]
    exact Nat.succ_le_succ (ih (by omega))

/-- A search for a key behind the interval always goes on in the upper half. -/
theorem path_congr {key' : Nat} (hkey : interval.right ≤ key) (hkey' : interval.right ≤ key') :
    interval.path key = interval.path key' := by
  induction interval using halving_induction key with
  | hdone interval hdone => rw [path_of_not_lt hdone, path_of_not_lt hdone]
  | hhalf interval hmore ih =>
    have hupper : ∀ key, interval.right ≤ key →
        interval.half key = { interval with left := interval.midpoint + 1 } := by
      intro key hkey
      have hbelow : ¬ key ≤ interval.midpoint := by
        unfold midpoint
        omega
      rw [half, if_neg hbelow]
    rw [path_of_lt hmore, path_of_lt hmore]
    rw [hupper key hkey] at ih
    rw [hupper key hkey, hupper key' hkey', ih hkey hkey']

end Interval

/-! ## Whole searches -/

variable {arraySize key : Nat}

theorem intervals_eq_path (arraySize key : Nat) :
    intervals arraySize key = (Interval.mk 0 (arraySize - 1)).path key := rfl

/-- The number of steps of a search, to within one. -/
theorem length_intervals_bounds (key : Nat) (hsome : 1 ≤ arraySize) :
    Nat.log 2 arraySize ≤ (intervals arraySize key).length ∧
      (intervals arraySize key).length ≤ Nat.clog 2 arraySize := by
  constructor
  · rw [intervals_eq_path]
    apply Interval.le_length_path
    have hpow := Nat.pow_log_le_self 2 (Nat.ne_of_gt hsome)
    simp only
    omega
  · apply length_intervalsBetween_le
    have hpow := Nat.le_pow_clog Nat.one_lt_two arraySize
    omega

/-- A search ends with the index of the array that is nearest to the key. -/
theorem iterate_half_intervals (arraySize key : Nat) :
    (Interval.half key)^[(intervals arraySize key).length] ⟨0, arraySize - 1⟩ =
      ⟨min key (arraySize - 1), min key (arraySize - 1)⟩ := by
  have htarget : (Interval.mk 0 (arraySize - 1)).target key = min key (arraySize - 1) :=
    Nat.zero_max _
  have hordered : (Interval.mk 0 (arraySize - 1)).left ≤ (Interval.mk 0 (arraySize - 1)).right :=
    Nat.zero_le _
  rw [intervals_eq_path, Interval.iterate_half_length_path key hordered, htarget]

/-- Each interval has more than one index, so the search looks before the last one. -/
theorem midpoint_of_mem_intervals {interval : Interval} (h : interval ∈ intervals arraySize key) :
    interval.left < interval.right ∧ interval.midpoint + 2 ≤ arraySize := by
  obtain ⟨_, hmore, hright⟩ := of_mem_intervalsBetween h
  unfold Interval.midpoint
  omega

/-- The page of the last element lies in the table, and those of a search up to it. -/
theorem page_of_mem_pages {settings : Settings} {page : Nat}
    (hfits : Memory.arrayFits? settings arraySize = some true)
    (h : some page ∈ pages settings arraySize key) :
    ∃ last, settings.pageOfIndex? (arraySize - 1) = some last ∧ settings.essentialPages ≤ page ∧
      page ≤ last ∧ last < settings.tableEntries := by
  obtain ⟨interval, hinterval, hpage⟩ := List.mem_map.1 h
  obtain ⟨_, hindex⟩ := Interval.page?_eq_some_iff.1 hpage
  obtain ⟨_, hmidpoint⟩ := midpoint_of_mem_intervals hinterval
  obtain ⟨last, hlast, hin⟩ := exists_pageOfIndex? hfits (by omega : arraySize - 1 < arraySize)
  refine ⟨last, hlast, le_of_mem_pages h, ?_, hin⟩
  obtain ⟨_, _, rfl⟩ := Settings.pageOfIndex?_eq_some_iff.1 hindex
  obtain ⟨_, _, rfl⟩ := Settings.pageOfIndex?_eq_some_iff.1 hlast
  exact Settings.pageOf_le_pageOf (by omega)

/-- Whichever key behind the array is searched for, the pages are the same. -/
theorem pages_congr_of_le {settings : Settings} {key' : Nat} (hkey : arraySize - 1 ≤ key)
    (hkey' : arraySize - 1 ≤ key') :
    pages settings arraySize key = pages settings arraySize key' := by
  unfold pages
  rw [intervals_eq_path, intervals_eq_path, Interval.path_congr hkey hkey']

end Search

/-! ## References that succeed -/

namespace Session

variable {ρ : Type} [VictimPolicy ρ] {session : Session ρ}

/-- References none of which fails are served to the end, if their page numbers are words. -/
theorem outcome_referenceAll_of_ok {pages : List (Option Nat)}
    (hwords : ∀ page? ∈ pages, ∃ page, page? = some page)
    (hserved : ∀ reference ∈ session.references pages, ∃ access, reference.outcome = .ok access) :
    (session.referenceAll pages).outcome = .ok () := by
  induction pages generalizing session with
  | nil => rfl
  | cons page? pages ih =>
    obtain ⟨page, rfl⟩ := hwords page? List.mem_cons_self
    unfold references at hserved
    obtain ⟨access, hfirst⟩ := hserved (session.referenceTo page) List.mem_cons_self
    replace hfirst : (session.reference page).outcome = .ok access := hfirst
    simp only [hfirst] at hserved
    rw [referenceAll_cons]
    unfold Reply.andThen
    simp only [hfirst]
    exact ih (fun page? hpage ↦ hwords page? (List.mem_cons_of_mem _ hpage))
      fun reference hreference ↦ hserved reference (List.mem_cons_of_mem _ hreference)

/-- A search whose references are served ages the table afterwards, and not before. -/
theorem search_of_served {arraySize key : Nat} {searched : Session ρ} {told : List Event}
    (hreply : session.referenceAll (Search.pages session.memory.settings arraySize key) =
      ⟨.ok (), searched, told⟩) :
    session.search arraySize key =
        ⟨.ok (), searched.withTable searched.space.table.tick,
          told ++ [.tableAged session.space.process]⟩ ∧
      .tableAged session.space.process ∉ told := by
  have hsearch := search_of_ok (congrArg Reply.outcome hreply)
  simp only [hreply] at hsearch
  obtain ⟨told', hevents, htells⟩ := tells_search_of_ok hsearch
  obtain ⟨rfl, haged⟩ := List.append_inj' hevents rfl
  rw [hsearch, haged]
  exact ⟨rfl, htells.not_mem rfl⟩

end Session

/-! ## A turn of searching -/

namespace Machine

open Search

variable {ρ : Type} [VictimPolicy ρ] {machine : Machine ρ} {process : UserProcess} {key : Nat}

/-- Take a process whose array fits into its table and has at most `2 ^ 63` elements, and a key, and
suppose that none of the references of the search fails.  The search halves its interval until the
index of the array that is nearest to the key is left, in at least `Nat.log 2` and at most
`Nat.clog 2` of the array's size many steps, and looks at none but the second last element and those
before it.  Each step makes one reference, to a page behind the pinned ones that lies no further
than the page of the last element, and so in the table.  A key behind the array makes the references
that any other one behind the array makes.  Afterwards the table has been aged once and the process
has moved on by one key, also if there was nothing to refer to. -/
theorem search_converges (hkey : process.nextKey? = some key)
    (hfits : Memory.arrayFits? machine.memory.settings process.arraySize = some true)
    (hsize : process.arraySize ≤ 2 ^ 63)
    (hserved : ∀ reference ∈ (machine.session process).references
        (pages machine.memory.settings process.arraySize key),
      ∃ access, reference.outcome = .ok access) (number : ProcessId) :
    let settings := machine.memory.settings
    let size := process.arraySize
    let steps := intervals size key
    let references := (machine.session process).references (pages settings size key)
    (1 ≤ size →
      (Interval.half key)^[steps.length] ⟨0, size - 1⟩ = ⟨min key (size - 1), min key (size - 1)⟩ ∧
        Nat.log 2 size ≤ references.length ∧ references.length ≤ Nat.clog 2 size) ∧
    steps = List.iterate (Interval.half key) ⟨0, size - 1⟩ references.length ∧
    references.map (some ·.page) = steps.map (·.page? settings) ∧
    (∀ interval ∈ steps, interval.left < interval.right ∧ interval.midpoint + 2 ≤ size) ∧
    (∀ reference ∈ references, ∃ last, settings.pageOfIndex? (size - 1) = some last ∧
      settings.essentialPages ≤ reference.page ∧ reference.page ≤ last ∧
        last < settings.tableEntries) ∧
    (size - 1 ≤ key → ∀ other, size - 1 ≤ other →
      pages settings size other = pages settings size key) ∧
    (size ≤ 1 → references = []) ∧
    ∃ searched told,
      (machine.session process).referenceAll (pages settings size key) = ⟨.ok (), searched, told⟩ ∧
        .tableAged process.space.process ∉ told ∧
        machine.searchNext number process =
          let advanced := { process with
            space := { searched.space with table := searched.space.table.tick }
            currentSearch := process.currentSearch + 1 }
          ⟨.ok advanced, machine.adopt searched.memory number advanced,
            .searchStarted number (process.currentSearch + 1) ::
              (told ++ [.tableAged process.space.process])⟩ := by
  have hwords : ∀ page? ∈ pages machine.memory.settings process.arraySize key,
      ∃ page, page? = some page := by
    intro page? hpage
    obtain ⟨page, hword, _⟩ := exists_of_mem_pages hfits (Nat.le_succ_of_le hsize) hpage
    exact ⟨page, hword⟩
  have hok := Session.outcome_referenceAll_of_ok hwords hserved
  have hpages := Session.map_page_references hok
  have hcount : ((machine.session process).references
      (pages machine.memory.settings process.arraySize key)).length =
        (intervals process.arraySize key).length := by
    rw [← List.length_map, hpages]
    exact List.length_map _
  refine ⟨fun hsome ↦ ⟨iterate_half_intervals _ _, ?_⟩, ?_, hpages,
    fun interval ↦ midpoint_of_mem_intervals, ?_, fun hlast other hother ↦
      pages_congr_of_le hother hlast, ?_, ?_⟩
  · rw [hcount]
    exact length_intervals_bounds key hsome
  · rw [hcount, intervals_eq_path]
    exact Interval.path_eq_iterate key _
  · intro reference hreference
    have hpage : some reference.page ∈ pages machine.memory.settings process.arraySize key := by
      rw [← hpages]
      exact List.mem_map_of_mem hreference
    exact page_of_mem_pages hfits hpage
  · intro hsmall
    rw [pages_eq_nil hsmall]
    rfl
  · obtain ⟨searched, told, hreply⟩ : ∃ searched told, (machine.session process).referenceAll
        (pages machine.memory.settings process.arraySize key) = ⟨.ok (), searched, told⟩ :=
      ⟨_, _, by rw [← hok]⟩
    obtain ⟨hsearch, htold⟩ := Session.search_of_served hreply
    exact ⟨searched, told, hreply, htold, searchNext_of_ok hkey hsearch⟩

/-- A machine with one process, which is about to search six elements for a key behind the last. -/
def overshooting : Machine Aging := untried.after [.spawn 6 #[9]]

/-- The search halves upwards twice, and ends with the last element. -/
theorem search_converges_strained :
    ∃ process ∈ overshooting.processes[0]?,
      Memory.arrayFits? strained process.arraySize = some true ∧ process.nextKey? = some 9 ∧
        (overshooting.session process).references (pages strained 6 9) =
          [⟨0, 3, .ok .coldMiss⟩, ⟨0, 5, .ok .coldMiss⟩] ∧
        (Interval.half 9)^[2] ⟨0, 5⟩ = ⟨5, 5⟩ ∧ Nat.log 2 6 ≤ 2 ∧ 2 ≤ Nat.clog 2 6 ∧
        pages strained 6 5 = pages strained 6 9 ∧
        ∃ advanced machine events,
          overshooting.searchNext 0 process = ⟨.ok advanced, machine, events⟩ ∧
            advanced.currentSearch = 1 := by
  obtain ⟨process, hfound, hsize, hkey, hcurrent, hmade⟩ :
      ∃ process ∈ overshooting.processes[0]?, process.arraySize = 6 ∧
        process.nextKey? = some 9 ∧ process.currentSearch = 0 ∧
        (overshooting.session process).references (pages strained 6 9) =
          [⟨0, 3, .ok .coldMiss⟩, ⟨0, 5, .ok .coldMiss⟩] := by decide +kernel
  have hsettings : overshooting.memory.settings = strained := by decide +kernel
  have hfits : Memory.arrayFits? strained 6 = some true := by decide
  have hserved : ∀ reference ∈ (overshooting.session process).references (pages strained 6 9),
      ∃ access, reference.outcome = .ok access := by
    rw [hmade]
    simp
  rw [← hsettings, ← hsize] at hfits hserved
  have hconverges := search_converges hkey hfits (by rw [hsize]; decide) hserved 0
  simp only [hsettings, hsize, hmade] at hconverges
  obtain ⟨hends, hsteps, _, _, _, hbehind, _, searched, told, _, _, hadvances⟩ := hconverges
  obtain ⟨hend, hlower, hupper⟩ := hends (by decide)
  have hlength : (intervals 6 9).length = 2 := by
    rw [hsteps]
    rfl
  rw [hlength] at hend
  refine ⟨process, hfound, ?_, hkey, hmade, hend, hlower, hupper, hbehind (by decide) 5 (by decide),
    _, _, _, hadvances, ?_⟩
  · rw [hsize]
    decide
  · exact congrArg Nat.succ hcurrent

end Machine

end PagedMemory
