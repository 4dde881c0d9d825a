import PagedMemory.Proofs.Orderly

/-!
# Who starves

Under aging a turn fails only in one situation: the process at the front of the queue is about to
make its very first reference, and no more frames are free than are kept in reserve.
`Machine.turn_error_iff_starved` proves this for every machine that spawns, turns and runs can lead
to, and says what such a turn leaves behind: the process is out of the queue and its reference has
been counted.  No process that has made a reference is ever in danger.
-/

namespace PagedMemory.Machine

variable {settings : Settings} {machine : Machine Aging} {number : ProcessId}
  {waiting : List ProcessId} {process : UserProcess}

/-- The process whose turn it is has yet to make its first reference, and memory is short. -/
structure Starved (machine : Machine Aging) (number : ProcessId) (waiting : List ProcessId)
    (process : UserProcess) : Prop where
  ready : machine.ready = number :: waiting
  found : machine.processes[number]? = some process
  unfinished : process.currentSearch < process.keys.size
  several : 2 ≤ process.arraySize
  untouched : process.space.counters.accesses = 0
  short : machine.memory.free.size ≤ machine.memory.settings.reserve

/-- The machine after a starved turn: one more access and one more fault, for the process and for
the machine, and the process is out of the queue. -/
def starve (machine : Machine Aging) (number : ProcessId) (waiting : List ProcessId)
    (process : UserProcess) : Machine Aging where
  memory := { machine.memory with
    counters := { machine.memory.counters with
      accesses := machine.memory.counters.accesses + 1
      faults := machine.memory.counters.faults + 1 } }
  processes := machine.processes.setIfInBounds number { process with
    space := { process.space with
      counters := { process.space.counters with
        accesses := process.space.counters.accesses + 1
        faults := process.space.counters.faults + 1 } } }
  ready := waiting

/-- A process that has made no reference has no page to give up. -/
theorem Starved.not_settled (h : machine.Starved number waiting process)
    (hfit : machine.Fit number process) : ¬ (machine.session process).Settled := by
  intro hsettled
  have hpositive := hfit.standing.1 hsettled
  have hzero : (machine.session process).space.counters.accesses = 0 := h.untouched
  omega

/-- A starved turn that gets as far as its first reference fails there. -/
theorem Starved.turn_eq (h : machine.Starved number waiting process)
    (hfit : machine.Fit number process) {key page : Nat} {pages : List (Option Nat)}
    (hkey : process.nextKey? = some key)
    (hpages : Search.pages machine.memory.settings process.arraySize key = some page :: pages)
    (hfirst : ((machine.session process).reference page).outcome ≠ .crash) :
    machine.turn =
      ⟨.error (.noVictim number page), machine.starve number waiting process,
        [.searchStarted number (process.currentSearch + 1)]⟩ := by
  have hsearch := Session.search_of_starved hpages (h.not_settled hfit) h.short hfirst
  have hnumber : (machine.session process).space.process = number := hfit.process_eq
  rw [hnumber] at hsearch
  exact turn_of_error h.ready h.found hkey hsearch

/-- The first page of a starved search lies in the table. -/
theorem Starved.exists_page (h : machine.Starved number waiting process)
    (hfit : machine.Fit number process) (hword : process.arraySize ≤ Word.bound) (key : Nat) :
    ∃ page pages, page < machine.memory.settings.tableEntries ∧
      machine.memory.settings.pageOfIndex? ((process.arraySize - 1) / 2) = some page ∧
      Search.pages machine.memory.settings process.arraySize key = some page :: pages := by
  have hseveral := h.several
  obtain ⟨page, hpage, hin⟩ := Search.exists_pageOfIndex? hfit.fits
    (show (process.arraySize - 1) / 2 < process.arraySize by omega)
  obtain ⟨pages, hpages⟩ := Search.exists_pages_cons machine.memory.settings key hseveral
  have hmiddle : (Search.Interval.mk 0 (process.arraySize - 1)).page? machine.memory.settings =
      some page := by
    rw [Search.Interval.page?_eq_some_iff, Search.Interval.midpoint]
    simp only [Nat.zero_add]
    exact ⟨by omega, hpage⟩
  rw [hmiddle] at hpages
  exact ⟨page, pages, hin, hpage, hpages⟩

/-- A starved turn fails at the first page of its search.  If it crashes before that, then a counter
is full, or the size of the array is not a word. -/
theorem Starved.turn_fails (h : machine.Starved number waiting process)
    (hfit : machine.Fit number process) (hshared : machine.memory.counters.Consistent) :
    (∃ page events,
        machine.memory.settings.pageOfIndex? ((process.arraySize - 1) / 2) = some page ∧
          machine.turn = ⟨.error (.noVictim number page), machine.starve number waiting process,
            events⟩) ∨
      machine.turn.outcome = .crash ∧
        (Word.bound ≤ machine.memory.counters.accesses + 1 ∨ Word.bound < process.arraySize) := by
  obtain ⟨key, hkey⟩ : ∃ key, process.nextKey? = some key :=
    ⟨_, Array.getElem?_eq_getElem h.unfinished⟩
  by_cases hroom : machine.memory.counters.accesses + 1 < Word.bound ∧
      process.arraySize ≤ Word.bound
  · obtain ⟨hcounter, hword⟩ := hroom
    obtain ⟨page, pages, hin, hpage, hpages⟩ := h.exists_page hfit hword key
    have hzero : (machine.session process).space.counters.accesses = 0 := h.untouched
    have hroomy : (machine.session process).Roomy :=
      ⟨hfit.consistent, hshared, by rw [hzero]; decide, hcounter⟩
    have hfirst : ((machine.session process).reference page).outcome ≠ .crash := by
      apply hroomy.reference_ne_crash
      · rw [show (machine.session process).space.table.size = _ from hfit.size_table]
        exact hin
      · intro _ _ victim policy hpick
        rw [Session.pickVictim_eq,
          Session.oldest?_eq_none_iff_not_settled.2 (h.not_settled hfit)] at hpick
        cases hpick
    exact .inl ⟨page, _, hpage, h.turn_eq hfit hkey hpages hfirst⟩
  · by_cases hcrash : machine.turn.outcome = .crash
    · exact .inr ⟨hcrash, by omega⟩
    · have hsearch : ((machine.session process).search process.arraySize key).outcome ≠ .crash :=
        fun hsearch ↦ hcrash (turn_of_crash h.ready h.found hkey hsearch)
      obtain ⟨pages, hpages⟩ :=
        Search.exists_pages_cons machine.memory.settings key h.several
      obtain ⟨page, hmiddle, hfirst⟩ := Session.reference_ne_crash_of_search hpages hsearch
      have hpage := (Search.Interval.page?_eq_some_iff.1 hmiddle).2
      simp only [Search.Interval.midpoint, Nat.zero_add] at hpage
      rw [hmiddle] at hpages
      exact .inl ⟨page, _, hpage, h.turn_eq hfit hkey hpages hfirst⟩

/-- Only a starved turn fails. -/
theorem exists_starved_of_error (h : machine.Orderly settings) {reason : PagingError}
    (hfailed : machine.turn.outcome = .error reason) :
    ∃ number waiting process, machine.Starved number waiting process := by
  have hturn : Turn machine machine.turn := turn_cases (by rw [hfailed]; exact nofun)
  generalize machine.turn = reply at hturn hfailed
  cases hturn with
  | idle => cases hfailed
  | requeued => cases hfailed
  | ended => cases hfailed
  | keyless => cases hfailed
  | @failed number waiting process key _ _ _ hready hfound hkey hsearch =>
    have hfit := h.fit_front hready hfound
    have hrunning : ((machine.session process).search process.arraySize key).outcome ≠ .crash := by
      rw [hsearch]
      exact nofun
    have hunsafe : ¬ (Search.pages (machine.session process).memory.settings process.arraySize key
        = [] ∨ (machine.session process).Settled ∨
          (machine.session process).memory.settings.reserve <
            (machine.session process).memory.free.size) := by
      intro hsafe
      have hok := (Session.search_of_safe hfit.standing hsafe hrunning).1
      rw [hsearch] at hok
      cases hok
    simp only [not_or, Nat.not_lt] at hunsafe
    obtain ⟨hsome, hbare, hshort⟩ := hunsafe
    refine ⟨number, waiting, process, hready, hfound, ?_, ?_, ?_, hshort⟩
    · exact (Array.getElem?_eq_some_iff.1 hkey).1
    · by_contra hfew
      exact hsome (Search.pages_eq_nil (by omega))
    · have hnone := mt hfit.standing.2 hbare
      exact Nat.eq_zero_of_not_pos hnone

/-- Whatever has been asked of a machine under aging, its next turn fails exactly if it is starved.
A starved turn fails at the page in the middle of the array, and leaves everything as it is but for
the queue and the counters; it can only crash instead if a counter is full or the size of the array
is not a word.  A process that has made a reference never fails. -/
theorem turn_error_iff_starved {initial : Machine Aging} {calls : List Call}
    (hcreate : create settings Aging.mk = .ok initial) (hendures : initial.Endures calls) :
    ((initial.after calls).turn.outcome ≠ .crash →
        ((∃ reason, (initial.after calls).turn.outcome = .error reason) ↔
          ∃ number waiting process, (initial.after calls).Starved number waiting process)) ∧
      (∀ number waiting process, (initial.after calls).Starved number waiting process →
        (∃ page events,
            settings.pageOfIndex? ((process.arraySize - 1) / 2) = some page ∧
              (initial.after calls).turn =
                ⟨.error (.noVictim number page),
                  (initial.after calls).starve number waiting process, events⟩) ∨
          (initial.after calls).turn.outcome = .crash ∧
            (Word.bound ≤ (initial.after calls).memory.counters.accesses + 1 ∨
              Word.bound < process.arraySize)) ∧
      (∀ number waiting process, (initial.after calls).ready = number :: waiting →
        (initial.after calls).processes[number]? = some process →
        0 < process.space.counters.accesses →
        ∀ reason, (initial.after calls).turn.outcome ≠ .error reason) := by
  obtain ⟨hvalid, hcreated⟩ := orderly_create hcreate
  have horderly := hcreated.after hvalid hendures
  generalize initial.after calls = machine at horderly
  have hfront {number : ProcessId} {waiting : List ProcessId} {process : UserProcess}
      (h : machine.Starved number waiting process) : machine.Fit number process :=
    horderly.fit_front h.ready h.found
  refine ⟨?_, ?_, ?_⟩
  · intro hrunning
    constructor
    · rintro ⟨reason, hfailed⟩
      exact exists_starved_of_error horderly hfailed
    · rintro ⟨number, waiting, process, hstarved⟩
      obtain ⟨page, events, _, hturn⟩ | ⟨hcrash, _⟩ :=
        hstarved.turn_fails (hfront hstarved) horderly.consistent
      · exact ⟨.noVictim number page, by rw [hturn]⟩
      · exact absurd hcrash hrunning
  · intro number waiting process hstarved
    have hfails := hstarved.turn_fails (hfront hstarved) horderly.consistent
    rw [horderly.settings_eq] at hfails
    exact hfails
  · intro number waiting process hready hfound htouched reason hfailed
    obtain ⟨front, rest, starved, hstarved⟩ := exists_starved_of_error horderly hfailed
    have hsame := hready.symm.trans hstarved.ready
    cases hsame
    obtain rfl : process = starved := Option.some.inj (hfound.symm.trans hstarved.found)
    rw [hstarved.untouched] at htouched
    exact Nat.lt_irrefl 0 htouched

/-- Frames for the pinned pages of one process, and one that is kept in reserve. -/
def tight : Settings where
  pageSize := 4
  userFrames := 3
  tableEntries := 4
  essentialPages := 2
  reserve := 1
  fallback := .mostRecent

theorem turn_error_iff_starved_tight :
    ∃ initial : Machine Aging, create tight .mk = .ok initial ∧
      initial.Endures [.spawn 2 #[0]] ∧
      ((initial.after [.spawn 2 #[0]]).turn.outcome ≠ .crash →
        ((∃ reason, (initial.after [.spawn 2 #[0]]).turn.outcome = .error reason) ↔
          ∃ number waiting process,
            (initial.after [.spawn 2 #[0]]).Starved number waiting process)) :=
  have hcreate : create tight Aging.mk = .ok _ := rfl
  ⟨_, hcreate, by decide, (turn_error_iff_starved hcreate (by decide)).1⟩

end PagedMemory.Machine
