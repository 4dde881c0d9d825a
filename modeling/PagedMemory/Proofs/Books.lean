import PagedMemory.Proofs.Ledger
import PagedMemory.Proofs.Occupancy

/-!
# The books of a machine

The counters of the machine are what all references behind it come to, and those of a process are
what its own references come to.  Every process that has not left has its pinned pages and one page
more for each fault that was neither a replacement nor a failure, and every process that has left
has none.  `Machine.Books` states this of a machine and the turns behind it.  A spawn adds nothing
to the books but an empty sheet, also when it fails, and a turn adds the references of the process
at the front of the queue.  A failed reference takes its process out of the queue, so it is the last
of that process and the only one that failed.

`Machine.report_after` reads off the report what became of the references, and
`Machine.occupancy_after` ties the pages of every process to its counters.
-/

namespace PagedMemory

namespace Machine

variable {ρ : Type}

/-! ## The sheet of a process -/

/-- What the books say about a process that has made these references. -/
structure Sheet (settings : Settings) (own : List Reference) (number : ProcessId)
    (process : UserProcess) : Prop where
  process_eq : process.space.process = number
  counters_eq : process.space.counters = .ofReferences own
  within : process.space.table.Within settings process.arraySize
  balance : process.terminated = false →
    process.space.table.resident.length + process.space.counters.replacements +
      own.countP (·.Failed) = settings.essentialPages + process.space.counters.faults
  vacated : process.terminated = true → process.space.table.resident = []

section

variable {settings : Settings} {machine : Machine ρ} {own : List Reference} {number : ProcessId}
  {process : UserProcess} {session : Session ρ}

/-- A process that has just been created has its pinned pages and has done nothing. -/
theorem sheet_newborn {arraySize : Nat} {keys : Array Nat}
    (hpinned : machine.memory.settings.essentialPages ≤ machine.memory.settings.tableEntries)
    (hplenty : machine.memory.settings.essentialPages ≤ machine.memory.free.size) :
    Sheet machine.memory.settings [] machine.processes.size (machine.newborn arraySize keys) where
  process_eq := rfl
  counters_eq := rfl
  within := fun page hresident ↦ .inl ((resident_newborn_iff hpinned hplenty).1 hresident)
  balance := by
    intro _
    have hperm : (machine.newborn arraySize keys).space.table.residentPages.Perm
        (List.range machine.memory.settings.essentialPages) := by
      rw [List.perm_ext_iff_of_nodup (PageTable.nodup_residentPages _) List.nodup_range]
      intro page
      rw [PageTable.mem_residentPages_iff, resident_newborn_iff hpinned hplenty, List.mem_range]
    have hlength := hperm.length_eq
    rw [PageTable.length_residentPages, List.length_range] at hlength
    rw [hlength]
    rfl
  vacated := nofun

theorem Sheet.occupancy (h : Sheet settings own number process)
    (hsettings : machine.memory.settings = settings) (hstays : process.terminated = false) :
    (machine.session process).Occupancy settings process.arraySize own :=
  ⟨hsettings, h.within, h.balance hstays⟩

/-- The sheet of a process that stays after it has made these references. -/
theorem sheet_of_occupancy (hoccupancy : session.Occupancy settings process.arraySize own)
    (hcounters : session.space.counters = .ofReferences own)
    (hprocess : session.space.process = number) (hstays : process.terminated = false) :
    Sheet settings own number { process with space := session.space } where
  process_eq := hprocess
  counters_eq := hcounters
  within := hoccupancy.within
  balance := fun _ ↦ hoccupancy.balance
  vacated := fun hgone ↦ absurd (hstays.symm.trans hgone) Bool.false_ne_true

/-- The sheet of a process that has left. -/
theorem sheet_released (process : UserProcess)
    (hcounters : session.space.counters = .ofReferences own)
    (hprocess : session.space.process = number) (hgone : process.terminated = true) :
    Sheet settings own number { process with space := session.released.space } where
  process_eq := hprocess
  counters_eq := hcounters
  within := fun page hresident ↦ absurd hresident (PageTable.not_resident_vacated _ page)
  balance := fun hstays ↦ absurd (Eq.trans (Eq.symm hstays) hgone) Bool.false_ne_true
  vacated := fun _ ↦ PageTable.resident_vacated session.space.table

end

/-! ## The references of one process -/

variable [VictimPolicy ρ]

/-- The references that a process made in several turns. -/
def madeBy (turns : List (Machine ρ)) (number : ProcessId) : List Reference :=
  (trace turns).filter (·.process = number)

section

variable {past : List (Machine ρ)} {machine : Machine ρ} {number : ProcessId}

theorem trace_concat : trace (past ++ [machine]) = trace past ++ machine.references := by
  rw [trace_append]
  simp [trace]

theorem madeBy_append (turns turns' : List (Machine ρ)) (number : ProcessId) :
    madeBy (turns ++ turns') number = madeBy turns number ++ madeBy turns' number := by
  unfold madeBy
  rw [trace_append, List.filter_append]

theorem madeBy_concat : madeBy (past ++ [machine]) number =
    madeBy past number ++ machine.references.filter (·.process = number) := by
  unfold madeBy
  rw [trace_concat, List.filter_append]

theorem madeBy_concat_self
    (hmade : ∀ reference ∈ machine.references, reference.process = number) :
    madeBy (past ++ [machine]) number = madeBy past number ++ machine.references := by
  have hkept : machine.references.filter (·.process = number) = machine.references :=
    List.filter_eq_self.2 fun reference hreference ↦ decide_eq_true (hmade reference hreference)
  rw [madeBy_concat, hkept]

theorem madeBy_concat_of_ne {other : ProcessId} (hne : number ≠ other)
    (hmade : ∀ reference ∈ machine.references, reference.process = number) :
    madeBy (past ++ [machine]) other = madeBy past other := by
  have hdropped : machine.references.filter (·.process = other) = [] := by
    rw [List.filter_eq_nil_iff]
    intro reference hreference hother
    exact hne ((hmade reference hreference).symm.trans (of_decide_eq_true hother))
  rw [madeBy_concat, hdropped, List.append_nil]

/-- A turn that finds nobody ready adds nothing to the references of anybody. -/
theorem madeBy_concat_of_idle (hready : machine.ready = []) (number : ProcessId) :
    madeBy (past ++ [machine]) number = madeBy past number := by
  rw [madeBy_concat, references_of_idle hready]
  exact List.append_nil _

theorem exists_fails_concat : (∃ turn ∈ past ++ [machine], turn.Fails number) ↔
    (∃ turn ∈ past, turn.Fails number) ∨ machine.Fails number := by
  simp [or_and_right, exists_or]

end

/-! ## The books -/

/-- The machine with these turns behind it has its books in order. -/
structure Books (settings : Settings) (past : List (Machine ρ)) (machine : Machine ρ) : Prop where
  settings_eq : machine.memory.settings = settings
  turns : ∀ before ∈ past, Turn before before.turn
  ledger : machine.memory.counters = .ofReferences (trace past)
  room : (trace past).length < Word.bound
  known : ∀ reference ∈ trace past, reference.process < machine.processes.size
  sheet : ∀ number process, machine.processes[number]? = some process →
    Sheet settings (madeBy past number) number process
  failures : ∀ number, (madeBy past number).countP (·.Failed) =
    if ∃ turn ∈ past, turn.Fails number then 1 else 0
  nodup : machine.ready.Nodup
  queued : ∀ number ∈ machine.ready, ∃ process, machine.processes[number]? = some process ∧
    process.terminated = false ∧ ¬ ∃ turn ∈ past, turn.Fails number

variable {settings : Settings} {past : List (Machine ρ)} {machine : Machine ρ}
  {number : ProcessId} {waiting : List ProcessId} {process : UserProcess}

theorem books_create {policy : ρ} (hcreate : create settings policy = .ok machine) :
    settings.Valid ∧ machine.Books settings [] := by
  obtain ⟨hvalid, rfl⟩ := create_eq_ok_iff.1 hcreate
  exact ⟨hvalid, rfl, nofun, rfl, Nat.zero_lt_succ _, nofun, nofun, fun _ ↦ rfl, List.nodup_nil,
    nofun⟩

theorem Books.pinned_le (h : machine.Books settings past) (hvalid : settings.Valid) :
    machine.memory.settings.essentialPages ≤ machine.memory.settings.tableEntries := by
  rw [h.settings_eq]
  exact hvalid.pinned_le

/-! ## Spawns -/

/-- Nobody has made a reference under the number of the next process. -/
theorem Books.madeBy_fresh (h : machine.Books settings past) :
    madeBy past machine.processes.size = [] ∧
      ¬ ∃ turn ∈ past, turn.Fails machine.processes.size := by
  have hnone : madeBy past machine.processes.size = [] := by
    unfold madeBy
    rw [List.filter_eq_nil_iff]
    intro reference hreference hsame
    exact Nat.ne_of_lt (h.known reference hreference) (of_decide_eq_true hsame)
  refine ⟨hnone, fun hfails ↦ ?_⟩
  have hcount := h.failures machine.processes.size
  rw [hnone, if_pos hfails] at hcount
  cases hcount

/-- The number of the next process is not in the queue. -/
theorem Books.fresh_not_mem (h : machine.Books settings past) :
    machine.processes.size ∉ machine.ready := by
  intro hmember
  obtain ⟨process, hfound, _⟩ := h.queued _ hmember
  exact Nat.lt_irrefl _ (Array.getElem?_eq_some_iff.1 hfound).1

theorem Books.spawn (h : machine.Books settings past) (hvalid : settings.Valid) {arraySize : Nat}
    {keys : Array Nat} {reply : Answer (Machine ρ) ProcessId}
    (hspawn : Spawn machine arraySize keys reply) : reply.state.Books settings past := by
  cases hspawn with
  | refused => exact h
  | drained =>
    exact ⟨h.settings_eq, h.turns, h.ledger, h.room, h.known, h.sheet, h.failures, h.nodup,
      h.queued⟩
  | created hfits hplenty =>
    obtain ⟨hnone, hunfailed⟩ := h.madeBy_fresh
    have hnewborn : Sheet machine.memory.settings [] machine.processes.size
        (machine.newborn arraySize keys) := sheet_newborn (h.pinned_le hvalid) hplenty
    refine ⟨h.settings_eq, h.turns, h.ledger, h.room, ?_, ?_, h.failures, ?_, ?_⟩
    · intro reference hreference
      rw [Array.size_push]
      exact Nat.lt_succ_of_lt (h.known reference hreference)
    · apply forall_found_push _ h.sheet
      rw [hnone, ← h.settings_eq]
      exact hnewborn
    · exact (List.perm_append_singleton _ _).nodup_iff.2
        (List.nodup_cons.2 ⟨h.fresh_not_mem, h.nodup⟩)
    · refine List.forall_mem_append.2 ⟨?_, List.forall_mem_singleton.2 ?_⟩
      · intro number hwaiting
        obtain ⟨process, hfound, hstays⟩ := h.queued number hwaiting
        exact ⟨process, getElem?_push_of_found hfound _, hstays⟩
      · exact ⟨_, Array.getElem?_push_size, rfl, hunfailed⟩

/-! ## Turns -/

theorem Books.turns_concat (h : machine.Books settings past) (hturn : Turn machine machine.turn) :
    ∀ before ∈ past ++ [machine], Turn before before.turn := by
  intro before hmem
  obtain hold | hnew := List.mem_append.1 hmem
  · exact h.turns before hold
  · rw [List.mem_singleton.1 hnew]
    exact hturn

/-- The process at the front has not left, and none of its turns failed. -/
theorem Books.front (h : machine.Books settings past) (hready : machine.ready = number :: waiting)
    (hfound : machine.processes[number]? = some process) :
    process.terminated = false ∧ ¬ ∃ turn ∈ past, turn.Fails number := by
  have hfront : number ∈ machine.ready := by
    rw [hready]
    exact List.mem_cons_self
  obtain ⟨queued, hqueued, hstays, hunfailed⟩ := h.queued number hfront
  obtain rfl : process = queued := Option.some.inj (hfound.symm.trans hqueued)
  exact ⟨hstays, hunfailed⟩

/-- A turn adds one failed reference to those of the process at the front if it fails, and none to
those of the others. -/
theorem Books.failures_concat (h : machine.Books settings past)
    (hready : machine.ready = number :: waiting)
    (hfound : machine.processes[number]? = some process)
    (hmade : ∀ reference ∈ machine.references, reference.process = number)
    (hturn : Turn machine machine.turn) (other : ProcessId) :
    (madeBy (past ++ [machine]) other).countP (·.Failed) =
      if ∃ turn ∈ past ++ [machine], turn.Fails other then 1 else 0 := by
  simp only [exists_fails_concat, fails_iff_of_ready hready]
  by_cases hsame : number = other
  · subst hsame
    have hunfailed := (h.front hready hfound).2
    have hcount := h.failures number
    rw [if_neg hunfailed] at hcount
    simp only [madeBy_concat_self hmade, List.countP_append, hcount, hturn.countP_failed_references,
      hunfailed, true_and, false_or, Nat.zero_add]
  · simp only [madeBy_concat_of_ne hsame hmade, hsame, false_and, or_false]
    exact h.failures other

/-- Everybody who is queued after a turn is there and has not failed. -/
theorem Books.queued_resume (h : machine.Books settings past)
    (hready : machine.ready = number :: waiting)
    (hfound : machine.processes[number]? = some process) (session : Session ρ)
    {process' : UserProcess} {back : List ProcessId}
    (hback : back = [] ∨ back = [number] ∧ process'.terminated = false ∧
      ¬ ∃ reason, machine.turn.outcome = .error reason) {other : ProcessId}
    (hother : other ∈ waiting ++ back) :
    ∃ later, (machine.resume session number process' (waiting ++ back)).processes[other]? =
        some later ∧ later.terminated = false ∧
      ¬ ∃ turn ∈ past ++ [machine], turn.Fails other := by
  have hfails := fails_iff_of_ready hready other
  obtain hwaits | hlast := List.mem_append.1 hother
  · have hnodup := h.nodup
    rw [hready, List.nodup_cons] at hnodup
    have hsame : number ≠ other := fun hsame ↦ hnodup.1 (hsame ▸ hwaits)
    obtain ⟨later, hin, hstays, hunfailed⟩ :=
      h.queued other (hready ▸ List.mem_cons_of_mem _ hwaits)
    refine ⟨later, ?_, hstays, ?_⟩
    · rw [getElem?_resume_of_ne hsame]
      exact hin
    · rw [exists_fails_concat, hfails]
      rintro (hbefore | ⟨hnow, _⟩)
      · exact hunfailed hbefore
      · exact hsame hnow
  · obtain rfl | ⟨rfl, hstays, hfine⟩ := hback
    · exact absurd hlast List.not_mem_nil
    · have hinside := (Array.getElem?_eq_some_iff.1 hfound).1
      obtain rfl := List.mem_singleton.1 hlast
      refine ⟨_, getElem?_resume_self hinside _ _ _, hstays, ?_⟩
      rw [exists_fails_concat, hfails]
      rintro (hbefore | ⟨_, hnow⟩)
      · exact (h.front hready hfound).2 hbefore
      · exact hfine hnow

/-- The process at the front makes its references, and goes on or does not. -/
theorem Books.resume (h : machine.Books settings past) (hready : machine.ready = number :: waiting)
    (hfound : machine.processes[number]? = some process) (hturn : Turn machine machine.turn)
    {session : Session ρ} {process' : UserProcess} {back : List ProcessId}
    (hsettings : session.memory.settings = settings)
    (hledger : session.Ledger (madeBy past number ++ machine.references)
      (trace past ++ machine.references))
    (hmade : ∀ reference ∈ machine.references, reference.process = number)
    (hsheet : Sheet settings (madeBy past number ++ machine.references) number
      { process' with space := session.space })
    (hback : back = [] ∨ back = [number] ∧ process'.terminated = false ∧
      ¬ ∃ reason, machine.turn.outcome = .error reason) :
    (machine.resume session number process' (waiting ++ back)).Books settings
      (past ++ [machine]) := by
  have hinside := (Array.getElem?_eq_some_iff.1 hfound).1
  refine ⟨hsettings, h.turns_concat hturn, ?_, ?_, ?_, ?_,
    h.failures_concat hready hfound hmade hturn, ?_, ?_⟩
  · rw [trace_concat]
    exact hledger.all_eq
  · rw [trace_concat]
    exact hledger.all_lt
  · intro reference hreference
    rw [trace_concat] at hreference
    simp only [Machine.resume, Array.size_setIfInBounds]
    obtain hold | hnew := List.mem_append.1 hreference
    · exact h.known reference hold
    · rw [hmade reference hnew]
      exact hinside
  · apply forall_found_resume
    · rw [madeBy_concat_self hmade]
      exact hsheet
    · intro other otherProcess hsame hother
      rw [madeBy_concat_of_ne hsame hmade]
      exact h.sheet other otherProcess hother
  · have hnodup := h.nodup
    rw [hready] at hnodup
    obtain rfl | ⟨rfl, _⟩ := hback
    · rw [List.append_nil]
      exact hnodup.of_cons
    · exact (List.perm_append_singleton _ _).nodup_iff.2 hnodup
  · exact fun other hother ↦ h.queued_resume hready hfound session hback hother

/-- What the search of the process at the front comes to. -/
theorem Books.search (h : machine.Books settings past) (hready : machine.ready = number :: waiting)
    (hfound : machine.processes[number]? = some process) {key : Nat}
    (hkey : process.nextKey? = some key) {outcome : Outcome PagingError Unit} {session : Session ρ}
    {events : List Event}
    (hsearch : (machine.session process).search process.arraySize key = ⟨outcome, session, events⟩)
    (hrunning : outcome ≠ .crash) :
    session.Occupancy settings process.arraySize (madeBy past number ++ machine.references) ∧
      session.Ledger (madeBy past number ++ machine.references) (trace past ++ machine.references) ∧
      session.space.process = number ∧ process.terminated = false ∧
      ∀ reference ∈ machine.references, reference.process = number := by
  have hserved : ((machine.session process).search process.arraySize key).outcome ≠ .crash := by
    rw [hsearch]
    exact hrunning
  have hstays := (h.front hready hfound).1
  have hsheet := h.sheet number process hfound
  have hbefore : (machine.session process).Ledger (madeBy past number) (trace past) :=
    ⟨hsheet.counters_eq, h.ledger, h.room⟩
  have hreferences := Session.referenceAll_ne_crash_of_search hserved
  have hmade := references_of_key hready hfound hkey
  have hoccupancy := (hsheet.occupancy h.settings_eq hstays).search hserved
  have hledger := hbefore.search hserved
  have hfixed := Session.search_fixed hserved
  rw [hsearch] at hoccupancy hledger hfixed
  rw [hmade]
  refine ⟨hoccupancy, hledger, hfixed.2.1.trans hsheet.process_eq, hstays, ?_⟩
  intro reference hreference
  exact (Session.process_of_mem_references hreference hreferences).trans hsheet.process_eq

/-- A turn that finds nobody ready leaves the books as they are. -/
theorem Books.idle (h : machine.Books settings past) (hturn : Turn machine machine.turn)
    (hready : machine.ready = []) : machine.Books settings (past ++ [machine]) := by
  have htrace : trace (past ++ [machine]) = trace past := by
    rw [trace_concat, references_of_idle hready, List.append_nil]
  have hmade : ∀ number, madeBy (past ++ [machine]) number = madeBy past number :=
    madeBy_concat_of_idle hready
  have hfails (number : ProcessId) : (∃ turn ∈ past ++ [machine], turn.Fails number) ↔
      ∃ turn ∈ past, turn.Fails number := by
    rw [exists_fails_concat]
    simp [Fails, hready]
  refine ⟨h.settings_eq, h.turns_concat hturn, ?_, ?_, ?_, ?_, ?_, h.nodup, ?_⟩
  · rw [htrace]
    exact h.ledger
  · rw [htrace]
    exact h.room
  · rw [htrace]
    exact h.known
  · simp only [hmade]
    exact h.sheet
  · simp only [hmade, hfails]
    exact h.failures
  · simp only [hfails]
    exact h.queued

/-- The process at the front makes its references and leaves. -/
theorem Books.leave (h : machine.Books settings past) (hready : machine.ready = number :: waiting)
    (hfound : machine.processes[number]? = some process) (hturn : Turn machine machine.turn)
    {session : Session ρ} {process' : UserProcess} (hsettings : session.memory.settings = settings)
    (hledger : session.Ledger (madeBy past number ++ machine.references)
      (trace past ++ machine.references))
    (hmade : ∀ reference ∈ machine.references, reference.process = number)
    (hprocess : session.space.process = number) (hgone : process'.terminated = true) :
    (machine.resume session.released number process' waiting).Books settings
      (past ++ [machine]) := by
  have hkept : session.released.memory.settings = settings := hsettings
  have hresumed := h.resume hready hfound hturn hkept hledger.released hmade
    (sheet_released process' hledger.own_eq hprocess hgone) (.inl rfl)
  rw [List.append_nil] at hresumed
  exact hresumed

/-- A process that has no search to do leaves without a reference. -/
theorem Books.keyless (h : machine.Books settings past)
    (hready : machine.ready = number :: waiting)
    (hfound : machine.processes[number]? = some process) (hturn : Turn machine machine.turn)
    (hkey : process.nextKey? = none) :
    (machine.resume (machine.session process).released number
      { process with terminated := true } waiting).Books settings (past ++ [machine]) := by
  have hsheet := h.sheet number process hfound
  have hnone := references_of_keyless hready hfound hkey
  have hledger : (machine.session process).Ledger (madeBy past number) (trace past) :=
    ⟨hsheet.counters_eq, h.ledger, h.room⟩
  apply h.leave hready hfound hturn h.settings_eq
  · rw [hnone, List.append_nil, List.append_nil]
    exact hledger
  · rw [hnone]
    exact nofun
  · exact hsheet.process_eq
  · rfl

theorem Books.turn (h : machine.Books settings past) (hturn : Turn machine machine.turn) :
    machine.turn.state.Books settings (past ++ [machine]) := by
  have hcases := hturn
  generalize hanswered : machine.turn = reply at hcases
  cases hcases with
  | idle hready => exact h.idle hturn hready
  | failed hready hfound hkey hsearch =>
    obtain ⟨hoccupancy, hledger, hprocess, hstays, hmade⟩ :=
      h.search hready hfound hkey hsearch nofun
    have hresumed := h.resume hready hfound hturn hoccupancy.settings_eq hledger hmade
      (sheet_of_occupancy hoccupancy hledger.own_eq hprocess hstays) (.inl rfl)
    rw [List.append_nil] at hresumed
    exact hresumed
  | requeued hready hfound hkey hsearch hmore =>
    obtain ⟨hoccupancy, hledger, hprocess, hstays, hmade⟩ :=
      h.search hready hfound hkey hsearch nofun
    exact h.resume hready hfound hturn hoccupancy.settings_eq hledger hmade
      (sheet_of_occupancy hoccupancy hledger.own_eq hprocess hstays)
      (.inr ⟨rfl, hstays, by simp [hanswered]⟩)
  | ended hready hfound hkey hsearch hlast =>
    obtain ⟨hoccupancy, hledger, hprocess, _, hmade⟩ :=
      h.search hready hfound hkey hsearch nofun
    exact h.leave hready hfound hturn hoccupancy.settings_eq hledger hmade hprocess rfl
  | keyless hready hfound hkey => exact h.keyless hready hfound hturn hkey

omit [VictimPolicy ρ] in
/-- If the process at work keeps its pages or leaves, no process that stays has fewer of them. -/
theorem length_resident_le_resume {front : ProcessId} {frontProcess process' later : UserProcess}
    {session : Session ρ} {ready : List ProcessId}
    (hfront : machine.processes[front]? = some frontProcess)
    (hkept : process'.terminated = false →
      frontProcess.space.table.resident.length ≤ session.space.table.resident.length)
    (hfound : machine.processes[number]? = some process)
    (hlater : (machine.resume session front process' ready).processes[number]? = some later)
    (hstays : later.terminated = false) :
    process.space.table.resident.length ≤ later.space.table.resident.length := by
  by_cases hsame : front = number
  · subst hsame
    obtain rfl : process = frontProcess := Option.some.inj (hfound.symm.trans hfront)
    rw [getElem?_resume_self (Array.getElem?_eq_some_iff.1 hfront).1] at hlater
    cases hlater
    exact hkept hstays
  · rw [getElem?_resume_of_ne hsame, hfound] at hlater
    cases hlater
    exact Nat.le_refl _

/-- No turn makes the number of resident pages of a process smaller, except the one in which the
process leaves. -/
theorem Turn.length_resident_le {reply : Answer (Machine ρ) Bool} (h : Turn machine reply)
    {later : UserProcess} (hfound : machine.processes[number]? = some process)
    (hlater : reply.state.processes[number]? = some later) (hstays : later.terminated = false) :
    process.space.table.resident.length ≤ later.space.table.resident.length := by
  have hsearched {front : UserProcess} {key : Nat} {outcome : Outcome PagingError Unit}
      {session : Session ρ} {events : List Event}
      (hsearch : (machine.session front).search front.arraySize key = ⟨outcome, session, events⟩)
      (hrunning : outcome ≠ .crash) :
      front.space.table.resident.length ≤ session.space.table.resident.length := by
    have hmore := Session.length_resident_le_search (by rw [hsearch]; exact hrunning)
    rw [hsearch] at hmore
    exact hmore
  cases h with
  | idle =>
    cases hfound.symm.trans hlater
    exact Nat.le_refl _
  | failed _ hfront _ hsearch =>
    exact length_resident_le_resume hfront
      (fun _ ↦ hsearched hsearch Outcome.error_ne_crash) hfound hlater hstays
  | requeued _ hfront _ hsearch =>
    exact length_resident_le_resume hfront
      (fun _ ↦ hsearched hsearch Outcome.ok_ne_crash) hfound hlater hstays
  | ended _ hfront | keyless _ hfront =>
    exact length_resident_le_resume hfront (fun hstays' ↦ by cases hstays') hfound hlater hstays

/-! ## After any calls -/

/-- The books stay in order. -/
theorem books_recorded (hvalid : settings.Valid) :
    Recorded fun past (later : Machine ρ) ↦ later.Books settings past where
  pinned_le := fun _ _ hlater ↦ hlater.pinned_le hvalid
  spawn := fun _ _ _ _ _ hlater hspawn ↦ hlater.spawn hvalid hspawn
  turn := fun _ _ hlater hturn ↦ hlater.turn hturn

/-- The books are in order after any calls. -/
theorem Books.after (h : machine.Books settings []) (hvalid : settings.Valid) {calls : List Call}
    (hendures : machine.Endures calls) :
    (machine.after calls).Books settings (machine.turnsTaken calls) :=
  (books_recorded hvalid).after h hendures

/-- The rows of the report are what the references of the processes come to. -/
theorem Books.report_processes (h : machine.Books settings past) :
    machine.report.processes =
      (List.range machine.processes.size).map fun number ↦ .ofReferences (madeBy past number) := by
  apply List.ext_getElem?
  intro number
  unfold report
  rw [List.getElem?_map, List.getElem?_map, Array.getElem?_toList]
  cases hfound : machine.processes[number]? with
  | none =>
    rw [List.getElem?_eq_none]
    · rfl
    · simpa using hfound
  | some process =>
    rw [List.getElem?_range (Array.getElem?_eq_some_iff.1 hfound).1, Option.map_some,
      Option.map_some, (h.sheet number process hfound).counters_eq]

/-- Whatever is asked of a machine, and whatever its policy answers, its report balances: the rows
add up to the total, every replacement was made by one of the rules and is a fault, every fault is
an access, and the faults of a process that were no replacements are its cold misses and the
reference that failed, if there was one. -/
theorem report_after {policy : ρ} {calls : List Call}
    (hcreate : create settings policy = .ok machine) (hendures : machine.Endures calls) :
    (machine.after calls).report.total = Counters.sum (machine.after calls).report.processes ∧
      (∀ row ∈ (machine.after calls).report.total :: (machine.after calls).report.processes,
        row.attemptsTotal? = some row.replacements ∧ row.replacements ≤ row.faults ∧
          row.faults ≤ row.accesses) ∧
      ∀ number row, (machine.after calls).report.processes[number]? = some row →
        row.faults - row.replacements =
            (madeBy (machine.turnsTaken calls) number).countP (·.Cold) +
              (madeBy (machine.turnsTaken calls) number).countP (·.Failed) ∧
          (madeBy (machine.turnsTaken calls) number).countP (·.Failed) ≤ 1 := by
  obtain ⟨hvalid, hcreated⟩ := books_create hcreate
  have hbooks := hcreated.after hvalid hendures
  have hrows := hbooks.report_processes
  have htotal : (machine.after calls).report.total =
      .ofReferences (trace (machine.turnsTaken calls)) := hbooks.ledger
  have hbalanced (references : List Reference) (hroom : references.length < Word.bound) :
      (Counters.ofReferences references).attemptsTotal? =
          some (Counters.ofReferences references).replacements ∧
        (Counters.ofReferences references).replacements ≤
          (Counters.ofReferences references).faults ∧
        (Counters.ofReferences references).faults ≤
          (Counters.ofReferences references).accesses :=
    have hconsistent := Counters.consistent_ofReferences references
    ⟨hconsistent.attemptsTotal?_eq hroom, hconsistent.replacements_le, hconsistent.faults_le⟩
  refine ⟨?_, ?_, ?_⟩
  · rw [htotal, hrows]
    exact (Counters.sum_ofReferences hbooks.known).symm
  · intro row hrow
    rw [htotal, hrows, List.mem_cons, List.mem_map] at hrow
    obtain rfl | ⟨number, _, rfl⟩ := hrow
    · exact hbalanced _ hbooks.room
    · exact hbalanced _ (Nat.lt_of_le_of_lt (List.length_filter_le _ _) hbooks.room)
  · intro number row hrow
    rw [hrows, List.getElem?_map, Option.map_eq_some_iff] at hrow
    obtain ⟨found, hfound, rfl⟩ := hrow
    obtain ⟨_, rfl⟩ := List.getElem?_eq_some_iff.1 hfound
    rw [List.getElem_range]
    constructor
    · simp only [Counters.ofReferences]
      omega
    · rw [hbooks.failures]
      split <;> omega

/-- Frames for two processes, of which only one can begin. -/
def strained : Settings where
  pageSize := 4
  userFrames := 4
  tableEntries := 9
  essentialPages := 1
  reserve := 1
  fallback := .mostRecent

/-- The machine with these settings, before any call. -/
def untried : Machine Aging where
  memory := { settings := strained, free := .full 4 .mostRecent, policy := .mk }

/-- The first process replaces pages, and the second fails. -/
def rush : List Call := [.spawn 8 #[0, 7], .spawn 8 #[3], .turn, .turn]

theorem report_after_strained :
    ∃ machine : Machine Aging, create strained .mk = .ok machine ∧ machine.Endures rush ∧
      (machine.after rush).report.total = Counters.sum (machine.after rush).report.processes ∧
      ∀ row, (machine.after rush).report.processes[1]? = some row →
        row.faults - row.replacements = (madeBy (machine.turnsTaken rush) 1).countP (·.Cold) +
          (madeBy (machine.turnsTaken rush) 1).countP (·.Failed) :=
  have hcreate : create strained Aging.mk = .ok _ := rfl
  have hendures : Endures _ rush := by decide +kernel
  have hreport := report_after hcreate hendures
  ⟨_, hcreate, hendures, hreport.1, fun row hrow ↦ (hreport.2.2 1 row hrow).1⟩

/-- Whatever is asked of a machine, and whatever its policy answers, the number of pages that a
process has in memory follows from its counters until it leaves: only pinned pages and pages of its
array are resident, a turn never makes their number smaller, and a process that has left has none.
-/
theorem occupancy_after {policy : ρ} {calls : List Call}
    (hcreate : create settings policy = .ok machine) (hendures : machine.Endures calls) :
    (∀ number process, (machine.after calls).processes[number]? = some process →
      (process.terminated = false →
        process.space.table.resident.length + process.space.counters.replacements +
            (if ∃ turn ∈ machine.turnsTaken calls, turn.Fails number then 1 else 0) =
          settings.essentialPages + process.space.counters.faults) ∧
      process.space.table.Within settings process.arraySize ∧
      process.space.table.resident.length ≤ settings.essentialPages +
        (process.arraySize + settings.intsPerPage - 1) / settings.intsPerPage ∧
      (process.terminated = true → process.space.table.resident = [])) ∧
    ∀ before ∈ machine.turnsTaken calls, ∀ (number : ProcessId) (process later : UserProcess),
      before.processes[number]? = some process →
      before.turn.state.processes[number]? = some later → later.terminated = false →
      process.space.table.resident.length ≤ later.space.table.resident.length := by
  obtain ⟨hvalid, hcreated⟩ := books_create hcreate
  have hbooks := hcreated.after hvalid hendures
  constructor
  · intro number process hfound
    have hsheet := hbooks.sheet number process hfound
    refine ⟨?_, hsheet.within, hsheet.within.length_le, hsheet.vacated⟩
    intro hstays
    rw [← hbooks.failures]
    exact hsheet.balance hstays
  · intro before hbefore number process later hfound hlater hstays
    exact (hbooks.turns before hbefore).length_resident_le hfound hlater hstays

theorem occupancy_after_strained :
    ∃ machine : Machine Aging, create strained .mk = .ok machine ∧ machine.Endures rush ∧
      ∀ process, (machine.after rush).processes[1]? = some process → process.terminated = false →
        process.space.table.resident.length + process.space.counters.replacements +
            (if ∃ turn ∈ machine.turnsTaken rush, turn.Fails 1 then 1 else 0) =
          strained.essentialPages + process.space.counters.faults :=
  have hcreate : create strained Aging.mk = .ok _ := rfl
  have hendures : Endures _ rush := by decide +kernel
  ⟨_, hcreate, hendures, fun process hfound ↦
    ((occupancy_after hcreate hendures).1 1 process hfound).1⟩

end Machine

end PagedMemory
