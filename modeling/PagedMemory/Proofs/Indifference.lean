import PagedMemory.Proofs.Alike
import PagedMemory.Proofs.Calls

/-!
# The choice of frames does not matter

Two machines whose settings differ in the fallback rule alone choose different frames, and from the
first such choice on their free lists look different.  Under aging nothing else comes of it.
`Machine.alike_after` says so for every sequence of calls that neither machine crashes in: the two
answer every call in the same way, and whatever can be seen without looking at a frame number is the
same afterwards.
-/

namespace PagedMemory

/-- The processes agree on everything but their frames. -/
structure UserProcess.Alike (left right : UserProcess) : Prop where
  process_eq : left.space.process = right.space.process
  outline_eq : left.space.table.outline = right.space.table.outline
  counters : left.space.counters.Alike right.space.counters
  arraySize_eq : left.arraySize = right.arraySize
  keys_eq : left.keys = right.keys
  currentSearch_eq : left.currentSearch = right.currentSearch
  terminated_eq : left.terminated = right.terminated

theorem UserProcess.Alike.nextKey?_eq {left right : UserProcess} (h : left.Alike right) :
    left.nextKey? = right.nextKey? := by
  unfold nextKey?
  rw [h.keys_eq, h.currentSearch_eq]

theorem UserProcess.Alike.advance {left right : UserProcess} (h : left.Alike right) :
    UserProcess.Alike { left with currentSearch := left.currentSearch + 1 }
      { right with currentSearch := right.currentSearch + 1 } :=
  { h with currentSearch_eq := congrArg (· + 1) h.currentSearch_eq }

theorem UserProcess.Alike.terminate {left right : UserProcess} (h : left.Alike right) :
    UserProcess.Alike { left with terminated := true } { right with terminated := true } :=
  { h with terminated_eq := rfl }

/-- The reports agree, except for the rules that served the replacements. -/
structure Report.Alike (left right : Report) : Prop where
  total : left.total.Alike right.total
  processes (number : ProcessId) :
    Option.Rel Counters.Alike left.processes[number]? right.processes[number]?

/-- The answers agree, except for what reports say about affinity rules. -/
inductive Response.Alike : Response → Response → Prop
  | created (process : ProcessId) : Alike (.created process) (.created process)
  | turned (more : Bool) : Alike (.turned more) (.turned more)
  | reported {left right : Report} (h : left.Alike right) : Alike (.reported left) (.reported right)

/-- Both calls answer, and alike, or both fail for the same reason. -/
inductive Outcome.Alike : Outcome PagingError Response → Outcome PagingError Response → Prop
  | ok {left right : Response} (h : left.Alike right) : Alike (.ok left) (.ok right)
  | error (reason : PagingError) : Alike (.error reason) (.error reason)

/-- Outcomes that differ in their answers alone are alike if the answers are. -/
theorem Outcome.Alike.map {α : Type} {outcome : Outcome PagingError α}
    {change change' : α → Response}
    (hrunning : outcome ≠ .crash) (hanswer : ∀ value, (change value).Alike (change' value)) :
    (outcome.map change).Alike (outcome.map change') := by
  cases outcome with
  | ok value => exact .ok (hanswer value)
  | error reason => exact .error reason
  | crash => exact absurd rfl hrunning

namespace Machine

/-- The machines agree on everything but the choice of frames. -/
structure Alike (left right : Machine Aging) : Prop where
  settings_eq : ∃ rule, right.memory.settings = { left.memory.settings with fallback := rule }
  size_free_eq : left.memory.free.size = right.memory.free.size
  counters : left.memory.counters.Alike right.memory.counters
  processes (number : ProcessId) :
    Option.Rel UserProcess.Alike left.processes[number]? right.processes[number]?
  ready_eq : left.ready = right.ready

variable {left right : Machine Aging}

theorem Alike.exists_process (h : left.Alike right) {number : ProcessId} {process : UserProcess}
    (hfound : left.processes[number]? = some process) :
    ∃ process', right.processes[number]? = some process' ∧ process.Alike process' := by
  have hrel := h.processes number
  rw [hfound] at hrel
  cases hfound' : right.processes[number]? with
  | none =>
    rw [hfound'] at hrel
    cases hrel
  | some process' =>
    rw [hfound'] at hrel
    cases hrel with
    | some hprocess => exact ⟨process', rfl, hprocess⟩

theorem Alike.size_processes_eq (h : left.Alike right) :
    left.processes.size = right.processes.size := by
  have hsame (number : ProcessId) :
      left.processes.size ≤ number ↔ right.processes.size ≤ number := by
    have hrel := h.processes number
    rw [← Array.getElem?_eq_none_iff, ← Array.getElem?_eq_none_iff]
    generalize left.processes[number]? = found at hrel ⊢
    generalize right.processes[number]? = found' at hrel ⊢
    cases hrel <;> simp
  exact Nat.le_antisymm ((hsame _).2 (Nat.le_refl _)) ((hsame _).1 (Nat.le_refl _))

theorem Alike.session (h : left.Alike right) {process process' : UserProcess}
    (hprocess : process.Alike process') :
    (left.session process).Alike (right.session process') :=
  ⟨h.settings_eq, h.size_free_eq, h.counters, hprocess.process_eq, hprocess.outline_eq,
    hprocess.counters⟩

/-- What becomes of sessions and processes that are alike leaves machines alike. -/
theorem Alike.resume (h : left.Alike right) {session session' : Session Aging}
    (hsession : session.Alike session') {number : ProcessId} {process process' : UserProcess}
    (hprocess : process.Alike process') (ready : List ProcessId) :
    (left.resume session number process ready).Alike
      (right.resume session' number process' ready) where
  settings_eq := hsession.settings_eq
  size_free_eq := hsession.size_free_eq
  counters := hsession.shared
  processes other := by
    simp only [Machine.resume, Array.getElem?_setIfInBounds, h.size_processes_eq]
    split
    · split
      · exact .some ⟨hsession.process_eq, hsession.outline_eq, hsession.own, hprocess.arraySize_eq,
          hprocess.keys_eq, hprocess.currentSearch_eq, hprocess.terminated_eq⟩
      · exact .none
    · exact h.processes other
  ready_eq := rfl

/-! ## Turns -/

/-- The search of the process at the front, in a machine that is alike and whose turn does not
crash. -/
theorem Alike.exists_search (h : left.Alike right) (hright : right.turn.outcome ≠ .crash)
    {number : ProcessId} {waiting : List ProcessId} {process : UserProcess} {key : Nat}
    {outcome : Outcome PagingError Unit} {session : Session Aging} {events : List Event}
    (hready : left.ready = number :: waiting) (hfound : left.processes[number]? = some process)
    (hkey : process.nextKey? = some key)
    (hsearch : (left.session process).search process.arraySize key = ⟨outcome, session, events⟩)
    (hrunning : outcome ≠ .crash) :
    ∃ process' session' events', right.ready = number :: waiting ∧
      right.processes[number]? = some process' ∧ process.Alike process' ∧
      process'.nextKey? = some key ∧
      (right.session process').search process'.arraySize key = ⟨outcome, session', events'⟩ ∧
      session.Alike session' := by
  have hready' := h.ready_eq.symm.trans hready
  obtain ⟨process', hfound', hprocess⟩ := h.exists_process hfound
  have hkey' := hprocess.nextKey?_eq.symm.trans hkey
  have hserved : ((left.session process).search process.arraySize key).outcome ≠ .crash := by
    rw [hsearch]
    exact hrunning
  have hserved' : ((right.session process').search process.arraySize key).outcome ≠ .crash := by
    rw [hprocess.arraySize_eq]
    exact fun hcrash ↦ hright (turn_of_crash hready' hfound' hkey' hcrash)
  obtain ⟨houtcome, hafter⟩ := Session.search_alike (h.session hprocess) hserved hserved'
  rcases hreply : (right.session process').search process.arraySize key with
    ⟨outcome', session', events'⟩
  rw [hsearch, hreply] at houtcome hafter
  have hsame : outcome = outcome' := houtcome
  refine ⟨process', session', events', hready', hfound', hprocess, hkey', ?_, hafter⟩
  rw [← hprocess.arraySize_eq, hreply, hsame]

/-- Turns of machines that are alike end the same way. -/
theorem turn_alike (h : left.Alike right) (hleft : left.turn.outcome ≠ .crash)
    (hright : right.turn.outcome ≠ .crash) :
    left.turn.outcome = right.turn.outcome ∧ left.turn.state.Alike right.turn.state := by
  have hturn := turn_cases hleft
  generalize left.turn = reply at hturn
  cases hturn with
  | idle hready =>
    rw [turn_of_idle (h.ready_eq.symm.trans hready)]
    exact ⟨rfl, h⟩
  | failed hready hfound hkey hsearch =>
    obtain ⟨process', session', events', hready', hfound', hprocess, hkey', hsearch', hsession⟩ :=
      h.exists_search hright hready hfound hkey hsearch nofun
    rw [turn_of_error hready' hfound' hkey' hsearch']
    exact ⟨rfl, h.resume hsession hprocess _⟩
  | requeued hready hfound hkey hsearch hmore =>
    obtain ⟨process', session', events', hready', hfound', hprocess, hkey', hsearch', hsession⟩ :=
      h.exists_search hright hready hfound hkey hsearch nofun
    rw [hprocess.keys_eq, hprocess.currentSearch_eq] at hmore
    rw [turn_of_more hready' hfound' hkey' hsearch' hmore]
    exact ⟨rfl, h.resume hsession hprocess.advance _⟩
  | ended hready hfound hkey hsearch hlast =>
    obtain ⟨process', session', events', hready', hfound', hprocess, hkey', hsearch', hsession⟩ :=
      h.exists_search hright hready hfound hkey hsearch nofun
    rw [hprocess.keys_eq, hprocess.currentSearch_eq] at hlast
    rw [turn_of_last hready' hfound' hkey' hsearch' hlast]
    exact ⟨rfl, h.resume hsession.released hprocess.advance.terminate _⟩
  | keyless hready hfound hkey =>
    have hready' := h.ready_eq.symm.trans hready
    obtain ⟨process', hfound', hprocess⟩ := h.exists_process hfound
    have hkey' := hprocess.nextKey?_eq.symm.trans hkey
    rw [turn_of_keyless hready' hfound' hkey']
    exact ⟨rfl, h.resume (h.session hprocess).released hprocess.terminate _⟩

/-- A turn that one of two machines takes in a sequence of turns, the other takes too. -/
theorem exists_turn_alike (h : left.Alike right) {journal journal' : Array Event}
    (hleft : (left.takeTurns journal).outcome ≠ .crash)
    (hright : (right.takeTurns journal').outcome ≠ .crash) {outcome : Outcome PagingError Bool}
    {next : Machine Aging} {events : List Event}
    (hanswered : left.turn = ⟨outcome, next, events⟩) :
    ∃ next' events', right.turn = ⟨outcome, next', events'⟩ ∧ next.Alike next' := by
  obtain ⟨houtcome, hnext⟩ :=
    turn_alike h (turn_ne_crash_of_takeTurns hleft) (turn_ne_crash_of_takeTurns hright)
  rcases hreply : right.turn with ⟨outcome', next', events'⟩
  rw [hanswered, hreply] at houtcome hnext
  have hsame : outcome = outcome' := houtcome
  rw [hsame]
  exact ⟨next', events', rfl, hnext⟩

/-- Sequences of turns of machines that are alike end the same way. -/
theorem takeTurns_alike (h : left.Alike right) {journal journal' : Array Event}
    (hleft : (left.takeTurns journal).outcome ≠ .crash)
    (hright : (right.takeTurns journal').outcome ≠ .crash) :
    (left.takeTurns journal).outcome = (right.takeTurns journal').outcome ∧
      (left.takeTurns journal).state.Alike (right.takeTurns journal').state := by
  induction left, journal using takeTurns.induct generalizing right journal' with
  | case1 left journal next events hanswered ih =>
    obtain ⟨next', events', hanswered', hnext⟩ := exists_turn_alike h hleft hright hanswered
    rw [takeTurns_of_more journal hanswered] at hleft ⊢
    rw [takeTurns_of_more journal' hanswered'] at hright ⊢
    exact ih hnext hleft hright
  | case2 left journal next events hanswered =>
    obtain ⟨next', events', hanswered', hnext⟩ := exists_turn_alike h hleft hright hanswered
    rw [takeTurns_of_done journal hanswered, takeTurns_of_done journal' hanswered']
    exact ⟨rfl, hnext⟩
  | case3 left journal reason next events hanswered =>
    obtain ⟨next', events', hanswered', hnext⟩ := exists_turn_alike h hleft hright hanswered
    rw [takeTurns_of_error journal hanswered, takeTurns_of_error journal' hanswered']
    exact ⟨rfl, hnext⟩
  | case4 left journal next events hanswered =>
    rw [takeTurns_of_crash journal hanswered] at hleft
    exact absurd rfl hleft

/-! ## Spawns -/

theorem newborn_alike (h : left.Alike right) (arraySize : Nat) (keys : Array Nat) :
    (left.newborn arraySize keys).Alike (right.newborn arraySize keys) where
  process_eq := h.size_processes_eq
  outline_eq := by
    obtain ⟨rule, hrule⟩ := h.settings_eq
    have hlength : left.memory.free.stack.length = right.memory.free.stack.length := by
      simp only [FreeList.stack, List.length_reverse, FreeList.length_numbers, h.size_free_eq]
    simp only [newborn, PageTable.outline_mapFrom, List.length_take, hlength, hrule]
  counters := .refl {}
  arraySize_eq := rfl
  keys_eq := rfl
  currentSearch_eq := rfl
  terminated_eq := rfl

/-- Spawns on machines that are alike end the same way. -/
theorem Spawn.alike (h : left.Alike right) {arraySize : Nat} {keys : Array Nat}
    {reply reply' : Answer (Machine Aging) ProcessId} (hleft : Spawn left arraySize keys reply)
    (hright : Spawn right arraySize keys reply') :
    reply.outcome = reply'.outcome ∧ reply.state.Alike reply'.state := by
  obtain ⟨rule, hrule⟩ := h.settings_eq
  have hfits : Memory.arrayFits? right.memory.settings arraySize =
      Memory.arrayFits? left.memory.settings arraySize := by
    rw [hrule]
    rfl
  have hpinned : right.memory.settings.essentialPages = left.memory.settings.essentialPages := by
    rw [hrule]
  have hentries : right.memory.settings.tableEntries = left.memory.settings.tableEntries := by
    rw [hrule]
  have hsize := h.size_free_eq
  have hrest : (left.memory.free.dropLast left.memory.settings.essentialPages).size =
      (right.memory.free.dropLast right.memory.settings.essentialPages).size := by
    rw [FreeList.size_dropLast, FreeList.size_dropLast, hsize, hpinned]
  cases hleft with
  | refused hlarge =>
    rw [hright.eq_of_large (hfits.trans hlarge), h.size_processes_eq, hentries]
    exact ⟨rfl, h⟩
  | drained hfit hscarce =>
    rw [hright.eq_of_scarce (hfits.trans hfit) (by omega), h.size_processes_eq]
    exact ⟨rfl, h.settings_eq, hrest, h.counters, h.processes, h.ready_eq⟩
  | created hfit hplenty =>
    rw [hright.eq_of_plenty (hfits.trans hfit) (by omega), h.size_processes_eq]
    refine ⟨rfl, h.settings_eq, hrest, h.counters, ?_, ?_⟩
    · intro number
      simp only [Array.getElem?_push, h.size_processes_eq]
      split
      · exact .some (newborn_alike h arraySize keys)
      · exact h.processes number
    · simp only [h.ready_eq]

/-! ## Any calls -/

theorem report_alike (h : left.Alike right) : left.report.Alike right.report where
  total := h.counters
  processes number := by
    have hrel := h.processes number
    simp only [report, List.getElem?_map, Array.getElem?_toList]
    generalize left.processes[number]? = found at hrel ⊢
    generalize right.processes[number]? = found' at hrel ⊢
    cases hrel with
    | none => exact .none
    | some hprocess => exact .some hprocess.counters

/-- Machines that are alike answer a call in the same way. -/
theorem serve_alike (h : left.Alike right)
    (hpinned : left.memory.settings.essentialPages ≤ left.memory.settings.tableEntries)
    {call : Call} (hleft : (left.serve call).outcome ≠ .crash)
    (hright : (right.serve call).outcome ≠ .crash) :
    (left.serve call).outcome.Alike (right.serve call).outcome ∧
      (left.serve call).state.Alike (right.serve call).state := by
  have hpinned' : right.memory.settings.essentialPages ≤ right.memory.settings.tableEntries := by
    obtain ⟨rule, hrule⟩ := h.settings_eq
    rw [hrule]
    exact hpinned
  cases call with
  | spawn arraySize keys =>
    rw [serve_spawn] at hleft hright ⊢
    rw [serve_spawn]
    have hspawns := Outcome.ne_crash_of_map hleft
    have hspawn := spawn_cases hpinned hspawns
    obtain ⟨houtcome, hstate⟩ :=
      hspawn.alike h (spawn_cases hpinned' (Outcome.ne_crash_of_map hright))
    refine ⟨?_, hstate⟩
    simp only [← houtcome]
    exact .map hspawns .created
  | turn =>
    rw [serve_turn] at hleft hright ⊢
    rw [serve_turn]
    have hturns := Outcome.ne_crash_of_map hleft
    obtain ⟨houtcome, hstate⟩ := turn_alike h hturns (Outcome.ne_crash_of_map hright)
    refine ⟨?_, hstate⟩
    simp only [← houtcome]
    exact .map hturns .turned
  | run =>
    rw [serve_run, run_eq] at hleft hright ⊢
    rw [serve_run, run_eq]
    have hruns := Outcome.ne_crash_of_map (Outcome.ne_crash_of_map hleft)
    have hruns' := Outcome.ne_crash_of_map (Outcome.ne_crash_of_map hright)
    obtain ⟨houtcome, hstate⟩ := takeTurns_alike h hruns hruns'
    refine ⟨?_, hstate⟩
    simp only [← houtcome, Outcome.map_map]
    exact .map hruns fun _ ↦ .reported (report_alike hstate)

/-- Machines that are alike answer a sequence of calls in the same way. -/
theorem visits_alike (h : left.Alike right)
    (hpinned : left.memory.settings.essentialPages ≤ left.memory.settings.tableEntries)
    {calls : List Call} (hleft : left.Endures calls) (hright : right.Endures calls) :
    List.Forall₂ (fun visit visit' ↦ visit.call = visit'.call ∧
        visit.reply.outcome.Alike visit'.reply.outcome) (left.visits calls) (right.visits calls) ∧
      (left.after calls).Alike (right.after calls) := by
  induction calls generalizing left right with
  | nil => exact ⟨.nil, h⟩
  | cons call calls ih =>
    obtain ⟨hfirst, hrest⟩ := endures_cons_iff.1 hleft
    obtain ⟨hfirst', hrest'⟩ := endures_cons_iff.1 hright
    obtain ⟨houtcome, hstate⟩ := serve_alike h hpinned hfirst hfirst'
    have hpinned' : (left.serve call).state.memory.settings.essentialPages ≤
        (left.serve call).state.memory.settings.tableEntries := by
      rw [serve_settings_eq hpinned hfirst]
      exact hpinned
    obtain ⟨hvisits, hafter⟩ := ih hstate hpinned' hrest hrest'
    exact ⟨.cons ⟨rfl, houtcome⟩ hvisits, hafter⟩

theorem create_alike {settings : Settings} {rule : FallbackRule}
    (hleft : create settings Aging.mk = .ok left)
    (hright : create { settings with fallback := rule } Aging.mk = .ok right) :
    left.Alike right := by
  obtain ⟨_, rfl⟩ := create_eq_ok_iff.1 hleft
  obtain ⟨_, rfl⟩ := create_eq_ok_iff.1 hright
  refine ⟨⟨rule, rfl⟩, ?_, .refl {}, fun number ↦ ?_, rfl⟩
  · simp only [FreeList.size_full]
  · exact .none

/-- The fallback rule is invisible.  Machines whose settings differ in it alone answer any sequence
of calls in the same way, and are alike afterwards: they have the same queue and equally many free
frames, and their processes have got equally far, with the same pages resident, the same referenced
bits and histories, and the same counters. -/
theorem alike_after {settings : Settings} {rule : FallbackRule} {calls : List Call}
    (hleft : create settings Aging.mk = .ok left)
    (hright : create { settings with fallback := rule } Aging.mk = .ok right)
    (hendures : left.Endures calls) (hendures' : right.Endures calls) :
    List.Forall₂ (fun visit visit' ↦ visit.call = visit'.call ∧
        visit.reply.outcome.Alike visit'.reply.outcome) (left.visits calls) (right.visits calls) ∧
      (left.after calls).Alike (right.after calls) := by
  obtain ⟨hvalid, hmachine⟩ := create_eq_ok_iff.1 hleft
  have hroom : left.memory.settings.essentialPages ≤ left.memory.settings.tableEntries := by
    rw [hmachine]
    exact hvalid.pinned_le
  exact visits_alike (create_alike hleft hright) hroom hendures hendures'

/-- Frames so few that a process whose predecessor has used them all has to take one from it. -/
def handedDown : Settings where
  pageSize := 4
  userFrames := 4
  tableEntries := 9
  essentialPages := 1
  reserve := 2
  fallback := .mostRecent

theorem alike_after_handedDown :
    ∃ left right : Machine Aging, create handedDown .mk = .ok left ∧
      create { handedDown with fallback := .random 7 } .mk = .ok right ∧
      left.Endures [.spawn 8 #[0, 7], .run, .spawn 8 #[0], .run] ∧
      right.Endures [.spawn 8 #[0, 7], .run, .spawn 8 #[0], .run] ∧
      (left.after [.spawn 8 #[0, 7], .run, .spawn 8 #[0], .run]).Alike
        (right.after [.spawn 8 #[0, 7], .run, .spawn 8 #[0], .run]) :=
  have hleft : create handedDown Aging.mk = .ok _ := rfl
  have hright : create { handedDown with fallback := .random 7 } Aging.mk = .ok _ := rfl
  ⟨_, _, hleft, hright, by decide +kernel, by decide +kernel,
    (alike_after hleft hright (by decide +kernel) (by decide +kernel)).2⟩

end Machine

end PagedMemory
