import PagedMemory.Proofs.Books
import PagedMemory.Proofs.Plenty

/-!
# The memory does not show

Which elements a search looks at depends on the key and on the size of the array alone.  So as long
as no turn of a process fails, its references are the pages of the searches that it has done, one
after the other and nothing else, whatever is in memory, whoever else is there, and whichever pages
the policy gives up.

`Machine.Faithful` says this for every process of a machine, and calls keep it so.
`Machine.transparent_after` compares the same process in two machines that have nothing else in
common.
-/

namespace PagedMemory

/-! ## Searches -/

/-- The pages of a search depend on two of the settings only. -/
theorem Search.pages_congr {settings settings' : Settings}
    (hpage : settings.pageSize = settings'.pageSize)
    (hpinned : settings.essentialPages = settings'.essentialPages) :
    pages settings = pages settings' := by
  have hindex : settings.pageOfIndex? = settings'.pageOfIndex? := by
    funext index
    unfold Settings.pageOfIndex? Settings.intsPerPage
    rw [hpage, hpinned]
  funext arraySize key
  unfold pages Interval.page?
  rw [hindex]

/-- A process has touched one page for every interval that its searches have halved. -/
theorem UserProcess.length_touched (settings : Settings) (process : UserProcess) :
    (process.touched settings).length =
      ((process.keys.toList.take process.currentSearch).map fun key ↦
        (Search.intervals process.arraySize key).length).sum := by
  unfold touched Search.pages
  simp only [List.length_flatMap, List.length_map]

namespace Session

variable {ρ : Type} [VictimPolicy ρ] {session : Session ρ}

/-- References that succeed are references to the given pages. -/
theorem map_page_references {pages : List (Option Nat)}
    (hok : (session.referenceAll pages).outcome = .ok ()) :
    (session.references pages).map (some ·.page) = pages := by
  induction pages generalizing session with
  | nil => rfl
  | cons page pages ih =>
    cases page with
    | none => cases hok
    | some page =>
      rw [referenceAll_cons] at hok
      obtain ⟨access, hserved, hrest, _⟩ := Reply.of_andThen_ok hok
      unfold references
      rw [hserved, List.map_cons]
      exact congrArg (some page :: ·) (ih hrest)

theorem map_page_search {arraySize key : Nat}
    (hok : (session.search arraySize key).outcome = .ok ()) :
    (session.references (Search.pages session.memory.settings arraySize key)).map (some ·.page) =
      Search.pages session.memory.settings arraySize key := by
  obtain ⟨_, hserved, _⟩ := Reply.of_andThen_ok hok
  exact map_page_references hserved

end Session

/-! ## Turns -/

namespace Machine

variable {ρ : Type} [VictimPolicy ρ] {settings : Settings} {past : List (Machine ρ)}
  {machine : Machine ρ} {number : ProcessId} {process : UserProcess}

/-- The references of a process none of whose turns has failed are the pages of its searches. -/
def Faithful (settings : Settings) (past : List (Machine ρ)) (machine : Machine ρ) : Prop :=
  ∀ number process, machine.processes[number]? = some process →
    (¬ ∃ turn ∈ past, turn.Fails number) →
    (madeBy past number).map (some ·.page) = process.touched settings

theorem faithful_create {policy : ρ} (hcreate : create settings policy = .ok machine) :
    machine.Faithful settings [] := by
  obtain ⟨_, rfl⟩ := create_eq_ok_iff.1 hcreate
  exact nofun

/-- A process that has just been created has made no reference and done no search. -/
theorem Faithful.spawn (h : machine.Faithful settings past) (hbooks : machine.Books settings past)
    {arraySize : Nat} {keys : Array Nat} {reply : Answer (Machine ρ) ProcessId}
    (hspawn : Spawn machine arraySize keys reply) : reply.state.Faithful settings past := by
  cases hspawn with
  | refused | drained => exact h
  | created =>
    refine forall_found_push ?_ h
    intro _
    rw [hbooks.madeBy_fresh.1]
    rfl

/-- In a turn only the process at the front makes references. -/
theorem Faithful.resume (h : machine.Faithful settings past)
    (hfound : machine.processes[number]? = some process)
    (hmade : ∀ reference ∈ machine.references, reference.process = number)
    (session : Session ρ) (process' : UserProcess) (ready : List ProcessId)
    (htouched : ¬ machine.Fails number → process'.touched settings =
      process.touched settings ++ machine.references.map (some ·.page)) :
    (machine.resume session number process' ready).Faithful settings (past ++ [machine]) := by
  refine forall_found_resume ?_ ?_
  · intro hunfailed
    rw [exists_fails_concat, not_or] at hunfailed
    rw [madeBy_concat_self hmade, List.map_append, h number process hfound hunfailed.1]
    exact (htouched hunfailed.2).symm
  · intro other later hsame hlater hunfailed
    rw [exists_fails_concat, not_or] at hunfailed
    rw [madeBy_concat_of_ne hsame hmade]
    exact h other later hlater hunfailed.1

theorem Faithful.turn (h : machine.Faithful settings past) (hbooks : machine.Books settings past)
    (hturn : Turn machine machine.turn) :
    machine.turn.state.Faithful settings (past ++ [machine]) := by
  -- A search that is done has made its references, and moves the process on by one key.
  have hsearched {number : ProcessId} {waiting : List ProcessId} {process : UserProcess} {key : Nat}
      {session : Session ρ} {events : List Event} (hready : machine.ready = number :: waiting)
      (hfound : machine.processes[number]? = some process) (hkey : process.nextKey? = some key)
      (hsearch : (machine.session process).search process.arraySize key =
        ⟨.ok (), session, events⟩) :
      { process with currentSearch := process.currentSearch + 1 }.touched settings =
        process.touched settings ++ machine.references.map (some ·.page) := by
    have hpages := Session.map_page_search (congrArg Reply.outcome hsearch)
    rw [references_of_key hready hfound hkey]
    rw [UserProcess.touched_advance hkey, ← hbooks.settings_eq]
    exact congrArg _ hpages.symm
  generalize hanswered : machine.turn = reply at hturn
  cases hturn with
  | idle hready =>
    intro number process hfound hunfailed
    rw [exists_fails_concat, not_or] at hunfailed
    rw [madeBy_concat_of_idle hready]
    exact h number process hfound hunfailed.1
  | failed hready hfound hkey hsearch =>
    obtain ⟨_, _, _, _, hmade⟩ := hbooks.search hready hfound hkey hsearch nofun
    have hfails := (fails_iff_of_ready hready _).2 ⟨rfl, _, congrArg Reply.outcome hanswered⟩
    exact h.resume hfound hmade _ _ _ fun hfine ↦ absurd hfails hfine
  | requeued hready hfound hkey hsearch =>
    obtain ⟨_, _, _, _, hmade⟩ := hbooks.search hready hfound hkey hsearch nofun
    exact h.resume hfound hmade _ _ _ fun _ ↦ hsearched hready hfound hkey hsearch
  | ended hready hfound hkey hsearch =>
    obtain ⟨_, _, _, _, hmade⟩ := hbooks.search hready hfound hkey hsearch nofun
    exact h.resume hfound hmade _ _ _ fun _ ↦ hsearched hready hfound hkey hsearch
  | keyless hready hfound hkey =>
    have hnone := references_of_keyless hready hfound hkey
    refine h.resume hfound (by rw [hnone]; exact nofun) _ _ _ fun _ ↦ ?_
    rw [hnone]
    exact (List.append_nil _).symm

/-- The books are in order and everybody is faithful. -/
theorem faithful_recorded (hvalid : settings.Valid) :
    Recorded fun past (later : Machine ρ) ↦
      later.Books settings past ∧ later.Faithful settings past where
  pinned_le := fun _ _ hlater ↦ hlater.1.pinned_le hvalid
  spawn := fun _ _ _ _ _ hlater hspawn ↦
    ⟨hlater.1.spawn hvalid hspawn, hlater.2.spawn hlater.1 hspawn⟩
  turn := fun _ _ hlater hturn ↦ ⟨hlater.1.turn hturn, hlater.2.turn hlater.1 hturn⟩

/-! ## One process in two machines -/

/-- What has become of a process none of whose turns has failed: it has referenced the pages of the
searches that it has done, and has been charged one access for each. -/
theorem faithful_after {policy : ρ} {calls : List Call}
    (hcreate : create settings policy = .ok machine) (hendures : machine.Endures calls)
    (hfound : (machine.after calls).processes[number]? = some process)
    (hfine : ¬ ∃ turn ∈ machine.turnsTaken calls, turn.Fails number) :
    (madeBy (machine.turnsTaken calls) number).map (some ·.page) = process.touched settings ∧
      process.space.counters.accesses =
        ((process.keys.toList.take process.currentSearch).map fun key ↦
          (Search.intervals process.arraySize key).length).sum := by
  obtain ⟨hvalid, hcreated⟩ := books_create hcreate
  obtain ⟨hbooks, hfaithful⟩ :=
    (faithful_recorded hvalid).after ⟨hcreated, faithful_create hcreate⟩ hendures
  have hpages := hfaithful number process hfound hfine
  refine ⟨hpages, ?_⟩
  rw [(hbooks.sheet number process hfound).counters_eq, ← UserProcess.length_touched settings,
    ← hpages, List.length_map]
  rfl

/-- Take any two machines, with any settings and policies and after any calls, and in each of them a
process with the same array and the same keys that has done the same number of searches, none of
whose turns has failed.  Both have been charged the same accesses: one for each interval that the
searches have halved.  If pages are of one size and equally many are pinned, the two have referenced
the same pages in the same order. -/
theorem transparent_after {ρ' : Type} [VictimPolicy ρ'] {settings' : Settings} {policy : ρ}
    {policy' : ρ'} {machine' : Machine ρ'} {calls calls' : List Call} {number' : ProcessId}
    {process' : UserProcess} (hcreate : create settings policy = .ok machine)
    (hcreate' : create settings' policy' = .ok machine') (hendures : machine.Endures calls)
    (hendures' : machine'.Endures calls')
    (hfound : (machine.after calls).processes[number]? = some process)
    (hfound' : (machine'.after calls').processes[number']? = some process')
    (hfine : ¬ ∃ turn ∈ machine.turnsTaken calls, turn.Fails number)
    (hfine' : ¬ ∃ turn ∈ machine'.turnsTaken calls', turn.Fails number')
    (harray : process'.arraySize = process.arraySize) (hkeys : process'.keys = process.keys)
    (hsearched : process'.currentSearch = process.currentSearch) :
    process.space.counters.accesses =
        ((process.keys.toList.take process.currentSearch).map fun key ↦
          (Search.intervals process.arraySize key).length).sum ∧
      process'.space.counters.accesses = process.space.counters.accesses ∧
      (settings'.pageSize = settings.pageSize →
        settings'.essentialPages = settings.essentialPages →
        (madeBy (machine'.turnsTaken calls') number').map (·.page) =
          (madeBy (machine.turnsTaken calls) number).map (·.page)) := by
  obtain ⟨hpages, hcost⟩ := faithful_after hcreate hendures hfound hfine
  obtain ⟨hpages', hcost'⟩ := faithful_after hcreate' hendures' hfound' hfine'
  refine ⟨hcost, ?_, fun hpage hpinned ↦ ?_⟩
  · rw [hcost', hcost, harray, hkeys, hsearched]
  · have htouched : process'.touched settings' = process.touched settings := by
      unfold UserProcess.touched
      rw [Search.pages_congr hpage hpinned, harray, hkeys, hsearched]
    rw [htouched, ← hpages] at hpages'
    have hsome : Function.Injective (some : Nat → Option Nat) := fun _ _ ↦ Option.some.inj
    apply List.map_injective_iff.2 hsome
    rw [List.map_map, List.map_map]
    exact hpages'

/-- The machine with the settings `lavish`, before any call. -/
def roomy : Machine Scripted where
  memory := { settings := lavish, free := .full 11 .mostRecent, policy := .mk [none] }

/-- The first process comes to its end, although it has to replace pages and the second fails. -/
def hurried : List Call := rush ++ [.run]

/-- The same process comes second, after one that has left. -/
def leisurely : List Call := [.spawn 4 #[1], .run, .spawn 8 #[0, 7], .run]

/-- With few frames the process replaces five pages, and with many it replaces none. -/
theorem transparent_after_strained :
    create strained Aging.mk = .ok untried ∧ create lavish (Scripted.mk [none]) = .ok roomy ∧
      untried.Endures hurried ∧ roomy.Endures leisurely ∧
      (¬ ∃ turn ∈ untried.turnsTaken hurried, turn.Fails 0) ∧
      (¬ ∃ turn ∈ roomy.turnsTaken leisurely, turn.Fails 1) ∧
      ∃ process process', (untried.after hurried).processes[0]? = some process ∧
        (roomy.after leisurely).processes[1]? = some process' ∧
        process'.arraySize = process.arraySize ∧ process'.keys = process.keys ∧
        process'.currentSearch = process.currentSearch ∧
        process.space.counters.replacements = 5 ∧ process'.space.counters.replacements = 0 ∧
        process'.space.counters.accesses = process.space.counters.accesses ∧
        (madeBy (roomy.turnsTaken leisurely) 1).map (·.page) =
          (madeBy (untried.turnsTaken hurried) 0).map (·.page) := by
  have hcreate : create strained Aging.mk = .ok untried := rfl
  have hcreate' : create lavish (Scripted.mk [none]) = .ok roomy := rfl
  have hendures : untried.Endures hurried := by decide +kernel
  have hendures' : roomy.Endures leisurely := by decide +kernel
  have hfine : ¬ ∃ turn ∈ untried.turnsTaken hurried, turn.Fails 0 := by decide +kernel
  have hfine' : ¬ ∃ turn ∈ roomy.turnsTaken leisurely, turn.Fails 1 := by decide +kernel
  obtain ⟨process, hfound, harray, hkeys, hsearched, hfive⟩ :
      ∃ process ∈ (untried.after hurried).processes[0]?, process.arraySize = 8 ∧
        process.keys = #[0, 7] ∧ process.currentSearch = 2 ∧
        process.space.counters.replacements = 5 := by decide +kernel
  obtain ⟨process', hfound', harray', hkeys', hsearched', hnone⟩ :
      ∃ process ∈ (roomy.after leisurely).processes[1]?, process.arraySize = 8 ∧
        process.keys = #[0, 7] ∧ process.currentSearch = 2 ∧
        process.space.counters.replacements = 0 := by decide +kernel
  have hsame := transparent_after hcreate hcreate' hendures hendures' hfound hfound' hfine hfine'
    (harray'.trans harray.symm) (hkeys'.trans hkeys.symm) (hsearched'.trans hsearched.symm)
  exact ⟨hcreate, hcreate', hendures, hendures', hfine, hfine', process, process', hfound, hfound',
    harray'.trans harray.symm, hkeys'.trans hkeys.symm, hsearched'.trans hsearched.symm,
    hfive, hnone, hsame.2.1, hsame.2.2 rfl rfl⟩

end Machine

end PagedMemory
