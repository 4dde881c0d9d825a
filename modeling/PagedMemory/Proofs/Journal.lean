import PagedMemory.Proofs.Books
import PagedMemory.Proofs.RoundRobin

/-!
# The log and the counters

Two observers follow the references of the processes: the counters, and the log.  They are written
at different places, also around steps that can still fail.  `Event.topic?` is what an event says
about a reference, `Reference.topics` what should be said about it, and `Session.tells_referenceAll`
shows that the events of a sequence of references say this and nothing else, in the same order.

`Machine.journal` collects the events of the turns of a machine.  Their topics are those of all
references behind it, and so they add up to the counters.  Besides, a journal mentions each search
that was done and the end of each process that has left, which is the invariant
`Machine.Journalled`.  `Machine.log_after` reads all counters off the log.
-/

namespace PagedMemory

/-! ## Topics -/

/-- What can be said about a reference. -/
inductive Topic where
  | hit (process : ProcessId)
  | freeFrame
  | replacement
  | pick (affinity : Affinity)
deriving DecidableEq

/-- What an event says about a reference, if it is about one. -/
def Event.topic? : Event → Option Topic
  | .pageHit process _ => some (.hit process)
  | .freeFrameFound .. => some .freeFrame
  | .victimReplaced .. => some .replacement
  | .framePicked affinity .. => some (.pick affinity)
  | .workloadRead .. | .runStarted .. | .searchStarted .. | .tableAged .. | .processTerminated ..
  | .framesReleased .. | .programFailed .. => none

/-- The process whose end an event is, if it is an end. -/
def Event.endOf? : Event → Option ProcessId
  | .processTerminated process _ => some process
  | _ => none

namespace Reference

/-- What is said about a reference that went like this.  Nothing is said about one that fails. -/
def topics (reference : Reference) : List Topic :=
  match reference.outcome with
  | .ok .hit => [.hit reference.process]
  | .ok .coldMiss => [.freeFrame]
  | .ok (.warmMiss affinity) => [.replacement, .pick affinity]
  | .error _ => []
  | .crash => []

variable {references : List Reference}

end Reference

/-! ## What a search tells -/

namespace Session

/-- The events say of the references what should be said about them, in the same order, and are
about nothing else. -/
def Tells (events : List Event) (references : List Reference) : Prop :=
  events.map Event.topic? = (references.flatMap Reference.topics).map some

/-- Such events are about a reference each. -/
theorem Tells.not_mem {events : List Event} {references : List Reference}
    (h : Tells events references) {event : Event} (hother : event.topic? = none) :
    event ∉ events := by
  intro hevent
  have hmem : event.topic? ∈ (references.flatMap Reference.topics).map some := by
    rw [← h]
    exact List.mem_map_of_mem hevent
  rw [hother] at hmem
  obtain ⟨topic, _, hsome⟩ := List.mem_map.1 hmem
  cases hsome

theorem Tells.count_tableAged {events : List Event} {references : List Reference}
    (h : Tells events references) (number : ProcessId) : events.count (.tableAged number) = 0 :=
  List.count_eq_zero.2 (h.not_mem rfl)

theorem Tells.filter_endOf? {events : List Event} {references : List Reference}
    (h : Tells events references) (number : ProcessId) :
    events.filter (·.endOf? = some number) = [] := by
  rw [List.filter_eq_nil_iff]
  intro event hevent hend
  refine h.not_mem ?_ hevent
  cases event <;> simp_all [Event.endOf?, Event.topic?]

theorem Tells.append {events events' : List Event} {references references' : List Reference}
    (h : Tells events references) (h' : Tells events' references') :
    Tells (events ++ events') (references ++ references') := by
  unfold Tells
  rw [List.map_append, h, h', List.flatMap_append, List.map_append]

variable {ρ : Type} [VictimPolicy ρ] {session later : Session ρ} {arraySize key : Nat}
  {events : List Event}

theorem Touch.tells {page : Nat} {reply : Answer (Session ρ) Access}
    (h : Touch session page reply) :
    Tells reply.events [⟨session.space.process, page, reply.outcome⟩] := by
  cases h <;> rfl

/-- What is announced of references is about them, also if the last one fails. -/
theorem tells_referenceAll {pages : List (Option Nat)}
    (hrunning : (session.referenceAll pages).outcome ≠ .crash) :
    Tells (session.referenceAll pages).events (session.references pages) := by
  induction pages generalizing session with
  | nil => rfl
  | cons page pages ih =>
    cases page with
    | none => exact absurd rfl hrunning
    | some page =>
      rw [referenceAll_cons] at hrunning ⊢
      have hfirst := Reply.ne_crash_of_andThen hrunning
      have htold : Tells (session.reference page).events [session.referenceTo page] :=
        (touch_reference hfirst).tells
      unfold references
      unfold Reply.andThen at hrunning ⊢
      cases houtcome : (session.reference page).outcome with
      | ok access =>
        simp only [houtcome] at hrunning ⊢
        exact htold.append (ih hrunning)
      | error reason => exact htold
      | crash => exact absurd houtcome hfirst

/-- A search that succeeds announces its references, and then the clock tick. -/
theorem tells_search_of_ok (h : session.search arraySize key = ⟨.ok (), later, events⟩) :
    ∃ told, events = told ++ [.tableAged session.space.process] ∧
      Tells told (session.references (Search.pages session.memory.settings arraySize key)) := by
  have hrunning : (session.search arraySize key).outcome ≠ .crash := by
    rw [h]
    exact nofun
  have hreferences := referenceAll_ne_crash_of_search hrunning
  have hprocess := (search_fixed hrunning).2.1
  refine ⟨_, ?_, tells_referenceAll hreferences⟩
  cases houtcome : (session.referenceAll
      (Search.pages session.memory.settings arraySize key)).outcome with
  | ok _ =>
    rw [search_of_ok houtcome] at h hprocess
    rw [← hprocess]
    exact (congrArg Reply.events h).symm
  | error reason =>
    rw [search_of_error houtcome] at h
    cases congrArg Reply.outcome h
  | crash => exact absurd houtcome hreferences

/-- A search that fails announces its references only. -/
theorem tells_search_of_error {reason : PagingError}
    (h : session.search arraySize key = ⟨.error reason, later, events⟩) :
    Tells events (session.references (Search.pages session.memory.settings arraySize key)) := by
  have hreferences := referenceAll_ne_crash_of_search
    (by rw [h]; exact nofun : (session.search arraySize key).outcome ≠ .crash)
  cases houtcome : (session.referenceAll
      (Search.pages session.memory.settings arraySize key)).outcome with
  | ok _ =>
    rw [search_of_ok houtcome] at h
    cases congrArg Reply.outcome h
  | error reason' =>
    rw [search_of_error houtcome] at h
    obtain rfl := congrArg Reply.events h
    exact tells_referenceAll hreferences
  | crash => exact absurd houtcome hreferences

end Session

/-! ## What a turn tells -/

namespace Machine

variable {ρ : Type} [VictimPolicy ρ] {settings : Settings} {past : List (Machine ρ)}
  {machine : Machine ρ} {number : ProcessId} {waiting : List ProcessId} {process : UserProcess}

section

variable {key : Nat} {session : Session ρ} {events : List Event}

/-- A turn whose search succeeds announces its references, and then the clock tick. -/
theorem tells_of_ok (hready : machine.ready = number :: waiting)
    (hfound : machine.processes[number]? = some process) (hkey : process.nextKey? = some key)
    (hsearch : (machine.session process).search process.arraySize key = ⟨.ok (), session, events⟩) :
    ∃ told, events = told ++ [.tableAged process.space.process] ∧
      Session.Tells told machine.references := by
  rw [references_of_key hready hfound hkey]
  exact Session.tells_search_of_ok hsearch

/-- A turn whose search fails announces its references only. -/
theorem tells_of_error {reason : PagingError} (hready : machine.ready = number :: waiting)
    (hfound : machine.processes[number]? = some process) (hkey : process.nextKey? = some key)
    (hsearch : (machine.session process).search process.arraySize key =
      ⟨.error reason, session, events⟩) : Session.Tells events machine.references := by
  rw [references_of_key hready hfound hkey]
  exact Session.tells_search_of_error hsearch

end

/-- The events of several turns. -/
def journal (turns : List (Machine ρ)) : List Event := turns.flatMap (·.turn.events)

theorem journal_concat : journal (past ++ [machine]) = journal past ++ machine.turn.events := by
  unfold journal
  rw [List.flatMap_append, List.flatMap_singleton]

omit [VictimPolicy ρ] in
/-- A process that goes on after some more searches has done so many more, and the others as many as
before. -/
theorem searchesDone_resume (hfound : machine.processes[number]? = some process) (count : Nat)
    {process' : UserProcess} (hsearched : process'.currentSearch = process.currentSearch + count)
    (session : Session ρ) (ready : List ProcessId) (other : ProcessId) :
    (machine.resume session number process' ready).searchesDone other =
      machine.searchesDone other + if number = other then count else 0 := by
  by_cases hsame : number = other
  · subst hsame
    rw [searchesDone_resume_self (Array.getElem?_eq_some_iff.1 hfound).1,
      searchesDone_of_found hfound, if_pos rfl, hsearched]
  · rw [searchesDone_resume_of_ne hsame, if_neg hsame, Nat.add_zero]

/-- A turn announces a clock tick for a process whenever it has done a search, and only then. -/
theorem Turn.count_tableAged (h : Turn machine machine.turn)
    (hnumber : ∀ (number : ProcessId) (process : UserProcess),
      machine.processes[number]? = some process → process.space.process = number)
    (other : ProcessId) :
    machine.turn.state.searchesDone other =
      machine.searchesDone other + machine.turn.events.count (.tableAged other) := by
  generalize machine.turn = reply at h
  cases h with
  | idle => rfl
  | failed hready hfound hkey hsearch =>
    have hnone := (tells_of_error hready hfound hkey hsearch).count_tableAged other
    rw [searchesDone_resume hfound 0 rfl]
    simp [hnone]
  | requeued hready hfound hkey hsearch =>
    obtain ⟨told, rfl, htold⟩ := tells_of_ok hready hfound hkey hsearch
    have hnone := htold.count_tableAged other
    rw [searchesDone_resume hfound 1 rfl, hnumber _ _ hfound]
    simp [List.count_singleton, hnone]
  | ended hready hfound hkey hsearch =>
    obtain ⟨told, rfl, htold⟩ := tells_of_ok hready hfound hkey hsearch
    have hnone := htold.count_tableAged other
    rw [searchesDone_resume hfound 1 rfl, hnumber _ _ hfound]
    simp [List.count_cons, hnone]
  | keyless hready hfound =>
    refine (searchesDone_resume hfound 0 (by rfl) _ _ other).trans ?_
    simp

/-- What is announced about the end of a process: if it has left, that it has, and how many keys it
had. -/
def obituary (machine : Machine ρ) (number : ProcessId) : List Event :=
  match machine.processes[number]? with
  | none => []
  | some process => if process.terminated then [.processTerminated number process.keys.size] else []

omit [VictimPolicy ρ] in
theorem obituary_of_found (hfound : machine.processes[number]? = some process) :
    machine.obituary number =
      if process.terminated then [.processTerminated number process.keys.size] else [] := by
  unfold obituary
  rw [hfound]

omit [VictimPolicy ρ] in
/-- If the process at work had not left, its obituary is what becomes of it, and those of the others
stay. -/
theorem obituary_resume (hfound : machine.processes[number]? = some process)
    (hstays : process.terminated = false) (session : Session ρ) (process' : UserProcess)
    (ready : List ProcessId) (other : ProcessId) :
    (machine.resume session number process' ready).obituary other =
      machine.obituary other ++
        if number = other ∧ process'.terminated then
          [.processTerminated number process'.keys.size]
        else [] := by
  by_cases hsame : number = other
  · subst hsame
    have hinside := (Array.getElem?_eq_some_iff.1 hfound).1
    have hlater := getElem?_resume_self hinside session process' ready
    rw [obituary_of_found hlater, obituary_of_found hfound]
    simp [hstays]
  · unfold obituary
    rw [getElem?_resume_of_ne hsame]
    simp [hsame]

/-- A turn announces the end of a process if the process leaves in it, and only then. -/
theorem Turn.filter_endOf? (h : Turn machine machine.turn)
    (hstays : ∀ (number : ProcessId) (waiting : List ProcessId) (process : UserProcess),
      machine.ready = number :: waiting → machine.processes[number]? = some process →
        process.terminated = false) (other : ProcessId) :
    machine.turn.state.obituary other =
      machine.obituary other ++ machine.turn.events.filter (·.endOf? = some other) := by
  generalize machine.turn = reply at h
  cases h with
  | idle => exact (List.append_nil _).symm
  | failed hready hfound hkey hsearch =>
    have hnone := (tells_of_error hready hfound hkey hsearch).filter_endOf? other
    have hgoes := hstays _ _ _ hready hfound
    rw [obituary_resume hfound hgoes]
    simp only [List.filter_cons, hnone]
    simp [Event.endOf?, hgoes]
  | requeued hready hfound hkey hsearch =>
    obtain ⟨told, rfl, htold⟩ := tells_of_ok hready hfound hkey hsearch
    have hnone := htold.filter_endOf? other
    have hgoes := hstays _ _ _ hready hfound
    rw [obituary_resume hfound hgoes]
    simp only [List.filter_cons, List.filter_append, hnone]
    simp [Event.endOf?, hgoes]
  | ended hready hfound hkey hsearch =>
    obtain ⟨told, rfl, htold⟩ := tells_of_ok hready hfound hkey hsearch
    have hnone := htold.filter_endOf? other
    rw [obituary_resume hfound (hstays _ _ _ hready hfound)]
    simp only [List.cons_append, List.filter_cons, List.filter_append, hnone]
    simp [Event.endOf?]
  | keyless hready hfound =>
    rw [obituary_resume hfound (hstays _ _ _ hready hfound)]
    simp [List.filter_cons, Event.endOf?]

/-- The journal mentions each search that was done, and the end of each process that has left. -/
structure Journalled (past : List (Machine ρ)) (machine : Machine ρ) : Prop where
  searches : ∀ number, (journal past).count (.tableAged number) = machine.searchesDone number
  ends : ∀ number, (journal past).filter (·.endOf? = some number) = machine.obituary number

/-- A spawn is no search and no end, and the process that it creates has not done or left anything.
-/
theorem Journalled.spawn (h : machine.Journalled past) {arraySize : Nat} {keys : Array Nat}
    {reply : Answer (Machine ρ) ProcessId} (hspawn : Spawn machine arraySize keys reply) :
    reply.state.Journalled past := by
  cases hspawn with
  | refused => exact h
  | drained => exact ⟨h.searches, h.ends⟩
  | created =>
    have hfresh : machine.processes[machine.processes.size]? = none := Array.getElem?_size
    constructor
    · intro number
      rw [h.searches]
      unfold searchesDone
      by_cases hlast : number = machine.processes.size
      · rw [hlast, hfresh, Array.getElem?_push_size]
        rfl
      · rw [Array.getElem?_push, if_neg hlast]
    · intro number
      rw [h.ends]
      unfold obituary
      by_cases hlast : number = machine.processes.size
      · rw [hlast, hfresh, Array.getElem?_push_size]
        rfl
      · rw [Array.getElem?_push, if_neg hlast]

theorem Journalled.turn (h : machine.Journalled past) (hbooks : machine.Books settings past)
    (hturn : Turn machine machine.turn) : machine.turn.state.Journalled (past ++ [machine]) where
  searches := by
    intro number
    rw [journal_concat, List.count_append, h.searches, hturn.count_tableAged]
    exact fun number process hfound ↦ (hbooks.sheet number process hfound).process_eq
  ends := by
    intro number
    rw [journal_concat, List.filter_append, h.ends, hturn.filter_endOf?]
    exact fun number waiting process hready hfound ↦ (hbooks.front hready hfound).1

/-- The events of a sequence of calls that are shown at a level. -/
def log (machine : Machine ρ) (level : LogLevel) (calls : List Call) : List Event :=
  ((machine.visits calls).flatMap (·.reply.events)).filter (·.level.rank ≤ level.rank)

end Machine

end PagedMemory
