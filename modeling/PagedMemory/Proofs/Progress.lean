import PagedMemory.Proofs.Orderly
import PagedMemory.Proofs.Serving

/-!
# Machines on their way to the end

The queue of a machine is looked at together with the processes in it.  `Machine.Progress` says that
the machine is in order, that no frame is lost, that every process in the queue that has done a
search is settled, and that every process out of the queue has left with all its frames.

A turn of a machine in progress succeeds if the counters have room for one more search and the
process at the front, in case it has done no search, finds a free frame behind those kept in
reserve.  `Machine.Progress.turn` says what the turn costs: the process at the front uses up one
search, and its first search takes no more frames than it has pages to touch.
-/

namespace PagedMemory

/-- A process in the queue, with its number. -/
structure Member where
  number : ProcessId
  process : UserProcess

/-- The searches that a process has left. -/
def Member.searchesLeft (member : Member) : Nat :=
  member.process.keys.size - member.process.currentSearch

/-- The process after one search more, with its pages as they are then. -/
def Member.advance (member : Member) (space : AddressSpace) : Member where
  number := member.number
  process :=
    { member.process with space := space, currentSearch := member.process.currentSearch + 1 }

theorem Member.searchesLeft_advance (member : Member) (space : AddressSpace) :
    (member.advance space).searchesLeft = member.searchesLeft - 1 :=
  Nat.sub_add_eq _ _ _

/-- How many different pages the first search for these keys touches. -/
def demand (settings : Settings) (arraySize : Nat) (keys : Array Nat) : Nat :=
  match keys[0]? with
  | none => 0
  | some key => Session.footprint settings arraySize key

/-- How many different pages the first search of a process touches. -/
def Member.demand (settings : Settings) (member : Member) : Nat :=
  PagedMemory.demand settings member.process.arraySize member.process.keys

theorem Member.demand_eq (settings : Settings) {member : Member} {key : Nat}
    (hkey : member.process.nextKey? = some key) (hfirst : member.process.currentSearch = 0) :
    member.demand settings = Session.footprint settings member.process.arraySize key := by
  have hzero : member.process.keys[0]? = some key := by
    rw [← hfirst]
    exact hkey
  unfold Member.demand PagedMemory.demand
  rw [hzero]

namespace Machine

/-- The process is in the machine as it is here, and is settled if it has done a search. -/
structure Waits (machine : Machine Aging) (member : Member) : Prop where
  found : machine.processes[member.number]? = some member.process
  size : member.process.arraySize ≤ 2 ^ 63
  accesses_le : member.process.space.counters.accesses ≤ machine.memory.counters.accesses
  settled : 0 < member.process.currentSearch →
    (machine.session member.process).Settled ∨ member.process.arraySize ≤ 1

/-- The machine is in order, and these processes are what is left to do. -/
structure Progress (settings : Settings) (machine : Machine Aging) (queue : List Member) :
    Prop where
  orderly : machine.Orderly settings
  accounts : machine.Accounts settings []
  ready_eq : machine.ready = queue.map Member.number
  waits : ∀ member ∈ queue, machine.Waits member
  gone : ∀ number process, machine.processes[number]? = some process → number ∉ machine.ready →
    process.terminated = true ∧ process.space.table.frames = []

variable {settings : Settings} {machine : Machine Aging} {queue others : List Member}
  {member : Member}

theorem Progress.fit (h : machine.Progress settings queue) (hmember : member ∈ queue) :
    machine.Fit member.number member.process := by
  have hready : member.number ∈ machine.ready := by
    rw [h.ready_eq]
    exact List.mem_map_of_mem hmember
  exact h.orderly.fit_of_found hready (h.waits member hmember).found

theorem Progress.front_not_mem (h : machine.Progress settings (member :: others)) :
    member.number ∉ others.map Member.number :=
  (h.orderly.front h.ready_eq).1

theorem Progress.front (h : machine.Progress settings (member :: others)) : machine.Waits member :=
  h.waits member List.mem_cons_self

/-! ## What a process leaves behind -/

section

variable {session : Session Aging} {process : UserProcess} {number : ProcessId}
  {ready : List ProcessId}

/-- What becomes of one process does not concern another that waits. -/
theorem Waits.resume (h : machine.Waits member) (hne : number ≠ member.number)
    (hsettings : session.memory.settings = machine.memory.settings)
    (haccesses : machine.memory.counters.accesses ≤ session.memory.counters.accesses) :
    (machine.resume session number process ready).Waits member where
  found := (getElem?_resume_of_ne hne _ _ _ _).trans h.found
  size := h.size
  accesses_le := Nat.le_trans h.accesses_le haccesses
  settled := by
    intro hstarted
    have hsettled := h.settled hstarted
    unfold Session.Settled Machine.session at hsettled ⊢
    simp only [Machine.resume, hsettings] at hsettled ⊢
    exact hsettled

/-- A process that comes back settled waits again. -/
theorem waits_resume (hin : number < machine.processes.size) (hsize : process.arraySize ≤ 2 ^ 63)
    (hown : session.space.counters.accesses ≤ session.memory.counters.accesses)
    (hsettled : session.Settled ∨ process.arraySize ≤ 1) :
    (machine.resume session number process ready).Waits
      ⟨number, { process with space := session.space }⟩ where
  found := getElem?_resume_self hin session process ready
  size := hsize
  accesses_le := hown
  settled := fun _ ↦ hsettled

theorem Progress.waits_others (h : machine.Progress settings (member :: others))
    (hsettings : session.memory.settings = machine.memory.settings)
    (haccesses : machine.memory.counters.accesses ≤ session.memory.counters.accesses) :
    ∀ other ∈ others, (machine.resume session member.number process ready).Waits other := by
  intro other hother
  apply (h.waits other (List.mem_cons_of_mem _ hother)).resume _ hsettings haccesses
  intro hsame
  apply h.front_not_mem
  rw [hsame]
  exact List.mem_map_of_mem hother

/-- Whoever is out of the queue has left, if that is true of the process that was at the front. -/
theorem Progress.gone_resume (h : machine.Progress settings (member :: others))
    (hself : member.number ∉ ready →
      process.terminated = true ∧ session.space.table.frames = [])
    (hothers : ∀ number ∈ others.map Member.number, number ∈ ready) :
    ∀ number later,
      (machine.resume session member.number process ready).processes[number]? = some later →
        number ∉ ready → later.terminated = true ∧ later.space.table.frames = [] := by
  refine forall_found_resume ?_ ?_
  · exact hself
  · intro number later hne hfound hnot
    apply h.gone number later hfound
    rw [h.ready_eq, List.map_cons, List.mem_cons, not_or]
    exact ⟨Ne.symm hne, fun hwaiting ↦ hnot (hothers number hwaiting)⟩

/-- The process at the front leaves with all its frames, and the others are left. -/
theorem Progress.leave (h : machine.Progress settings (member :: others))
    (hterminated : process.terminated = true)
    (hsettings : session.memory.settings = machine.memory.settings)
    (haccesses : machine.memory.counters.accesses ≤ session.memory.counters.accesses)
    (horderly : (machine.resume session.released member.number process
      (others.map Member.number)).Orderly settings)
    (haccounts : (machine.resume session.released member.number process
      (others.map Member.number)).Accounts settings []) :
    (machine.resume session.released member.number process
      (others.map Member.number)).Progress settings others where
  orderly := horderly
  accounts := haccounts
  ready_eq := rfl
  waits := h.waits_others hsettings haccesses
  gone := h.gone_resume (fun _ ↦ ⟨hterminated, PageTable.frames_vacated _⟩) fun _ ↦ id

/-- The process at the front goes to the end of the queue. -/
theorem Progress.requeue (h : machine.Progress settings (member :: others))
    (hsettings : session.memory.settings = machine.memory.settings)
    (haccesses : machine.memory.counters.accesses ≤ session.memory.counters.accesses)
    (horderly : (machine.resume session member.number process
      (others.map Member.number ++ [member.number])).Orderly settings)
    (haccounts : (machine.resume session member.number process
      (others.map Member.number ++ [member.number])).Accounts settings [])
    (hwaits : (machine.resume session member.number process
      (others.map Member.number ++ [member.number])).Waits
        ⟨member.number, { process with space := session.space }⟩) :
    (machine.resume session member.number process
      (others.map Member.number ++ [member.number])).Progress settings
        (others ++ [⟨member.number, { process with space := session.space }⟩]) where
  orderly := horderly
  accounts := haccounts
  ready_eq := by
    rw [List.map_append]
    rfl
  waits := List.forall_mem_append.2
    ⟨h.waits_others hsettings haccesses, List.forall_mem_singleton.2 hwaits⟩
  gone := h.gone_resume
    (fun hnot ↦ absurd (List.mem_append_right _ (List.mem_singleton_self _)) hnot)
    fun _ ↦ List.mem_append_left _

end

/-! ## The search of the process at the front -/

/-- The process at the front can do its next search: it is settled, or it finds a free frame, or it
has nothing to touch. -/
theorem Progress.safe (h : machine.Progress settings (member :: others)) (key : Nat)
    (hfree : member.process.currentSearch = 0 → settings.reserve < machine.memory.free.size) :
    Search.pages (machine.session member.process).memory.settings member.process.arraySize
        key = [] ∨
      (machine.session member.process).Settled ∨
      (machine.session member.process).memory.settings.reserve <
        (machine.session member.process).memory.free.size := by
  by_cases hfirst : member.process.currentSearch = 0
  · have hplenty := hfree hfirst
    rw [← h.orderly.settings_eq] at hplenty
    exact .inr (.inr hplenty)
  · obtain hsettled | hsmall := h.front.settled (Nat.pos_of_ne_zero hfirst)
    · exact .inr (.inl hsettled)
    · exact .inl (Search.pages_eq_nil hsmall)

/-- What the search of the process at the front comes to: it leaves the settings, counts at most 63
accesses, settles the process, and takes no more frames than it touches pages. -/
structure Searched (settings : Settings) (machine : Machine Aging) (member : Member) (key : Nat)
    (session : Session Aging) : Prop where
  settings_eq : session.memory.settings = machine.memory.settings
  le_accesses : machine.memory.counters.accesses ≤ session.memory.counters.accesses
  accesses_le : session.memory.counters.accesses ≤ machine.memory.counters.accesses + 63
  own_le : session.space.counters.accesses ≤ session.memory.counters.accesses
  settled : session.Settled ∨ member.process.arraySize ≤ 1
  frames : machine.memory.free.size ≤
    session.memory.free.size + Session.footprint settings member.process.arraySize key

theorem Progress.spacious (h : machine.Progress settings (member :: others)) {key : Nat}
    (hkey : member.process.nextKey? = some key)
    (hroom : machine.memory.counters.accesses + 64 * member.searchesLeft < Word.bound) :
    (machine.session member.process).Spacious 63 := by
  have hunder := (Array.getElem?_eq_some_iff.1 hkey).1
  have hcounts : (machine.session member.process).memory.counters.accesses =
      machine.memory.counters.accesses := rfl
  refine ⟨(h.fit List.mem_cons_self).consistent, h.orderly.consistent, h.front.accesses_le, ?_⟩
  unfold Member.searchesLeft at hroom
  omega

theorem Progress.search (h : machine.Progress settings (member :: others)) (hvalid : settings.Valid)
    {key : Nat} (hkey : member.process.nextKey? = some key)
    (hfree : member.process.currentSearch = 0 → settings.reserve < machine.memory.free.size)
    (hroom : machine.memory.counters.accesses + 64 * member.searchesLeft < Word.bound) :
    ∃ session events,
      (machine.session member.process).search member.process.arraySize key =
          ⟨.ok (), session, events⟩ ∧
        machine.Searched settings member key session := by
  have hfit := h.fit List.mem_cons_self
  have hsize := h.front.size
  have hle := h.front.accesses_le
  have hrunning : ((machine.session member.process).search member.process.arraySize
      key).outcome ≠ .crash :=
    Session.search_ne_crash (h.spacious hkey hroom) hfit.fits hsize hfit.size_table
  have hsafe := h.safe key hfree
  have hok := (Session.search_of_safe hfit.standing hsafe hrunning).1
  have hafter := Session.settled_of_search hfit.standing hsafe hrunning
  have hstorable := (h.accounts.storable hvalid).session hfit.found
  have hcost := Session.size_free_le_search hstorable hrunning
  have hcounts := Session.search_accesses hok
  have hkept := (Session.search_fixed hrunning).1
  have hlength := Search.length_pages_le machine.memory.settings key hsize
  rcases hsearch : (machine.session member.process).search member.process.arraySize key with
    ⟨outcome, session, events⟩
  rw [hsearch] at hok hcost hcounts hkept hafter
  subst hok
  rw [show (machine.session member.process).memory.settings = settings from
    h.orderly.settings_eq] at hcost hcounts
  rw [h.orderly.settings_eq] at hlength
  obtain ⟨hown, hshared⟩ := hcounts
  have hown' : (machine.session member.process).space.counters.accesses =
      member.process.space.counters.accesses := rfl
  have hshared' : (machine.session member.process).memory.counters.accesses =
      machine.memory.counters.accesses := rfl
  simp only at hown hshared
  exact ⟨session, events, rfl, hkept, by omega, by omega, by omega, hafter, hcost⟩

/-! ## Turns -/

/-- A turn of the process at the front succeeds.  The others are left, and behind them whatever goes
on, which has done a search.  A first search takes no more frames than it touches pages, and a
search is paid from the accesses that were set aside for it. -/
structure Yields (settings : Settings) (machine : Machine Aging) (member : Member)
    (others back : List Member) : Prop where
  outcome : ∃ more, machine.turn.outcome = .ok more
  progress : machine.turn.state.Progress settings (others ++ back)
  started : ∀ last ∈ back, 0 < last.process.currentSearch
  frames : member.process.currentSearch = 0 →
    machine.memory.free.size ≤ machine.turn.state.memory.free.size + member.demand settings
  accesses : machine.turn.state.memory.counters.accesses +
      64 * (back.map Member.searchesLeft).sum ≤
    machine.memory.counters.accesses + 64 * member.searchesLeft

theorem Progress.yields_of_keyless (h : machine.Progress settings (member :: others))
    (hvalid : settings.Valid) (hkey : member.process.nextKey? = none) :
    machine.Yields settings member others [] := by
  have hturn := turn_of_keyless h.ready_eq h.front.found hkey
  have hcases := Turn.of_eq hturn Outcome.ok_ne_crash
  have hleft := h.leave rfl rfl (Nat.le_refl _) (h.orderly.turn hcases)
    (h.accounts.turn hvalid hcases)
  have hfrees : (machine.session member.process).released.memory.free.size =
      machine.memory.free.size + member.process.space.table.resident.length :=
    Session.size_free_released _
  constructor
  case outcome => exact ⟨_, congrArg Reply.outcome hturn⟩
  case progress =>
    rw [hturn, List.append_nil]
    exact hleft
  case started => exact List.forall_mem_nil _
  case frames =>
    intro _
    rw [hturn]
    simp only [Machine.resume]
    omega
  case accesses =>
    rw [hturn, List.map_nil, List.sum_nil]
    exact Nat.add_le_add_left (Nat.zero_le _) _

section

variable {key : Nat} {session : Session Aging} {events : List Event}

theorem Progress.yields_of_last (h : machine.Progress settings (member :: others))
    (hvalid : settings.Valid) (hkey : member.process.nextKey? = some key)
    (hsearch : (machine.session member.process).search member.process.arraySize key =
      ⟨.ok (), session, events⟩) (hsearched : machine.Searched settings member key session)
    (hlast : member.process.keys.size = member.process.currentSearch + 1) :
    machine.Yields settings member others [] := by
  have hturn := turn_of_last h.ready_eq h.front.found hkey hsearch hlast
  have hcases := Turn.of_eq hturn Outcome.ok_ne_crash
  have hleft := h.leave rfl hsearched.settings_eq hsearched.le_accesses (h.orderly.turn hcases)
    (h.accounts.turn hvalid hcases)
  have hfrees := session.size_free_released
  have hcost := hsearched.frames
  have hfew := hsearched.accesses_le
  constructor
  case outcome => exact ⟨_, congrArg Reply.outcome hturn⟩
  case progress =>
    rw [hturn, List.append_nil]
    exact hleft
  case started => exact List.forall_mem_nil _
  case frames =>
    intro hfirst
    rw [hturn, Member.demand_eq settings hkey hfirst]
    simp only [Machine.resume]
    omega
  case accesses =>
    have hsame : session.released.memory.counters = session.memory.counters := rfl
    rw [hturn]
    simp only [Machine.resume, hsame, List.map_nil, List.sum_nil, Member.searchesLeft]
    omega

theorem Progress.yields_of_more (h : machine.Progress settings (member :: others))
    (hvalid : settings.Valid) (hkey : member.process.nextKey? = some key)
    (hsearch : (machine.session member.process).search member.process.arraySize key =
      ⟨.ok (), session, events⟩) (hsearched : machine.Searched settings member key session)
    (hmore : member.process.currentSearch + 1 < member.process.keys.size) :
    machine.Yields settings member others [member.advance session.space] := by
  have hturn := turn_of_more h.ready_eq h.front.found hkey hsearch hmore
  have hcases := Turn.of_eq hturn Outcome.ok_ne_crash
  have hin := (h.fit List.mem_cons_self).lt_size
  have hleft := h.requeue hsearched.settings_eq hsearched.le_accesses (h.orderly.turn hcases)
    (h.accounts.turn hvalid hcases)
    (waits_resume hin h.front.size hsearched.own_le hsearched.settled)
  have hfew := hsearched.accesses_le
  constructor
  case outcome => exact ⟨_, congrArg Reply.outcome hturn⟩
  case progress =>
    rw [hturn]
    exact hleft
  case started => exact List.forall_mem_singleton.2 (Nat.succ_pos _)
  case frames =>
    intro hfirst
    rw [hturn, Member.demand_eq settings hkey hfirst]
    exact hsearched.frames
  case accesses =>
    rw [hturn, List.map_singleton, List.sum_singleton, Member.searchesLeft_advance]
    simp only [Machine.resume, Member.searchesLeft]
    omega

end

/-- A turn succeeds and keeps the machine in progress. -/
theorem Progress.turn (h : machine.Progress settings (member :: others)) (hvalid : settings.Valid)
    (hfree : member.process.currentSearch = 0 → settings.reserve < machine.memory.free.size)
    (hroom : machine.memory.counters.accesses + 64 * member.searchesLeft < Word.bound) :
    ∃ back, machine.Yields settings member others back := by
  cases hkey : member.process.nextKey? with
  | none => exact ⟨[], h.yields_of_keyless hvalid hkey⟩
  | some key =>
    obtain ⟨session, events, hsearch, hsearched⟩ := h.search hvalid hkey hfree hroom
    by_cases hmore : member.process.currentSearch + 1 < member.process.keys.size
    · exact ⟨_, h.yields_of_more hvalid hkey hsearch hsearched hmore⟩
    · have hlast := last_of_nextKey? hkey (Nat.le_of_not_lt hmore)
      exact ⟨[], h.yields_of_last hvalid hkey hsearch hsearched hlast⟩

end Machine

end PagedMemory
