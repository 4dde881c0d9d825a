import PagedMemory.Proofs.Books

/-!
# The order of the faults in a turn

The faults of a turn come in a fixed order: first the cold misses, while there are frames to spare,
and then the warm misses.  A warm miss leaves as many free frames as before, and it leaves behind a
frame that the process itself has held, unless no frame is free at all.  Such a frame suits every
later page of the process.  So the fallback rule can serve only the first warm miss of a turn.

`Session.Pressed` is what a warm miss leaves, and every reference keeps it.
`Machine.fault_order_after` draws the conclusions: about the references of every turn, about the
tallies of the processes, and about a machine with a single process, whose free frames nobody else
has ever held.
-/

namespace PagedMemory

/-- Nobody but this process has held the frame. -/
def FreeFrame.KnownTo (free : FreeFrame) (process : ProcessId) : Prop :=
  ∀ holder, free.last = some holder → holder.process = process

/-- A frame that is stamped with a page of the process is known to it. -/
theorem FreeFrame.knownTo_stamped (frame : FrameNumber) (holder : Holder) :
    FreeFrame.KnownTo { frame := frame, last := some holder } holder.process := by
  intro other hother
  cases hother
  rfl

/-- A frame that only the process has held suits each of its pages by one of the first three rules.
-/
theorem FreeFrame.KnownTo.exists_admits {free : FreeFrame} {incoming : Holder}
    (h : free.KnownTo incoming.process) :
    ∃ affinity ∈ [Affinity.exactReuse, .unowned, .sameOwner],
      affinity.admits incoming free = true := by
  cases hlast : free.last with
  | none =>
    refine ⟨.unowned, by simp, ?_⟩
    simp [Affinity.admits, hlast]
  | some holder =>
    refine ⟨.sameOwner, by simp, ?_⟩
    simpa [Affinity.admits, hlast] using h holder hlast

namespace FreeList

variable {list rest : FreeList} {incoming leaving : Holder} {frame : FrameNumber}
  {chosen : FreeFrame} {affinity : Affinity} {process : ProcessId}

/-- If the list has a frame that only the process has held, no selection for it falls back. -/
theorem select?_ne_fallback {free : FreeFrame} (hfree : free ∈ list.frames)
    (hknown : free.KnownTo incoming.process)
    (h : list.select? incoming = some (chosen, affinity, rest)) : affinity ≠ .fallback := by
  obtain ⟨rule, hrule, hadmits⟩ := hknown.exists_admits
  cases haffine : list.affine? incoming with
  | none =>
    have hnone := List.findSome?_eq_none_iff.1 haffine rule hrule
    rw [Option.map_eq_none_iff, Array.findIdx?_eq_none_iff] at hnone
    exact absurd ((hnone free hfree).symm.trans hadmits) Bool.false_ne_true
  | some found =>
    obtain ⟨index, first⟩ := found
    obtain ⟨tried, htried, hfound⟩ := List.exists_of_findSome?_eq_some haffine
    obtain ⟨_, _, hsame⟩ := Option.map_eq_some_iff.1 hfound
    unfold select? at h
    simp only [haffine] at h
    obtain ⟨_, _, htaken⟩ := Option.map_eq_some_iff.1 h
    cases hsame
    cases htaken
    rintro rfl
    simp at htried

/-- The list has a frame that only the process has held, or none at all. -/
def Offers (list : FreeList) (process : ProcessId) : Prop :=
  list.size = 0 ∨ ∃ free ∈ list.frames, free.KnownTo process

/-- With such a list the process never falls back in an exchange of its own pages. -/
theorem exchange?_ne_fallback
    (h : list.exchange? incoming frame leaving = some (chosen, affinity, rest))
    (hoffers : list.Offers incoming.process) (hown : leaving.process = incoming.process) :
    affinity ≠ .fallback := by
  unfold exchange? at h
  split at h
  · have hstamped := FreeFrame.knownTo_stamped frame leaving
    rw [hown] at hstamped
    exact select?_ne_fallback (Array.mem_push_self ..) hstamped h
  · rename_i hsome
    obtain ⟨_, hselect, hsame⟩ := Option.map_eq_some_iff.1 h
    cases hsame
    obtain hnone | ⟨free, hfree, hknown⟩ := hoffers
    · exact absurd (isEmpty_iff.2 hnone) hsome
    · exact select?_ne_fallback hfree hknown hselect

/-- An exchange leaves such a list to the process that gives up a page. -/
theorem offers_of_exchange?
    (h : list.exchange? incoming frame leaving = some (chosen, affinity, rest)) :
    rest.Offers leaving.process := by
  have hsize := size_of_exchange?_eq_some h
  unfold exchange? at h
  split at h
  · rename_i hnone
    exact .inl (hsize.trans (isEmpty_iff.1 hnone))
  · obtain ⟨_, _, hsame⟩ := Option.map_eq_some_iff.1 h
    cases hsame
    exact .inr ⟨_, Array.mem_push_self .., FreeFrame.knownTo_stamped frame leaving⟩

/-- Nobody but this process has held a frame of the list. -/
def KnownTo (list : FreeList) (process : ProcessId) : Prop :=
  ∀ free ∈ list.frames, free.KnownTo process

theorem KnownTo.offers (h : list.KnownTo process) : list.Offers process := by
  obtain hnone | hsome := Nat.eq_zero_or_pos list.size
  · exact .inl hnone
  · exact .inr ⟨_, Array.getElem_mem hsome, h _ (Array.getElem_mem hsome)⟩

theorem knownTo_full (frameCount : Nat) (rule : FallbackRule) (process : ProcessId) :
    (full frameCount rule).KnownTo process := by
  intro free hfree holder hlast
  obtain ⟨_, _, rfl⟩ := Array.mem_ofFn.1 hfree
  cases hlast

end FreeList

/-- Of two references in order, a warm miss is followed neither by a cold miss nor by a warm miss
that falls back. -/
def Reference.InOrder (earlier later : Reference) : Prop :=
  (∃ affinity, earlier.Warm affinity) → ¬ later.Cold ∧ ¬ later.Warm .fallback

/-- At most one of several references in order falls back. -/
theorem Reference.countP_fallback_le {references : List Reference}
    (h : references.Pairwise InOrder) : references.countP (·.Warm .fallback) ≤ 1 := by
  induction references with
  | nil => exact Nat.zero_le 1
  | cons first references ih =>
    obtain ⟨hfirst, hrest⟩ := List.pairwise_cons.1 h
    rw [List.countP_cons]
    by_cases hfallback : first.Warm .fallback
    · have hnone : references.countP (·.Warm .fallback) = 0 := by
        rw [List.countP_eq_zero]
        intro later hlater
        rw [decide_eq_true_eq]
        exact (hfirst later hlater ⟨_, hfallback⟩).2
      rw [hnone, if_pos (decide_eq_true hfallback)]
    · rw [if_neg (by rwa [decide_eq_true_eq])]
      exact ih hrest

/-! ## Sessions -/

namespace Session

variable {ρ : Type}

/-- No more frames are free than are kept in reserve, and one of them only this process has held,
unless there is none. -/
structure Pressed (session : Session ρ) : Prop where
  short : session.memory.free.size ≤ session.memory.settings.reserve
  offers : session.memory.free.Offers session.space.process

variable [VictimPolicy ρ] {session : Session ρ} {page : Nat} {reply : Answer (Session ρ) Access}

/-- A warm miss leaves memory pressed. -/
theorem Touch.pressed_of_warmMiss (h : Touch session page reply) {affinity : Affinity}
    (hwarm : reply.outcome = .ok (.warmMiss affinity)) : reply.state.Pressed := by
  cases h with
  | hit | coldMiss | noVictim | framelessVictim => cases hwarm
  | warmMiss _ hshort _ _ _ hexchange =>
    refine ⟨?_, FreeList.offers_of_exchange? hexchange⟩
    rw [free_settle, settings_settle, FreeList.size_of_exchange?_eq_some hexchange]
    exact hshort

/-- Memory that is pressed stays so, and serves no cold miss and no warm miss by the fallback rule.
-/
theorem Touch.pressed (h : Touch session page reply) (hpressed : session.Pressed) :
    reply.state.Pressed ∧ reply.outcome ≠ .ok .coldMiss ∧
      reply.outcome ≠ .ok (.warmMiss .fallback) := by
  have htouch := h
  cases h with
  | hit | noVictim | framelessVictim => exact ⟨⟨hpressed.short, hpressed.offers⟩, nofun, nofun⟩
  | coldMiss _ hroomy => exact absurd hpressed.short (Nat.not_le_of_lt hroomy)
  | warmMiss _ _ _ _ _ hexchange =>
    refine ⟨htouch.pressed_of_warmMiss rfl, nofun, ?_⟩
    intro hfallback
    cases hfallback
    exact FreeList.exchange?_ne_fallback hexchange hpressed.offers rfl rfl

/-- The references of a search are in order. -/
theorem pairwise_inOrder_references {pages : List (Option Nat)}
    (hrunning : (session.referenceAll pages).outcome ≠ .crash) :
    (session.references pages).Pairwise Reference.InOrder := by
  -- From the first warm miss on memory is pressed.
  have hrecords := referenceAll_records
    (fun past later ↦ past.Pairwise Reference.InOrder ∧
      ∀ reference ∈ past, (∃ affinity, reference.Warm affinity) → later.Pressed)
    [] ?_ ⟨List.Pairwise.nil, nofun⟩ hrunning
  · exact hrecords.1
  · rintro past later page _ ⟨hpast, hpressed⟩ hserved
    have htouch := touch_reference hserved
    constructor
    · rw [List.pairwise_append]
      refine ⟨hpast, List.pairwise_singleton _ _, ?_⟩
      intro earlier hearlier last hlast hwarm
      rw [List.mem_singleton.1 hlast]
      exact (htouch.pressed (hpressed earlier hearlier hwarm)).2
    · intro reference hreference hwarm
      obtain hold | hnew := List.mem_append.1 hreference
      · exact (htouch.pressed (hpressed reference hold hwarm)).1
      · rw [List.mem_singleton.1 hnew] at hwarm
        obtain ⟨affinity, hwarm⟩ := hwarm
        exact htouch.pressed_of_warmMiss hwarm

/-- If nobody but the process has held a free frame, a reference keeps it so, and does not fall
back. -/
theorem Touch.knownTo (h : Touch session page reply)
    (hknown : session.memory.free.KnownTo session.space.process) :
    reply.state.memory.free.KnownTo session.space.process ∧
      reply.outcome ≠ .ok (.warmMiss .fallback) := by
  cases h with
  | hit | noVictim | framelessVictim => exact ⟨hknown, nofun⟩
  | coldMiss _ _ hpop =>
    refine ⟨fun free hfree ↦ hknown free ?_, nofun⟩
    rw [(FreeList.of_pop?_eq_some hpop).1]
    exact Array.mem_push_of_mem _ hfree
  | warmMiss _ _ _ _ _ hexchange =>
    constructor
    · intro free hfree
      have hmoved := (FreeList.exchange?_perm hexchange).mem_iff.2
        (List.mem_cons_of_mem _ (Array.mem_toList_iff.2 hfree))
      obtain rfl | hold := List.mem_cons.1 hmoved
      · exact FreeFrame.knownTo_stamped _ _
      · exact hknown free (Array.mem_toList_iff.1 hold)
    · intro hfallback
      cases hfallback
      exact FreeList.exchange?_ne_fallback hexchange hknown.offers rfl rfl

/-- The same for the references of a search. -/
theorem search_knownTo {arraySize key : Nat}
    (hknown : session.memory.free.KnownTo session.space.process)
    (hrunning : (session.search arraySize key).outcome ≠ .crash) :
    (session.search arraySize key).state.memory.free.KnownTo session.space.process ∧
      ∀ reference ∈
        session.references (Search.pages session.memory.settings arraySize key),
        ¬ reference.Warm .fallback := by
  have hrecords := search_records
    (fun past later ↦ later.space.process = session.space.process ∧
      later.memory.free.KnownTo session.space.process ∧
      ∀ reference ∈ past, ¬ reference.Warm .fallback)
    [] ?_ (fun _ _ hlater ↦ hlater) ⟨rfl, hknown, nofun⟩ hrunning
  · exact hrecords.2
  · rintro past later page _ ⟨hprocess, hlater, hpast⟩ hserved
    have htouch := touch_reference hserved
    rw [← hprocess] at hlater
    obtain ⟨hkept, hfine⟩ := htouch.knownTo hlater
    rw [hprocess] at hkept
    refine ⟨htouch.process_eq.trans hprocess, hkept, ?_⟩
    intro reference hreference
    obtain hold | hnew := List.mem_append.1 hreference
    · exact hpast reference hold
    · rw [List.mem_singleton.1 hnew]
      exact hfine

omit [VictimPolicy ρ] in
theorem knownTo_released (hknown : session.memory.free.KnownTo session.space.process) :
    session.released.memory.free.KnownTo session.space.process := by
  intro free hfree
  have hlist : free ∈ (session.memory.free.releaseAll session.space.process
      session.space.table.resident).frames.toList := Array.mem_toList_iff.2 hfree
  rw [FreeList.frames_releaseAll, List.mem_append, List.mem_map] at hlist
  obtain hold | ⟨pair, _, rfl⟩ := hlist
  · exact hknown free (Array.mem_toList_iff.1 hold)
  · exact FreeFrame.knownTo_stamped _ ⟨session.space.process, pair.1⟩

end Session

namespace Machine

variable {ρ : Type} [VictimPolicy ρ] {settings : Settings} {past : List (Machine ρ)}
  {machine : Machine ρ}

/-! ## The references of a turn -/

/-- The references of a turn are in order. -/
theorem pairwise_inOrder (hrunning : machine.turn.outcome ≠ .crash) :
    machine.references.Pairwise Reference.InOrder := by
  obtain hnone | ⟨_, _, _, _, _, _, hserved, hmade⟩ := references_cases hrunning
  · rw [hnone]
    exact List.Pairwise.nil
  · rw [hmade]
    exact Session.pairwise_inOrder_references (Session.referenceAll_ne_crash_of_search hserved)

/-- All references of a turn are made by the process at the front. -/
theorem Books.head?_eq (h : machine.Books settings past)
    (hrunning : machine.turn.outcome ≠ .crash) {reference : Reference}
    (hreference : reference ∈ machine.references) :
    machine.ready.head? = some reference.process := by
  obtain hnone | ⟨number, _, process, _, hready, hfound, hserved, hmade⟩ :=
    references_cases hrunning
  · rw [hnone] at hreference
    cases hreference
  · rw [hmade] at hreference
    have hprocess := Session.process_of_mem_references hreference
      (Session.referenceAll_ne_crash_of_search hserved)
    rw [hready, List.head?_cons, hprocess]
    exact congrArg some (h.sheet number process hfound).process_eq.symm

/-- A process falls back at most once in each of its turns. -/
theorem countP_fallback_madeBy_le {turns : List (Machine ρ)}
    (hrunning : ∀ turn ∈ turns, turn.turn.outcome ≠ .crash)
    (hmade : ∀ turn ∈ turns, ∀ reference ∈ turn.references,
      turn.ready.head? = some reference.process) (number : ProcessId) :
    (madeBy turns number).countP (·.Warm .fallback) ≤
      turns.countP (·.ready.head? = some number) := by
  induction turns with
  | nil => exact Nat.le_refl 0
  | cons turn turns ih =>
    obtain ⟨hfirst, hothers⟩ := List.forall_mem_cons.1 hrunning
    obtain ⟨hown, hmade⟩ := List.forall_mem_cons.1 hmade
    have hrest := ih hothers hmade
    have hsplit : madeBy (turn :: turns) number =
        turn.references.filter (·.process = number) ++ madeBy turns number := List.filter_append ..
    rw [hsplit, List.countP_append, List.countP_cons]
    by_cases hfront : turn.ready.head? = some number
    · have honce : (turn.references.filter (·.process = number)).countP (·.Warm .fallback) ≤ 1 :=
        Nat.le_trans (List.Sublist.countP_le List.filter_sublist)
          (Reference.countP_fallback_le (pairwise_inOrder hfirst))
      rw [if_pos (decide_eq_true hfront)]
      omega
    · have hnone : turn.references.filter (·.process = number) = [] := by
        rw [List.filter_eq_nil_iff]
        intro reference hreference hsame
        rw [decide_eq_true_eq] at hsame
        exact hfront (hsame ▸ hown reference hreference)
      rw [hnone, List.countP_nil, if_neg (by rwa [decide_eq_true_eq])]
      omega

/-! ## A single process -/

/-- Nobody else than the process has held a frame that is free in its sessions, if it is the only
one. -/
theorem Books.session_knownTo (h : machine.Books settings past)
    (hsingle : machine.processes.size ≤ 1) (hknown : machine.memory.free.KnownTo 0)
    {number : ProcessId} {process : UserProcess}
    (hfound : machine.processes[number]? = some process) :
    (machine.session process).space.process = 0 ∧
      (machine.session process).memory.free.KnownTo (machine.session process).space.process := by
  have hin := (Array.getElem?_eq_some_iff.1 hfound).1
  have hfirst : (machine.session process).space.process = 0 :=
    (h.sheet number process hfound).process_eq.trans
      (Nat.lt_one_iff.1 (Nat.lt_of_lt_of_le hin hsingle))
  rw [hfirst]
  exact ⟨rfl, hknown⟩

/-- The turns of a single process leave no frame that somebody else has held. -/
theorem Books.knownTo_turn (h : machine.Books settings past)
    (hsingle : machine.processes.size ≤ 1) (hknown : machine.memory.free.KnownTo 0)
    (hturn : Turn machine machine.turn) : machine.turn.state.memory.free.KnownTo 0 := by
  have hsearched {number : ProcessId} {process : UserProcess} {key : Nat}
      {outcome : Outcome PagingError Unit} {session : Session ρ} {events : List Event}
      (hfound : machine.processes[number]? = some process)
      (hsearch : (machine.session process).search process.arraySize key =
        ⟨outcome, session, events⟩) (hrunning : outcome ≠ .crash) :
      session.space.process = 0 ∧ session.memory.free.KnownTo 0 := by
    obtain ⟨hfirst, hfree⟩ := h.session_knownTo hsingle hknown hfound
    have hserved : ((machine.session process).search process.arraySize key).outcome ≠ .crash := by
      rw [hsearch]
      exact hrunning
    have hfixed := (Session.search_fixed hserved).2.1
    have hkept := (Session.search_knownTo hfree hserved).1
    rw [hsearch, hfirst] at hfixed hkept
    exact ⟨hfixed, hkept⟩
  generalize machine.turn = reply at hturn
  cases hturn with
  | idle => exact hknown
  | failed _ hfound _ hsearch => exact (hsearched hfound hsearch Outcome.error_ne_crash).2
  | requeued _ hfound _ hsearch => exact (hsearched hfound hsearch Outcome.ok_ne_crash).2
  | ended _ hfound _ hsearch =>
    obtain ⟨hfirst, hkept⟩ := hsearched hfound hsearch Outcome.ok_ne_crash
    rw [← hfirst] at hkept
    have hreleased := Session.knownTo_released hkept
    rw [hfirst] at hreleased
    exact hreleased
  | keyless _ hfound =>
    obtain ⟨hfirst, hfree⟩ := h.session_knownTo hsingle hknown hfound
    have hreleased := Session.knownTo_released hfree
    rw [hfirst] at hreleased
    exact hreleased

/-- A single process never falls back. -/
theorem Books.not_fallback (h : machine.Books settings past)
    (hsingle : machine.processes.size ≤ 1) (hknown : machine.memory.free.KnownTo 0)
    (hrunning : machine.turn.outcome ≠ .crash) {reference : Reference}
    (hreference : reference ∈ machine.references) : ¬ reference.Warm .fallback := by
  obtain hnone | ⟨_, _, process, _, _, hfound, hserved, hmade⟩ := references_cases hrunning
  · rw [hnone] at hreference
    cases hreference
  · rw [hmade] at hreference
    exact (Session.search_knownTo (h.session_knownTo hsingle hknown hfound).2 hserved).2
      reference hreference

/-- The books are in order, and if there is a single process, nobody else has held a free frame and
it has never fallen back. -/
structure Secluded (settings : Settings) (past : List (Machine ρ)) (machine : Machine ρ) :
    Prop where
  books : machine.Books settings past
  known : machine.processes.size ≤ 1 → machine.memory.free.KnownTo 0
  affine : machine.processes.size ≤ 1 → ∀ reference ∈ trace past, ¬ reference.Warm .fallback

theorem secluded_recorded (hvalid : settings.Valid) :
    Recorded fun past (later : Machine ρ) ↦ later.Secluded settings past where
  pinned_le := fun _ _ hlater ↦ hlater.books.pinned_le hvalid
  spawn := by
    intro past later arraySize keys reply hlater hspawn
    have hbooks := hlater.books.spawn hvalid hspawn
    cases hspawn with
    | refused => exact hlater
    | drained =>
      exact ⟨hbooks, fun hsingle free hfree ↦
        hlater.known hsingle free (FreeList.mem_of_mem_dropLast hfree), hlater.affine⟩
    | created =>
      have hsingle (hsize : (later.processes.push (later.newborn arraySize keys)).size ≤ 1) :
          later.processes.size ≤ 1 := by
        rw [Array.size_push] at hsize
        omega
      exact ⟨hbooks, fun hsize free hfree ↦
        hlater.known (hsingle hsize) free (FreeList.mem_of_mem_dropLast hfree),
        fun hsize ↦ hlater.affine (hsingle hsize)⟩
  turn := by
    intro past later hlater hturn
    have hsame := hturn.size_processes_eq
    refine ⟨hlater.books.turn hturn, ?_, ?_⟩
    · intro hsize
      rw [hsame] at hsize
      exact hlater.books.knownTo_turn hsize (hlater.known hsize) hturn
    · intro hsize reference hreference
      rw [hsame] at hsize
      rw [trace_concat, List.mem_append] at hreference
      obtain hold | hnew := hreference
      · exact hlater.affine hsize reference hold
      · exact hlater.books.not_fallback hsize (hlater.known hsize) hturn.ne_crash hnew

/-! ## After any calls -/

theorem secluded_create {policy : ρ} (hcreate : create settings policy = .ok machine) :
    settings.Valid ∧ machine.Secluded settings [] := by
  obtain ⟨hvalid, hbooks⟩ := books_create hcreate
  obtain ⟨_, rfl⟩ := create_eq_ok_iff.1 hcreate
  exact ⟨hvalid, hbooks, fun _ ↦ FreeList.knownTo_full _ _ _, fun _ ↦ nofun⟩

/-- A row of the report is what the references of its process come to. -/
theorem Books.row_eq (h : machine.Books settings past) {number : Nat} {row : Counters}
    (hrow : machine.report.processes[number]? = some row) :
    row = .ofReferences (madeBy past number) := by
  rw [h.report_processes, List.getElem?_map, Option.map_eq_some_iff] at hrow
  obtain ⟨found, hfound, rfl⟩ := hrow
  obtain ⟨_, rfl⟩ := List.getElem?_eq_some_iff.1 hfound
  rw [List.getElem_range]

/-- Whatever is asked of a machine, and whatever its policy answers, in every turn all cold misses
come before all warm misses, and at most one warm miss is served by the fallback rule, which then is
the first.  So no process has fallen back more often than it has had a turn, and if there has never
been more than one process, nobody has. -/
theorem fault_order_after {policy : ρ} {calls : List Call}
    (hcreate : create settings policy = .ok machine) (hendures : machine.Endures calls) :
    (∀ before ∈ machine.turnsTaken calls,
      before.references.Pairwise (fun earlier later ↦
        (∃ affinity, earlier.Warm affinity) → ¬ later.Cold ∧ ¬ later.Warm .fallback) ∧
      before.references.countP (·.Warm .fallback) ≤ 1) ∧
    (∀ number row, (machine.after calls).report.processes[number]? = some row →
      row.attempts.fallback ≤
        (machine.turnsTaken calls).countP (·.ready.head? = some number)) ∧
    ((machine.after calls).processes.size ≤ 1 →
      ∀ row ∈ (machine.after calls).report.total :: (machine.after calls).report.processes,
        row.attempts.fallback = 0) := by
  obtain ⟨hvalid, hcreated⟩ := secluded_create hcreate
  have hsecluded := (secluded_recorded hvalid).after hcreated hendures
  rw [List.nil_append] at hsecluded
  have hbooks := hsecluded.books
  have hrunning : ∀ turn ∈ machine.turnsTaken calls, turn.turn.outcome ≠ .crash :=
    fun turn hturn ↦ (hbooks.turns turn hturn).ne_crash
  have hmade : ∀ turn ∈ machine.turnsTaken calls, ∀ reference ∈ turn.references,
      turn.ready.head? = some reference.process := by
    intro turn hturn reference hreference
    obtain ⟨earlier, later, hsplit⟩ := List.append_of_mem hturn
    have hbefore := ((books_recorded hvalid).turnsTaken hcreated.books hendures hsplit).1
    exact hbefore.head?_eq (hrunning turn hturn) hreference
  refine ⟨?_, ?_, ?_⟩
  · intro before hbefore
    have horder := pairwise_inOrder (hrunning before hbefore)
    exact ⟨horder, Reference.countP_fallback_le horder⟩
  · intro number row hrow
    rw [hbooks.row_eq hrow]
    exact countP_fallback_madeBy_le hrunning hmade number
  · intro hsingle row hrow
    have hnever : (trace (machine.turnsTaken calls)).countP (·.Warm .fallback) = 0 := by
      rw [List.countP_eq_zero]
      intro reference hreference
      rw [decide_eq_true_eq]
      exact hsecluded.affine hsingle reference hreference
    obtain rfl | hrow := List.mem_cons.1 hrow
    · have htotal : (machine.after calls).report.total =
          .ofReferences (trace (machine.turnsTaken calls)) := hbooks.ledger
      rw [htotal]
      exact hnever
    · obtain ⟨number, hnumber⟩ := List.mem_iff_getElem?.1 hrow
      rw [hbooks.row_eq hnumber]
      exact Nat.eq_zero_of_le_zero
        (Nat.le_trans (List.Sublist.countP_le List.filter_sublist) (Nat.le_of_eq hnever))

/-- Frames for the pinned pages of two processes, for one more page of each, and one in reserve. -/
def contended : Settings where
  pageSize := 16
  userFrames := 5
  tableEntries := 9
  essentialPages := 1
  reserve := 1
  fallback := .mostRecent

/-- The machine with these settings, before any call. -/
def unclaimed : Machine Aging where
  memory := { settings := contended, free := .full 5 .mostRecent, policy := .mk }

/-- In its second turn the first process finds the frame that the second one has just left. -/
def tussle : List Call := [.spawn 8 #[0, 7, 0], .spawn 8 #[7, 0], .turn, .turn, .turn]

theorem fault_order_after_contended :
    create contended Aging.mk = .ok unclaimed ∧ unclaimed.Endures tussle ∧
      (∀ before ∈ unclaimed.turnsTaken tussle,
        before.references.Pairwise (fun earlier later ↦
          (∃ affinity, earlier.Warm affinity) → ¬ later.Cold ∧ ¬ later.Warm .fallback) ∧
        before.references.countP (·.Warm .fallback) ≤ 1) ∧
      ∃ row, (unclaimed.after tussle).report.processes[0]? = some row ∧
        row.attempts.fallback = 1 ∧
        row.attempts.fallback ≤
          (unclaimed.turnsTaken tussle).countP (·.ready.head? = some 0) := by
  have hcreate : create contended Aging.mk = .ok unclaimed := rfl
  have hendures : unclaimed.Endures tussle := by decide +kernel
  obtain ⟨horder, hturns, _⟩ := fault_order_after hcreate hendures
  have hfallback : ((unclaimed.after tussle).report.processes[0]?).map (·.attempts.fallback) =
      some 1 := by
    decide +kernel
  obtain ⟨row, hrow, hone⟩ := Option.map_eq_some_iff.1 hfallback
  exact ⟨hcreate, hendures, horder, row, hrow, hone, hturns 0 row hrow⟩

end Machine

end PagedMemory
