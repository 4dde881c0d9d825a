import PagedMemory.Proofs.Books

/-!
# What the reserve is for

A fault takes a frame from the free list only while more frames are free than are kept in reserve.
Otherwise the process has to give up a page, and the list gets a frame back for the one that it
gives.  So turns never bring the list below the reserve: as long as nobody is created, at least as
many frames are free as in the beginning, or as are kept in reserve, whichever is less.

This is so wherever a machine is between two references, also in a turn that fails.  Only inside a
replacement the list is shorter by one for a moment, when the incoming page has its frame and the
victim's frame is not back yet.

`Machine.reserve_after` says so for every machine that any calls can lead to.  It also says that
replacements are counted in references that find no more free frames than are kept in reserve, and
nowhere else, and that a reserve as large as the pinned part of a table saves frames for the next
process.
-/

namespace PagedMemory

variable {ρ : Type}

/-- A memory with these settings has at least so many free frames. -/
structure Memory.Backed (settings : Settings) (floor : Nat) (memory : Memory ρ) : Prop where
  settings_eq : memory.settings = settings
  floor_le : floor ≤ memory.free.size

/-- The reference was served by a replacement. -/
def Reference.Replaced (reference : Reference) : Prop := ∃ affinity, reference.Warm affinity

instance (reference : Reference) : Decidable reference.Replaced :=
  match houtcome : reference.outcome with
  | .ok (.warmMiss affinity) => isTrue ⟨affinity, houtcome⟩
  | .ok .hit | .ok .coldMiss | .error _ | .crash =>
    isFalse fun ⟨_, hwarm⟩ ↦ nomatch houtcome.symm.trans hwarm

variable [VictimPolicy ρ] {settings : Settings} {floor : Nat}

/-- The reference makes the number of replacements grow, that of its process or that of the machine.
-/
def Probe.Replaces (probe : Probe ρ) : Prop :=
  probe.session.space.counters.replacements < probe.reply.state.space.counters.replacements ∨
    probe.session.memory.counters.replacements < probe.reply.state.memory.counters.replacements

instance (probe : Probe ρ) : Decidable probe.Replaces :=
  inferInstanceAs (Decidable (_ ∨ _))

/-! ## References -/

namespace Session

variable {session : Session ρ} {page : Nat} {reply : Answer (Session ρ) Access}

/-- A reference takes no frame from the reserve. -/
theorem Touch.backed (h : Touch session page reply) (hfloor : floor ≤ settings.reserve)
    (hstart : session.memory.Backed settings floor) : reply.state.memory.Backed settings floor := by
  refine ⟨h.settings_eq.trans hstart.settings_eq, ?_⟩
  have henough := hstart.floor_le
  cases h with
  | hit | noVictim | framelessVictim => exact henough
  | coldMiss _ hroomy hpop =>
    have hsize := FreeList.size_of_pop?_eq_some hpop
    rw [hstart.settings_eq] at hroomy
    rw [free_settle]
    omega
  | warmMiss _ _ _ _ _ hexchange =>
    rw [free_settle, FreeList.size_of_exchange?_eq_some hexchange]
    exact henough

/-- A replacement is made only if no more frames are free than are kept in reserve. -/
theorem Touch.short_of_replaced (h : Touch session page reply)
    (hreplaced : ∃ affinity, reply.outcome = .ok (.warmMiss affinity)) :
    session.memory.free.size ≤ session.memory.settings.reserve := by
  obtain ⟨affinity, hwarm⟩ := hreplaced
  cases h with
  | hit | coldMiss => cases hwarm
  | noVictim | framelessVictim => cases hwarm
  | warmMiss _ hshort => exact hshort

end Session

/-! ## Counting replacements -/

/-- A reference that is served by a replacement is charged as one, and no other is. -/
theorem Counters.replacements_charged (counters : Counters) (reference : Reference) :
    (counters.charged reference.outcome).replacements =
      counters.replacements + if reference.Replaced then 1 else 0 := by
  obtain ⟨process, page, outcome⟩ := reference
  cases outcome with
  | ok access =>
    cases access with
    | hit | coldMiss => rw [if_neg nofun]; rfl
    | warmMiss affinity => rw [if_pos ⟨affinity, rfl⟩]; rfl
  | error reason => rw [if_neg nofun]; rfl
  | crash => rw [if_neg nofun]; rfl

theorem Counters.replacements_append (past more : List Reference) :
    (ofReferences (past ++ more)).replacements =
      (ofReferences past).replacements + more.countP (·.Replaced) := by
  induction more using List.reverseRecOn with
  | nil => simp
  | append_singleton more reference ih =>
    rw [← List.append_assoc, ofReferences_concat, replacements_charged, ih, List.countP_append,
      List.countP_singleton, Nat.add_assoc]
    simp only [decide_eq_true_eq]

/-- The number of replacements grows exactly in the references that are served by one. -/
theorem Probe.replaces_iff {probe : Probe ρ} (hserved : probe.reply.outcome ≠ .crash) :
    probe.Replaces ↔ probe.reference.Replaced := by
  have htouch : Session.Touch probe.session probe.page probe.reply :=
    Session.touch_reference hserved
  have houtcome : probe.reply.outcome = probe.reference.outcome := rfl
  have hown := probe.session.space.counters.replacements_charged probe.reference
  have hall := probe.session.memory.counters.replacements_charged probe.reference
  unfold Replaces
  rw [htouch.charged.1, htouch.charged.2, houtcome, hown, hall]
  split <;> simp_all

/-- The reference does not crash, and finds so many free frames. -/
structure Probe.Backed (settings : Settings) (floor : Nat) (probe : Probe ρ) : Prop where
  served : probe.reply.outcome ≠ .crash
  before : probe.session.memory.Backed settings floor

theorem Probe.Backed.after {probe : Probe ρ} (h : probe.Backed settings floor)
    (hfloor : floor ≤ settings.reserve) : probe.reply.state.memory.Backed settings floor :=
  (Session.touch_reference h.served).backed hfloor h.before

/-- The number of replacements grows only if no more frames are free than are kept in reserve. -/
theorem Probe.Backed.short_of_replaces {probe : Probe ρ} (h : probe.Backed settings floor)
    (hreplaces : probe.Replaces) : probe.session.memory.free.size ≤ settings.reserve := by
  rw [← h.before.settings_eq]
  exact (Session.touch_reference h.served).short_of_replaced ((replaces_iff h.served).1 hreplaces)

namespace Session

variable {session : Session ρ}

/-- A search takes no frame from the reserve, at none of its references. -/
theorem backed_search (hfloor : floor ≤ settings.reserve)
    (hstart : session.memory.Backed settings floor) {arraySize key : Nat}
    (hrunning : (session.search arraySize key).outcome ≠ .crash) :
    (session.search arraySize key).state.memory.Backed settings floor ∧
      ∀ probe ∈ session.probes (Search.pages session.memory.settings arraySize key),
        probe.Backed settings floor := by
  have hnone : ∀ probe ∈ ([] : List (Probe ρ)), probe.Backed settings floor := nofun
  refine search_follows (fun probes later ↦ later.memory.Backed settings floor ∧
    ∀ probe ∈ probes, probe.Backed settings floor) ?_ ?_ ⟨hstart, hnone⟩ hrunning
  · rintro probes later page _ ⟨hlater, hprobes⟩ hserved
    have hprobe : Probe.Backed settings floor ⟨later, page⟩ := ⟨hserved, hlater⟩
    exact ⟨hprobe.after hfloor,
      List.forall_mem_append.2 ⟨hprobes, List.forall_mem_singleton.2 hprobe⟩⟩
  · exact fun _ _ hlater ↦ hlater

omit [VictimPolicy ρ] in
/-- A process that leaves makes the list longer. -/
theorem backed_released (hstart : session.memory.Backed settings floor) :
    session.released.memory.Backed settings floor := by
  have hsize := session.size_free_released
  have henough := hstart.floor_le
  exact ⟨hstart.settings_eq, by omega⟩

end Session

/-! ## Turns -/

namespace Machine

variable {machine : Machine ρ} {past : List (Machine ρ)}

/-- So many frames are free before and after the turn that the machine is about to take, and at each
of its references. -/
structure TurnBacked (settings : Settings) (floor : Nat) (machine : Machine ρ) : Prop where
  before : machine.memory.Backed settings floor
  after : machine.turn.state.memory.Backed settings floor
  probes : ∀ probe ∈ machine.probes, probe.Backed settings floor

/-- A turn takes no frame from the reserve. -/
theorem Turn.backed (hturn : Turn machine machine.turn) (hfloor : floor ≤ settings.reserve)
    (hstart : machine.memory.Backed settings floor) : machine.TurnBacked settings floor := by
  have hsearched {process : UserProcess} {key : Nat} {outcome : Outcome PagingError Unit}
      {session : Session ρ} {events : List Event}
      (hsearch : (machine.session process).search process.arraySize key =
        ⟨outcome, session, events⟩) (hrunning : outcome ≠ .crash) :
      session.memory.Backed settings floor ∧ ∀ probe ∈ (machine.session process).probes
        (Search.pages machine.memory.settings process.arraySize key),
        probe.Backed settings floor := by
    have hbacked := Session.backed_search hfloor hstart (by rw [hsearch]; exact hrunning)
    rw [hsearch] at hbacked
    exact hbacked
  suffices hboth : machine.turn.state.memory.Backed settings floor ∧
      ∀ probe ∈ machine.probes, probe.Backed settings floor from ⟨hstart, hboth.1, hboth.2⟩
  generalize machine.turn = reply at hturn
  cases hturn with
  | idle hready =>
    rw [probes_of_idle hready]
    exact ⟨hstart, nofun⟩
  | failed hready hfound hkey hsearch =>
    rw [probes_of_key hready hfound hkey]
    exact hsearched hsearch nofun
  | requeued hready hfound hkey hsearch =>
    rw [probes_of_key hready hfound hkey]
    exact hsearched hsearch nofun
  | ended hready hfound hkey hsearch =>
    rw [probes_of_key hready hfound hkey]
    obtain ⟨hend, hprobes⟩ := hsearched hsearch nofun
    exact ⟨Session.backed_released hend, hprobes⟩
  | @keyless _ _ process hready hfound hkey =>
    rw [probes_of_keyless hready hfound hkey]
    have hsession : (machine.session process).memory.Backed settings floor := hstart
    exact ⟨Session.backed_released hsession, nofun⟩

/-- As long as nobody is created, no frame is taken from the reserve. -/
theorem backed_after_quiet (hfloor : floor ≤ settings.reserve)
    (hstart : machine.memory.Backed settings floor) {calls : List Call}
    (hquiet : ∀ call ∈ calls, call.Quiet) (hendures : machine.Endures calls) :
    (machine.after calls).memory.Backed settings floor ∧
      ∀ turn ∈ machine.turnsTaken calls, turn.TurnBacked settings floor := by
  have hnone : ∀ turn ∈ ([] : List (Machine ρ)), turn.TurnBacked settings floor := nofun
  refine after_records (fun past later ↦ later.memory.Backed settings floor ∧
    ∀ turn ∈ past, turn.TurnBacked settings floor) ?_ ?_ ⟨hstart, hnone⟩ hendures
  · rintro past later ⟨hlater, hpast⟩ hturn
    have hbacked := hturn.backed hfloor hlater
    exact ⟨hbacked.after,
      List.forall_mem_append.2 ⟨hpast, List.forall_mem_singleton.2 hbacked⟩⟩
  · exact fun _ _ _ _ hspawn ↦ (hquiet _ hspawn).elim

/-! ## The replacements of several turns -/

theorem countP_replaces {probes : List (Probe ρ)}
    (hserved : ∀ probe ∈ probes, probe.reply.outcome ≠ .crash) :
    (probes.map (·.reference)).countP (·.Replaced) = probes.countP (·.Replaces) := by
  rw [List.countP_map]
  refine List.countP_congr fun probe hprobe ↦ ?_
  rw [Function.comp_apply, decide_eq_true_iff, decide_eq_true_iff]
  exact (Probe.replaces_iff (hserved probe hprobe)).symm

theorem trace_eq_map (turns : List (Machine ρ)) :
    trace turns = (turns.flatMap probes).map (·.reference) := by
  unfold trace
  rw [List.map_flatMap]
  exact congrArg turns.flatMap (funext references_eq_map)

theorem madeBy_eq_map (turns : List (Machine ρ)) (number : ProcessId) :
    madeBy turns number = ((turns.flatMap probes).filter
      (·.session.space.process = number)).map (·.reference) := by
  unfold madeBy
  rw [trace_eq_map, List.filter_map]
  rfl

/-- In several turns the numbers of replacements grow by one in each reference that makes them grow,
and in nothing else. -/
theorem Books.replacements_eq (h : machine.Books settings past) {left : Machine ρ}
    {turns : List (Machine ρ)} (hend : left.Books settings (past ++ turns))
    (hserved : ∀ probe ∈ turns.flatMap probes, probe.reply.outcome ≠ .crash) :
    left.memory.counters.replacements =
        machine.memory.counters.replacements + (turns.flatMap probes).countP (·.Replaces) ∧
      ∀ number before after, machine.processes[number]? = some before →
        left.processes[number]? = some after →
        after.space.counters.replacements = before.space.counters.replacements +
          ((turns.flatMap probes).filter (·.session.space.process = number)).countP
            (·.Replaces) := by
  constructor
  · rw [hend.ledger, h.ledger, trace_append, Counters.replacements_append, trace_eq_map turns,
      countP_replaces hserved]
  · intro number before after hbefore hafter
    rw [(hend.sheet number after hafter).counters_eq, (h.sheet number before hbefore).counters_eq,
      madeBy_append, Counters.replacements_append, madeBy_eq_map turns,
      countP_replaces fun probe hprobe ↦ hserved probe (List.mem_filter.1 hprobe).1]

/-- A spawn that finds frames enough does not run out of frames. -/
theorem Books.spawn_ne_outOfFrames (h : machine.Books settings past) (hvalid : settings.Valid)
    (hfree : settings.essentialPages ≤ machine.memory.free.size) (arraySize : Nat)
    (keys : Array Nat) (number : ProcessId) :
    (machine.spawn arraySize keys).outcome ≠ .error (.outOfFrames number) := by
  intro hfailed
  have hspawn := spawn_cases (h.pinned_le hvalid)
    (by rw [hfailed]; exact nofun : (machine.spawn arraySize keys).outcome ≠ .crash)
  generalize machine.spawn arraySize keys = reply at hspawn hfailed
  cases hspawn with
  | refused | created => cases hfailed
  | drained _ hscarce =>
    rw [h.settings_eq] at hscarce
    exact Nat.not_le_of_lt hscarce hfree

/-- Whatever has been asked of a machine, and whatever its policy answers: as long as nobody is
created, at least as many frames are free as now, or as are kept in reserve, whichever is less,
before and after every turn and every reference.  The numbers of replacements grow by one in each
reference that replaces a page, and in nothing else, and such a reference finds no more free frames
than are kept in reserve.  If the reserve and the list are large enough for the pinned pages of a
process now, the next spawn does not run out of frames. -/
theorem reserve_after {policy : ρ} {calls further : List Call} {later : Machine ρ}
    (hcreate : create settings policy = .ok machine) (hendures : machine.Endures calls)
    (hlater : machine.after calls = later) (hquiet : ∀ call ∈ further, call.Quiet)
    (hbears : later.Endures further) :
    let floor := min later.memory.free.size settings.reserve
    let probed := (later.turnsTaken further).flatMap probes
    let left := later.after further
    floor ≤ left.memory.free.size ∧
    (∀ turn ∈ later.turnsTaken further,
      floor ≤ turn.memory.free.size ∧ floor ≤ turn.turn.state.memory.free.size ∧
      ∀ probe ∈ turn.probes, floor ≤ probe.session.memory.free.size ∧
        floor ≤ probe.reply.state.memory.free.size ∧
        (probe.Replaces → probe.session.memory.free.size ≤ settings.reserve)) ∧
    left.memory.counters.replacements =
      later.memory.counters.replacements + probed.countP (·.Replaces) ∧
    (∀ number before after, later.processes[number]? = some before →
      left.processes[number]? = some after →
      after.space.counters.replacements = before.space.counters.replacements +
        (probed.filter (·.session.space.process = number)).countP (·.Replaces)) ∧
    (settings.essentialPages ≤ settings.reserve →
      settings.essentialPages ≤ later.memory.free.size → ∀ arraySize keys number,
        (left.spawn arraySize keys).outcome ≠ .error (.outOfFrames number)) := by
  intro floor probed left
  obtain ⟨hvalid, hcreated⟩ := books_create hcreate
  have hbooks := hcreated.after hvalid hendures
  rw [hlater] at hbooks
  have hend : left.Books settings (machine.turnsTaken calls ++ later.turnsTaken further) :=
    (books_recorded hvalid).after hbooks hbears
  have hfloor : floor ≤ settings.reserve := Nat.min_le_right _ _
  have hstart : later.memory.Backed settings floor := ⟨hbooks.settings_eq, Nat.min_le_left _ _⟩
  obtain ⟨hleft, hturns⟩ := backed_after_quiet hfloor hstart hquiet hbears
  have hserved : ∀ probe ∈ probed, probe.reply.outcome ≠ .crash := by
    intro probe hprobe
    obtain ⟨turn, hturn, hmem⟩ := List.mem_flatMap.1 hprobe
    exact ((hturns turn hturn).probes probe hmem).served
  obtain ⟨hshared, hown⟩ := hbooks.replacements_eq hend hserved
  refine ⟨hleft.floor_le, ?_, hshared, hown, ?_⟩
  · intro turn hturn
    obtain ⟨hbefore, hafter, hprobes⟩ := hturns turn hturn
    refine ⟨hbefore.floor_le, hafter.floor_le, fun probe hprobe ↦ ?_⟩
    have hbacked := hprobes probe hprobe
    exact ⟨hbacked.before.floor_le, (hbacked.after hfloor).floor_le, hbacked.short_of_replaces⟩
  · intro hlarge henough arraySize keys number
    have hfree : settings.essentialPages ≤ left.memory.free.size :=
      Nat.le_trans (Nat.le_min.2 ⟨henough, hlarge⟩) hleft.floor_le
    exact hend.spawn_ne_outOfFrames hvalid hfree arraySize keys number

/-- Two processes are there, and have not begun. -/
def filled : Machine Aging := untried.after (rush.take 2)

/-- The first process replaces pages, the second fails, and the first ends. -/
def onward : List Call := [.turn, .turn, .run]

theorem reserve_after_strained :
    create strained Aging.mk = .ok untried ∧ untried.Endures (rush.take 2) ∧
      (∀ call ∈ onward, call.Quiet) ∧ filled.Endures onward ∧
      filled.memory.free.size = 2 ∧
      (∀ turn ∈ filled.turnsTaken onward, ∀ probe ∈ turn.probes,
        1 ≤ probe.session.memory.free.size ∧
          (probe.Replaces → probe.session.memory.free.size ≤ 1)) ∧
      (filled.after onward).memory.counters.replacements = 5 ∧
      ((filled.turnsTaken onward).flatMap probes).countP (·.Replaces) = 5 ∧
      ∀ arraySize keys number,
        ((filled.after onward).spawn arraySize keys).outcome ≠ .error (.outOfFrames number) := by
  have hcreate : create strained Aging.mk = .ok untried := rfl
  have hendures : untried.Endures (rush.take 2) := by decide +kernel
  have hlater : untried.after (rush.take 2) = filled := rfl
  have hquiet : ∀ call ∈ onward, call.Quiet := by decide
  have hbears : filled.Endures onward := by decide +kernel
  have hsize : filled.memory.free.size = 2 := by decide +kernel
  have hnone : filled.memory.counters.replacements = 0 := by decide +kernel
  have hfive : (filled.after onward).memory.counters.replacements = 5 := by decide +kernel
  obtain ⟨_, hturns, hcount, _, hspawn⟩ := reserve_after hcreate hendures hlater hquiet hbears
  refine ⟨hcreate, hendures, hquiet, hbears, hsize, ?_, hfive, ?_, ?_⟩
  · intro turn hturn probe hprobe
    have hfloor : 1 ≤ min filled.memory.free.size strained.reserve := by
      rw [hsize]
      decide
    obtain ⟨hbefore, _, hshort⟩ := (hturns turn hturn).2.2 probe hprobe
    exact ⟨Nat.le_trans hfloor hbefore, hshort⟩
  · rw [hfive, hnone, Nat.zero_add] at hcount
    exact hcount.symm
  · exact hspawn (by decide) (by rw [hsize]; decide)

end Machine

end PagedMemory
