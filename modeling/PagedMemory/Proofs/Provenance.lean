import Mathlib.Data.List.Pairwise
import PagedMemory.Proofs.Reuse

/-!
# Stamps tell the truth

A free frame carries a stamp, the process and the page that held it last, or none if nobody ever
did.  The selection of frames goes by the stamps alone and nothing compares them with what happened,
so a wrong stamp would never be noticed.  Here what happened is written down: `Machine.brought`
lists the mappings that a request makes, read off the page tables before and after it, those into
the table of a process that fails to be created among them, and `Machine.chronicle` the mappings of
a sequence of requests in order.

Frames are held once, so a request can be looked at from outside: what is mapped after it was mapped
before or has just been brought in, and what is free after it was free before or has just been given
up.  By `Machine.Stamped.move` no more is needed for the stamps to stay in step with the chronicle,
in whatever order a request stamps, selects and maps.  `Machine.provenance_after` is the result for
all sequences of requests.
-/

namespace PagedMemory

/-- A page of a process was brought into a frame. -/
structure Mapping where
  holder : Holder
  frame : FrameNumber
deriving DecidableEq

namespace Mapping

/-- The entries of a later table of a process that an earlier one does not have. -/
def between (process : ProcessId) (earlier later : PageTable) : List Mapping :=
  (later.resident.filter (· ∉ earlier.resident)).map fun (page, frame) ↦ ⟨⟨process, page⟩, frame⟩

theorem mem_between_iff {process : ProcessId} {earlier later : PageTable} {mapping : Mapping} :
    mapping ∈ between process earlier later ↔
      mapping.holder.process = process ∧
        (mapping.holder.page, mapping.frame) ∈ later.resident ∧
        (mapping.holder.page, mapping.frame) ∉ earlier.resident := by
  obtain ⟨⟨owner, page⟩, frame⟩ := mapping
  simp only [between, List.mem_map, List.mem_filter, decide_eq_true_eq, Prod.exists, mk.injEq,
    Holder.mk.injEq]
  constructor
  · rintro ⟨_, _, hentry, ⟨rfl, rfl⟩, rfl⟩
    exact ⟨rfl, hentry⟩
  · rintro ⟨rfl, hentry⟩
    exact ⟨page, frame, hentry, ⟨rfl, rfl⟩, rfl⟩

/-- The latest of these mappings that is about the frame brought this page in. -/
def Latest (history : List Mapping) (frame : FrameNumber) (holder : Holder) : Prop :=
  ∃ earlier later, history = earlier ++ ⟨holder, frame⟩ :: later ∧
    ∀ mapping ∈ later, mapping.frame ≠ frame

/-- The page that was brought into the frame by the latest of these mappings, if by any. -/
def latestHolder? (history : List Mapping) (frame : FrameNumber) : Option Holder :=
  (history.reverse.find? (·.frame = frame)).map (·.holder)

theorem latestHolder?_append (past new : List Mapping) (frame : FrameNumber) :
    latestHolder? (past ++ new) frame =
      (latestHolder? new frame).or (latestHolder? past frame) := by
  unfold latestHolder?
  rw [List.reverse_append, List.find?_append, Option.map_or]

theorem latestHolder?_eq_none_iff {history : List Mapping} {frame : FrameNumber} :
    latestHolder? history frame = none ↔ ∀ mapping ∈ history, mapping.frame ≠ frame := by
  simp [latestHolder?]

theorem latestHolder?_eq_some_iff {history : List Mapping} {frame : FrameNumber}
    {holder : Holder} :
    latestHolder? history frame = some holder ↔ Latest history frame holder := by
  unfold latestHolder? Latest
  simp only [Option.map_eq_some_iff, List.find?_eq_some_iff_append, decide_eq_true_eq]
  constructor
  · rintro ⟨⟨_, _⟩, ⟨rfl, later, earlier, hsplit, hlater⟩, rfl⟩
    refine ⟨earlier.reverse, later.reverse, ?_, ?_⟩
    · rw [← List.reverse_reverse history, hsplit]
      simp
    · intro mapping hmapping
      simpa using hlater mapping (List.mem_reverse.1 hmapping)
  · rintro ⟨earlier, later, rfl, hlater⟩
    refine ⟨⟨holder, frame⟩, ⟨rfl, later.reverse, earlier.reverse, by simp, ?_⟩, rfl⟩
    intro mapping hmapping
    simpa using hlater mapping (List.mem_reverse.1 hmapping)

end Mapping

open Mapping (latestHolder?)

namespace Machine

variable {ρ : Type}

/-! ## Who holds a frame -/

section

variable {settings : Settings} {machine : Machine ρ} {lost : List FrameNumber}
  {left right : Holder} {frame : FrameNumber}

/-- A frame is held by one page of one process. -/
theorem Accounts.holder_unique (h : machine.Accounts settings lost) (hvalid : settings.Valid)
    (hleft : machine.Holds left frame) (hright : machine.Holds right frame) : left = right := by
  obtain ⟨process, hprocess, hnumber, hentry⟩ := hleft
  obtain ⟨process', hprocess', hnumber', hentry'⟩ := hright
  have hall := h.complete.nodup_iff.2 (Settings.nodup_allFrames hvalid)
  have hmapped : machine.mappedFrames.Nodup := hall.of_append_left.of_append_left
  obtain ⟨hinside, hapart⟩ := List.nodup_flatMap.1 hmapped
  have hsame : process = process' := by
    by_contra hother
    have hsymm : Std.Symm (Function.onFun List.Disjoint fun process : UserProcess ↦
        process.space.table.resident.map (·.2)) :=
      ⟨fun _ _ hdisjoint _ hleft hright ↦ hdisjoint hright hleft⟩
    have hdisjoint := hapart.forall hprocess hprocess' hother
    exact hdisjoint (List.mem_map.2 ⟨_, hentry, rfl⟩) (List.mem_map.2 ⟨_, hentry', rfl⟩)
  subst hsame
  have hpair := List.inj_on_of_nodup_map (hinside process hprocess) hentry hentry' rfl
  obtain ⟨owner, page⟩ := left
  obtain ⟨owner', page'⟩ := right
  cases hpair
  exact congrArg (Holder.mk · page) (hnumber.symm.trans hnumber')

end

/-! ## The chronicle of mappings -/

variable [VictimPolicy ρ]

/-- The mappings that a request makes, also those of a process that fails to be created. -/
def brought (machine : Machine ρ) (request : Request) : List Mapping :=
  match request with
  | .create process arraySize _ =>
    if Memory.arrayFits? machine.memory.settings arraySize = some true then
      let session : Session ρ := ⟨machine.memory,
        { process := process, table := .blank machine.memory.settings.tableEntries }⟩
      Mapping.between process session.space.table session.loadEssential.state.space.table
    else
      []
  | .reference position _ | .release position =>
    match machine.processes[position]?, (machine.handle request).state.processes[position]? with
    | some process, some process' =>
      Mapping.between process.space.process process.space.table process'.space.table
    | _, _ => []

/-- The mappings that a sequence of requests makes, in order. -/
def chronicle (machine : Machine ρ) : List Request → List Mapping
  | [] => []
  | request :: requests =>
    machine.brought request ++ (machine.handle request).state.chronicle requests

/-! ## Stamps and mappings after a request -/

/-- The stamps of the free frames and the mappings in the tables are what these mappings, made in
this order, have led to. -/
structure Stamped (history : List Mapping) (machine : Machine ρ) : Prop where
  free : ∀ free ∈ machine.memory.free.frames, free.last = latestHolder? history free.frame
  mapped : ∀ holder frame, machine.Holds holder frame → latestHolder? history frame = some holder

section

variable {settings : Settings} {machine : Machine ρ} {lost : List FrameNumber}
  {history : List Mapping} {request : Request}

omit [VictimPolicy ρ] in
theorem stamped_create {policy : ρ} (hcreate : create settings policy = .ok machine) :
    machine.Stamped [] := by
  obtain ⟨_, rfl⟩ := create_eq_ok_iff.1 hcreate
  constructor
  · intro free hfree
    obtain ⟨_, rfl⟩ := Array.mem_ofFn.1 hfree
    rfl
  · rintro holder frame ⟨process, hprocess, _⟩
    cases hprocess

/-- The stamps stay true in a request if every page that holds a frame held it before or has just
been brought in. -/
theorem Stamped.move (h : machine.Stamped history) (haccounts : machine.Accounts settings lost)
    (hvalid : settings.Valid) {reply : Answer (Machine ρ) Service}
    (hhandling : Handling machine request reply) {new : List Mapping}
    (hnew : ∀ mapping ∈ new, mapping.frame ∈ reply.state.heldFrames →
      reply.state.Holds mapping.holder mapping.frame)
    (hmapped : ∀ holder frame, reply.state.Holds holder frame →
      ⟨holder, frame⟩ ∈ new ∨ machine.Holds holder frame) :
    reply.state.Stamped (history ++ new) := by
  have hlater := haccounts.handling hvalid hhandling
  constructor
  · intro free hfreed
    obtain ⟨hunmapped, _⟩ := hlater.free_unique hvalid hfreed
    have hheld : free.frame ∈ reply.state.heldFrames :=
      List.mem_append_right _ (List.mem_map_of_mem (Array.mem_toList_iff.2 hfreed))
    have hnone : latestHolder? new free.frame = none := by
      rw [Mapping.latestHolder?_eq_none_iff]
      intro mapping hmapping hsame
      rw [← hsame] at hheld hunmapped
      exact hunmapped (hnew mapping hmapping hheld).mem_mappedFrames
    rw [Mapping.latestHolder?_append, hnone, Option.none_or]
    obtain hbefore | ⟨holder, hholds, hstamp⟩ := hhandling.mem_free hfreed
    · exact h.free free hbefore
    · rw [hstamp, h.mapped holder free.frame hholds]
  · intro holder frame hholds
    have hheld : frame ∈ reply.state.heldFrames := List.mem_append_left _ hholds.mem_mappedFrames
    have hall : ∀ mapping ∈ new, mapping.frame = frame → mapping.holder = holder := by
      rintro mapping hmapping rfl
      exact hlater.holder_unique hvalid (hnew mapping hmapping hheld) hholds
    rw [Mapping.latestHolder?_append]
    cases hlatest : latestHolder? new frame with
    | none =>
      obtain hin | hbefore := hmapped holder frame hholds
      · exact absurd rfl (Mapping.latestHolder?_eq_none_iff.1 hlatest _ hin)
      · rw [Option.none_or]
        exact h.mapped holder frame hbefore
    | some other =>
      obtain ⟨earlier, behind, rfl, _⟩ := Mapping.latestHolder?_eq_some_iff.1 hlatest
      have hsame := hall ⟨other, frame⟩ (List.mem_append_right _ List.mem_cons_self) rfl
      rw [Option.some_or]
      exact congrArg some hsame

/-! ## What a request brings in -/

section

variable {position : Nat} {process : UserProcess} {session : Session ρ}

omit [VictimPolicy ρ] in
/-- What is mapped after a process has worked was mapped before or has been brought in. -/
theorem between_or_of_holds_resume (hfound : machine.processes[position]? = some process)
    (hprocess : session.space.process = process.space.process) {holder : Holder}
    {frame : FrameNumber}
    (hholds : (machine.resume session position process machine.ready).Holds holder frame) :
    ⟨holder, frame⟩ ∈
        Mapping.between process.space.process process.space.table session.space.table ∨
      machine.Holds holder frame := by
  obtain ⟨other, hother, hnumber, hentry⟩ := hholds
  obtain hkept | rfl := Array.mem_or_eq_of_mem_setIfInBounds (Array.mem_toList_iff.1 hother)
  · exact .inr ⟨other, Array.mem_toList_iff.2 hkept, hnumber, hentry⟩
  · have hsame : process.space.process = holder.process := hprocess.symm.trans hnumber
    by_cases hbefore : (holder.page, frame) ∈ process.space.table.resident
    · have hin := Array.mem_toList_iff.2 (Array.mem_of_getElem? hfound)
      exact .inr ⟨process, hin, hsame, hbefore⟩
    · exact .inl (Mapping.mem_between_iff.2 ⟨hsame.symm, hentry, hbefore⟩)

omit [VictimPolicy ρ] in
/-- What has been brought in is mapped. -/
theorem holds_resume_of_between (hfound : machine.processes[position]? = some process)
    (hprocess : session.space.process = process.space.process) {mapping : Mapping}
    (hmapping : mapping ∈
      Mapping.between process.space.process process.space.table session.space.table) :
    (machine.resume session position process machine.ready).Holds mapping.holder
      mapping.frame := by
  obtain ⟨howner, hentry, _⟩ := Mapping.mem_between_iff.1 hmapping
  have hinside := (Array.getElem?_eq_some_iff.1 hfound).1
  have hresumed := getElem?_resume_self hinside session process machine.ready
  exact ⟨_, Array.mem_toList_iff.2 (Array.mem_of_getElem? hresumed), hprocess.trans howner.symm,
    hentry⟩

/-- A process that works brings in the entries that its table gains. -/
theorem brought_of_resumed (hfound : machine.processes[position]? = some process)
    (hrequest : request = .release position ∨ ∃ page, request = .reference position page)
    (hstate : (machine.handle request).state =
      machine.resume session position process machine.ready) :
    machine.brought request =
      Mapping.between process.space.process process.space.table session.space.table := by
  have hlater : (machine.handle request).state.processes[position]? =
      some { process with space := session.space } := by
    rw [hstate]
    exact getElem?_resume_self (Array.getElem?_eq_some_iff.1 hfound).1 session process machine.ready
  unfold brought
  obtain rfl | ⟨page, rfl⟩ := hrequest
  · simp only [hfound, hlater]
  · simp only [hfound, hlater]

end

/-- A process that is created, or fails for want of frames, brings in its pinned pages. -/
theorem brought_create {process : ProcessId} {arraySize : Nat} {keys : Array Nat}
    (hfits : Memory.arrayFits? machine.memory.settings arraySize = some true)
    (hpinned : machine.memory.settings.essentialPages ≤ machine.memory.settings.tableEntries) :
    machine.brought (.create process arraySize keys) =
      Mapping.between process (.blank machine.memory.settings.tableEntries)
        (machine.newcomer process arraySize keys).space.table := by
  have hloaded := Session.loadPages_eq
    (⟨machine.memory,
      { process := process, table := .blank machine.memory.settings.tableEntries }⟩ : Session ρ)
    0 (show 0 + machine.memory.settings.essentialPages ≤ _ by rw [PageTable.size_blank]; omega)
  unfold brought Session.loadEssential
  simp only [hfits, if_true, hloaded]
  rfl

omit [VictimPolicy ρ] in
/-- The pinned pages get frames that were free. -/
theorem mem_freeFrames_of_mem_newcomer {process : ProcessId} {arraySize : Nat} {keys : Array Nat}
    (hpinned : machine.memory.settings.essentialPages ≤ machine.memory.settings.tableEntries)
    (hstorable : machine.Storable) {page : Nat} {frame : FrameNumber}
    (hentry : (page, frame) ∈ (machine.newcomer process arraySize keys).space.table.resident) :
    frame ∈ machine.freeFrames := by
  have hloaded : frame ∈ (machine.newborn arraySize keys).space.table.frames :=
    List.mem_map.2 ⟨_, hentry, rfl⟩
  have htaken := (frames_newborn_perm hpinned hstorable).mem_iff.1 hloaded
  exact List.mem_reverse.1 (List.mem_of_mem_take htaken)

/-! ## The stamps after a request -/

section

variable {process : ProcessId} {arraySize : Nat} {keys : Array Nat}

/-- A process that is not created because of its size brings nothing in. -/
theorem brought_refused
    (hlarge : Memory.arrayFits? machine.memory.settings arraySize = some false) :
    machine.brought (.create process arraySize keys) = [] := by
  unfold brought
  simp only [hlarge, Option.some.injEq, Bool.false_eq_true, if_false]

/-- The frames of a process that could not be loaded are lost: nobody holds them. -/
theorem Stamped.drained (h : machine.Stamped history) (haccounts : machine.Accounts settings lost)
    (hvalid : settings.Valid)
    (hfits : Memory.arrayFits? machine.memory.settings arraySize = some true)
    (hscarce : machine.memory.free.size < machine.memory.settings.essentialPages) :
    { machine with memory := { machine.memory with
        free := machine.memory.free.dropLast machine.memory.settings.essentialPages } }.Stamped
      (history ++ machine.brought (.create process arraySize keys)) := by
  have hpinned := haccounts.pinned_le hvalid
  have hhandling : Handling machine (.create process arraySize keys) _ := .drained hfits hscarce
  rw [brought_create hfits hpinned]
  apply h.move haccounts hvalid hhandling
  · intro mapping hmapping hheld
    obtain ⟨_, hentry, _⟩ := Mapping.mem_between_iff.1 hmapping
    have hfreed := mem_freeFrames_of_mem_newcomer hpinned (haccounts.storable hvalid) hentry
    obtain ⟨free, hin, hsame⟩ := List.mem_map.1 hfreed
    have hunmapped := (haccounts.free_unique hvalid (Array.mem_toList_iff.1 hin)).1
    rw [hsame] at hunmapped
    obtain hmapped | hleft := List.mem_append.1 hheld
    · exact absurd hmapped hunmapped
    · have hrest : mapping.frame ∈ (machine.memory.free.dropLast
          machine.memory.settings.essentialPages).numbers := hleft
      rw [FreeList.numbers_dropLast_of_le (Nat.le_of_lt hscarce)] at hrest
      cases hrest
  · exact fun holder frame hholds ↦ .inr hholds

/-- A process that is created holds what it has brought in. -/
theorem Stamped.created (h : machine.Stamped history) (haccounts : machine.Accounts settings lost)
    (hvalid : settings.Valid)
    (hfits : Memory.arrayFits? machine.memory.settings arraySize = some true)
    (hplenty : machine.memory.settings.essentialPages ≤ machine.memory.free.size) :
    { machine with
      memory := { machine.memory with
        free := machine.memory.free.dropLast machine.memory.settings.essentialPages }
      processes := machine.processes.push (machine.newcomer process arraySize keys) }.Stamped
        (history ++ machine.brought (.create process arraySize keys)) := by
  have hhandling : Handling machine (.create process arraySize keys) _ := .created hfits hplenty
  rw [brought_create hfits (haccounts.pinned_le hvalid)]
  apply h.move haccounts hvalid hhandling
  · intro mapping hmapping _
    obtain ⟨howner, hentry, _⟩ := Mapping.mem_between_iff.1 hmapping
    exact ⟨_, Array.mem_toList_iff.2 Array.mem_push_self, howner.symm, hentry⟩
  · rintro holder frame ⟨other, hother, hnumber, hentry⟩
    obtain hold | rfl := Array.mem_push.1 (Array.mem_toList_iff.1 hother)
    · exact .inr ⟨other, Array.mem_toList_iff.2 hold, hnumber, hentry⟩
    · refine .inl (Mapping.mem_between_iff.2 ⟨hnumber.symm, hentry, fun hblank ↦ ?_⟩)
      have hnothing : frame ∈ (PageTable.blank machine.memory.settings.tableEntries).frames :=
        List.mem_map.2 ⟨_, hblank, rfl⟩
      rw [PageTable.frames_blank] at hnothing
      cases hnothing

end

/-- A process that has worked holds what it has brought in. -/
theorem Stamped.resume (h : machine.Stamped history) (haccounts : machine.Accounts settings lost)
    (hvalid : settings.Valid) {position : Nat} {process : UserProcess} {session : Session ρ}
    (hfound : machine.processes[position]? = some process)
    (hprocess : session.space.process = process.space.process)
    (hrequest : request = .release position ∨ ∃ page, request = .reference position page)
    (hhandling : Handling machine request (machine.handle request))
    (hstate : (machine.handle request).state =
      machine.resume session position process machine.ready) :
    (machine.handle request).state.Stamped (history ++ machine.brought request) := by
  rw [brought_of_resumed hfound hrequest hstate]
  apply h.move haccounts hvalid hhandling
  · intro mapping hmapping _
    rw [hstate]
    exact holds_resume_of_between hfound hprocess hmapping
  · intro holder frame hholds
    rw [hstate] at hholds
    exact between_or_of_holds_resume hfound hprocess hholds

/-- Whatever a request does, and whether or not it fails, the stamps stay true. -/
theorem Stamped.handle (h : machine.Stamped history) (haccounts : machine.Accounts settings lost)
    (hvalid : settings.Valid) (hrunning : (machine.handle request).outcome ≠ .crash) :
    (machine.handle request).state.Stamped (history ++ machine.brought request) := by
  have hhandling := handle_cases (haccounts.pinned_le hvalid) hrunning
  have hcases := hhandling
  generalize hreply : machine.handle request = reply at hcases
  cases hcases with
  | refused hlarge =>
    rw [brought_refused hlarge, List.append_nil]
    exact h
  | drained hfits hscarce => exact h.drained haccounts hvalid hfits hscarce
  | created hfits hplenty => exact h.created haccounts hvalid hfits hplenty
  | referenced hfound htouch =>
    have hworked := h.resume haccounts hvalid hfound htouch.process_eq (.inr ⟨_, rfl⟩) hhandling
      (congrArg Reply.state hreply)
    rw [hreply] at hworked
    exact hworked
  | released hfound =>
    have hworked := h.resume haccounts hvalid hfound rfl (.inl rfl) hhandling
      (congrArg Reply.state hreply)
    rw [hreply] at hworked
    exact hworked

/-- Whatever is asked of a machine that is worked by hand, the stamps stay true. -/
theorem Stamped.worked {requests : List Request} (h : machine.Stamped history)
    (haccounts : machine.Accounts settings lost) (hvalid : settings.Valid)
    (hbears : machine.Bears requests) :
    (machine.worked requests).Stamped (history ++ machine.chronicle requests) := by
  induction requests generalizing machine lost history with
  | nil =>
    rw [chronicle, List.append_nil]
    exact h
  | cons request requests ih =>
    obtain ⟨hfirst, hrest⟩ := hbears
    have hcases := handle_cases (haccounts.pinned_le hvalid) hfirst
    rw [chronicle, ← List.append_assoc]
    exact ih (h.handle haccounts hvalid hfirst) (haccounts.handling hvalid hcases) hrest

/-- Whatever is asked of a machine that is worked by hand, and whatever its policy answers, a free
frame has no stamp exactly if no page was ever brought into it, and otherwise is stamped with the
page that was brought into it latest.  The page that is in a frame is the one that was brought in
latest as well. -/
theorem provenance_after {policy : ρ} {requests : List Request}
    (hcreate : create settings policy = .ok machine) (hbears : machine.Bears requests) :
    (∀ free ∈ (machine.worked requests).memory.free.frames,
      (free.last = none ↔ ∀ mapping ∈ machine.chronicle requests, mapping.frame ≠ free.frame) ∧
      ∀ holder, free.last = some holder ↔
        Mapping.Latest (machine.chronicle requests) free.frame holder) ∧
    ∀ holder frame, (machine.worked requests).Holds holder frame →
      Mapping.Latest (machine.chronicle requests) frame holder := by
  obtain ⟨hvalid, haccounts⟩ := accounts_create hcreate
  have hstamped := (stamped_create hcreate).worked haccounts hvalid hbears
  rw [List.nil_append] at hstamped
  constructor
  · intro free hfree
    rw [hstamped.free free hfree]
    exact ⟨Mapping.latestHolder?_eq_none_iff, fun holder ↦ Mapping.latestHolder?_eq_some_iff⟩
  · intro holder frame hholds
    exact Mapping.latestHolder?_eq_some_iff.1 (hstamped.mapped holder frame hholds)

end

/-- Three frames, none of which is kept in reserve. -/
def cramped : Settings where
  pageSize := 4
  userFrames := 3
  tableEntries := 5
  essentialPages := 1
  reserve := 0
  fallback := .mostRecent

/-- The machine with these settings, before any request. -/
def pristine : Machine Aging where
  memory := { settings := cramped, free := .full 3 .mostRecent, policy := .mk }

/-- Page 1 gives its frame to page 3 while no frame is free, a second process with the same number
finds none, and then everything is given back and a frame is taken by a third process. -/
def churn : List Request :=
  [.create 0 4 #[], .reference 0 1, .reference 0 2, .reference 0 3, .create 0 4 #[], .release 0,
    .create 7 4 #[]]

theorem provenance_after_churn :
    create cramped Aging.mk = .ok pristine ∧ pristine.Bears churn ∧
      (pristine.worked churn).memory.free.frames =
        #[{ frame := 2, last := some ⟨0, 0⟩ }, { frame := 0, last := some ⟨0, 2⟩ }] ∧
      (∀ free ∈ (pristine.worked churn).memory.free.frames,
        (free.last = none ↔ ∀ mapping ∈ pristine.chronicle churn, mapping.frame ≠ free.frame) ∧
        ∀ holder, free.last = some holder ↔
          Mapping.Latest (pristine.chronicle churn) free.frame holder) ∧
      Mapping.Latest (pristine.chronicle churn) 1 ⟨7, 0⟩ := by
  have hcreate : create cramped Aging.mk = .ok pristine := rfl
  have hbears : pristine.Bears churn := by decide +kernel
  have hholds : (pristine.worked churn).Holds ⟨7, 0⟩ 1 := by decide +kernel
  obtain ⟨hstamps, hmapped⟩ := provenance_after hcreate hbears
  exact ⟨hcreate, hbears, by decide +kernel, hstamps, hmapped _ _ hholds⟩

end Machine

end PagedMemory
