import PagedMemory.Proofs.Endings

/-!
# The stages of the program

The program reads the file, takes it for a workload, builds a machine, creates the processes one
after the other, and runs them to the end.  `Program.Succeeds` says that all this goes well, and
`Program.FailsAt` which stage is the first that does not; both are about the file, the settings and
single calls, and not about the program.

By `Program.contract` the program goes exactly this way, unless it crashes: it prints something only
if every stage succeeds, and then the table of a report on processes that have all left, and
otherwise it tells the first stage that failed.
-/

namespace PagedMemory

namespace Outcome

variable {ε ζ α : Type} {change : ε → ζ} {outcome : Outcome ε α}

theorem mapError_eq_ok_iff {value : α} :
    outcome.mapError change = .ok value ↔ outcome = .ok value := by
  cases outcome <;> simp [mapError]

theorem mapError_eq_error_iff {reason : ζ} : outcome.mapError change = .error reason ↔
    ∃ cause, outcome = .error cause ∧ change cause = reason := by
  cases outcome <;> simp [mapError]

end Outcome

theorem Machine.exists_create_error_iff {ρ : Type} {settings : Settings} {policy : ρ} :
    (∃ cause, Machine.create settings policy = .error cause) ↔ ¬ settings.Valid := by
  cases hcreate : Machine.create settings policy with
  | error cause =>
    refine iff_of_true ⟨cause, rfl⟩ fun hvalid ↦ ?_
    cases hcreate.symm.trans (Machine.create_eq_ok_iff.2 ⟨hvalid, rfl⟩)
  | ok machine =>
    refine iff_of_false nofun fun hinvalid ↦ ?_
    exact hinvalid (Machine.create_eq_ok_iff.1 hcreate).1

namespace Program

/-! ## The stages -/

/-- The stages, in the order in which the program goes through them. -/
inductive Stage where
  | reading
  | parsing
  | building
  | spawning
  | running
deriving DecidableEq

/-- What the program tells if a stage fails on the file with this name. -/
def Stage.text (name : String) : Stage → String
  | reading => s!"failed to read {name}"
  | parsing => s!"malformed {name}"
  | building => "cannot build the machine"
  | spawning => "cannot start process"
  | running => "simulation aborted"

/-- What a stage tells begins with words of its own. -/
theorem Stage.take_text (name : String) (stage : Stage) :
    (stage.text name).toList.take 8 = (stage.text "").toList.take 8 := by
  have hopening (opening rest : String) (hlong : 8 ≤ opening.toList.length) :
      (opening ++ rest).toList.take 8 = opening.toList.take 8 := by
    rw [String.toList_append, List.take_append_of_le_length hlong]
  cases stage with
  | reading =>
    exact (hopening "failed to read " name (by decide)).trans (hopening _ "" (by decide)).symm
  | parsing => exact (hopening "malformed " name (by decide)).trans (hopening _ "" (by decide)).symm
  | building | spawning | running => rfl

/-- No two stages tell the same. -/
theorem Stage.text_injective (name : String) : Function.Injective (Stage.text name) := by
  intro stage stage' hsame
  have hfirst : (stage.text "").toList.take 8 = (stage'.text "").toList.take 8 := by
    rw [← take_text name, hsame, take_text name]
  revert hfirst
  cases stage <;> cases stage' <;> decide

/-- The stage that failed. -/
def Failure.stage : Failure → Stage
  | unreadable .. => .reading
  | malformed .. => .parsing
  | machineRefused _ => .building
  | processRefused _ => .spawning
  | aborted _ => .running

/-! ## What each stage needs -/

/-- The file can be read, and it is this workload. -/
def Holds (contents : Except ReadFailure String) (workload : Workload) : Prop :=
  ∃ text, contents = .ok text ∧ Workload.read text.toList = .ok workload

/-- Every stage succeeds: the file is this workload, the settings make this machine, each spawn on
it creates a process, and then no turn fails. -/
structure Succeeds (settings : Settings) (contents : Except ReadFailure String)
    (workload : Workload) (machine : Machine Aging) : Prop where
  holds : Holds contents workload
  valid : settings.Valid
  created : Machine.create settings Aging.mk = .ok machine
  spawned : ∀ visit ∈ machine.visits (spawns workload.processes.toList), visit.Creates
  ran : ∀ before ∈ (machine.after (spawns workload.processes.toList)).runTurns, before.Succeeds

/-- This stage fails, and those before it succeed. -/
inductive FailsAt (settings : Settings) (contents : Except ReadFailure String) : Stage → Prop
  | reading {cause : ReadFailure} (hunreadable : contents = .error cause) :
      FailsAt settings contents .reading
  | parsing {text : String} {reason : Workload.ReadError} (hread : contents = .ok text)
      (hmalformed : Workload.read text.toList = .error reason) : FailsAt settings contents .parsing
  | building {workload : Workload} (hholds : Holds contents workload)
      (hinvalid : ¬ settings.Valid) : FailsAt settings contents .building
  | spawning {workload : Workload} {machine : Machine Aging} {front back : List ProcessSpec}
      {spec : ProcessSpec} {reason : PagingError} (hholds : Holds contents workload)
      (hcreate : Machine.create settings Aging.mk = .ok machine)
      (hsplit : workload.processes.toList = front ++ spec :: back)
      (hfront : ∀ visit ∈ machine.visits (spawns front), visit.Creates)
      (hfailed : ((machine.after (spawns front)).spawn spec.arraySize spec.keys).outcome =
        .error reason) :
      FailsAt settings contents .spawning
  | running {workload : Workload} {machine before : Machine Aging} {reason : PagingError}
      (hholds : Holds contents workload)
      (hcreate : Machine.create settings Aging.mk = .ok machine)
      (hspawned : ∀ visit ∈ machine.visits (spawns workload.processes.toList), visit.Creates)
      (hbefore : before ∈ (machine.after (spawns workload.processes.toList)).runTurns)
      (hfailed : before.turn.outcome = .error reason) :
      FailsAt settings contents .running

/-! ## Through the stages -/

variable {settings : Settings} {name : String} {contents : Except ReadFailure String}
  {workload : Workload} {machine : Machine Aging} {report : Report} {failure : Failure}
  {stage : Stage}

theorem simulate_eq_ok_iff : (simulate machine workload).outcome = .ok report ↔
    (∀ visit ∈ machine.visits (spawns workload.processes.toList), visit.Creates) ∧
      (∀ before ∈ (machine.after (spawns workload.processes.toList)).runTurns, before.Succeeds) ∧
      (machine.after (spawns workload.processes.toList ++ [.run])).report = report := by
  rw [simulate, Reply.andThen_eq_ok_iff, Machine.after_concat_run]
  simp only [Reply.mapError, Outcome.mapError_eq_ok_iff]
  constructor
  · rintro ⟨_, hspawned, hrun⟩
    rw [Machine.state_spawnAll hspawned, Machine.run_eq] at hrun
    obtain ⟨_, hended, hreport⟩ := Outcome.map_eq_ok_iff.1 hrun
    exact ⟨Machine.spawnAll_eq_ok_iff.1 hspawned, Machine.takeTurns_eq_ok_iff.1 hended, hreport⟩
  · rintro ⟨hcreates, hfine, hreport⟩
    have hspawned := Machine.spawnAll_eq_ok_iff.2 hcreates
    refine ⟨(), hspawned, ?_⟩
    rw [Machine.state_spawnAll hspawned, Machine.run_eq]
    exact Outcome.map_eq_ok_iff.2 ⟨(), Machine.takeTurns_eq_ok_iff.2 hfine, hreport⟩

theorem simulate_eq_error_iff : (simulate machine workload).outcome = .error failure ↔
    (∃ cause, (spawnAll machine workload.processes.toList).outcome = .error cause ∧
      .processRefused cause = failure) ∨
    (∀ visit ∈ machine.visits (spawns workload.processes.toList), visit.Creates) ∧
      ∃ cause, ((machine.after (spawns workload.processes.toList)).takeTurns #[]).outcome =
        .error cause ∧ .aborted cause = failure := by
  rw [simulate, Reply.andThen_eq_error_iff]
  simp only [Reply.mapError, Outcome.mapError_eq_ok_iff, Outcome.mapError_eq_error_iff]
  refine or_congr_right ⟨?_, ?_⟩
  · rintro ⟨_, hspawned, cause, hrun, rfl⟩
    rw [Machine.state_spawnAll hspawned] at hrun
    exact ⟨Machine.spawnAll_eq_ok_iff.1 hspawned, cause, Machine.takeTurns_of_run_error hrun, rfl⟩
  · rintro ⟨hcreates, cause, hended, rfl⟩
    have hspawned := Machine.spawnAll_eq_ok_iff.2 hcreates
    refine ⟨(), hspawned, cause, ?_, rfl⟩
    rw [Machine.state_spawnAll hspawned, Machine.run_eq]
    exact Outcome.map_eq_error_iff.2 hended

theorem outcome_run_of_holds (hholds : Holds contents workload) :
    (run settings name contents).outcome = (printReport settings workload).outcome := by
  obtain ⟨text, rfl, hread⟩ := hholds
  simp only [run, hread, Reply.announcing]

theorem outcome_printReport (hcreate : Machine.create settings Aging.mk = .ok machine) :
    (printReport settings workload).outcome =
      (simulate machine workload).outcome.map Report.render := by
  unfold printReport
  simp only [hcreate]
  exact congrArg Reply.outcome (Reply.andThen_answer
    ((simulate machine workload).mapState fun _ ↦ ()) fun (report : Report) _ ↦ report.render)

theorem run_eq_ok_iff {table : String} : (run settings name contents).outcome = .ok table ↔
    ∃ workload machine, Succeeds settings contents workload machine ∧
      (machine.after (spawns workload.processes.toList ++ [.run])).report.render = table := by
  constructor
  · intro hok
    cases contents with
    | error cause => cases hok
    | ok text =>
      cases hread : Workload.read text.toList with
      | error reason =>
        simp [run, hread, Reply.error] at hok
      | crash => simp [run, hread, Reply.crash] at hok
      | ok workload =>
        have hholds : Holds (.ok text) workload := ⟨text, rfl, hread⟩
        rw [outcome_run_of_holds hholds] at hok
        cases hcreate : Machine.create settings Aging.mk with
        | error cause => simp [printReport, hcreate, Reply.error] at hok
        | ok machine =>
          rw [outcome_printReport hcreate] at hok
          obtain ⟨report, hsimulated, rfl⟩ := Outcome.map_eq_ok_iff.1 hok
          obtain ⟨hspawned, hran, rfl⟩ := simulate_eq_ok_iff.1 hsimulated
          exact ⟨workload, machine,
            ⟨hholds, (Machine.create_eq_ok_iff.1 hcreate).1, hcreate, hspawned, hran⟩, rfl⟩
  · rintro ⟨workload, machine, h, rfl⟩
    rw [outcome_run_of_holds h.holds, outcome_printReport h.created]
    exact Outcome.map_eq_ok_iff.2 ⟨_, simulate_eq_ok_iff.2 ⟨h.spawned, h.ran, rfl⟩, rfl⟩

theorem printReport_eq_error_iff : (printReport settings workload).outcome = .error failure ↔
    (∃ cause, Machine.create settings Aging.mk = .error cause ∧ .machineRefused cause = failure) ∨
    ∃ machine, Machine.create settings Aging.mk = .ok machine ∧
      (simulate machine workload).outcome = .error failure := by
  cases hcreate : Machine.create settings Aging.mk with
  | error cause => simp [printReport, hcreate, Reply.error]
  | ok machine => simp [outcome_printReport hcreate, Outcome.map_eq_error_iff]

theorem run_eq_error_iff : (run settings name contents).outcome = .error failure ↔
    (∃ cause, contents = .error cause ∧ .unreadable name cause = failure) ∨
    (∃ text reason, contents = .ok text ∧ Workload.read text.toList = .error reason ∧
      .malformed name reason = failure) ∨
    ∃ workload, Holds contents workload ∧
      (printReport settings workload).outcome = .error failure := by
  constructor
  · intro hfailed
    cases contents with
    | error cause =>
      cases hfailed
      exact .inl ⟨cause, rfl, rfl⟩
    | ok text =>
      cases hread : Workload.read text.toList with
      | error reason =>
        simp only [run, hread] at hfailed
        cases hfailed
        exact .inr (.inl ⟨text, reason, rfl, hread, rfl⟩)
      | crash =>
        simp only [run, hread] at hfailed
        cases hfailed
      | ok workload =>
        have hholds : Holds (.ok text) workload := ⟨text, rfl, hread⟩
        rw [outcome_run_of_holds hholds] at hfailed
        exact .inr (.inr ⟨workload, hholds, hfailed⟩)
  · rintro (⟨cause, rfl, rfl⟩ | ⟨text, reason, rfl, hread, rfl⟩ | ⟨workload, hholds, hfailed⟩)
    · rfl
    · simp only [run, hread, Reply.error]
    · rw [outcome_run_of_holds hholds]
      exact hfailed

/-! ## The stage that fails -/

/-- What the program reports is that a stage failed, and its report begins with this stage. -/
theorem failsAt_of_error (hfailed : (run settings name contents).outcome = .error failure) :
    FailsAt settings contents failure.stage ∧
      failure.chain.head? = some (failure.stage.text name) := by
  obtain ⟨cause, hunreadable, rfl⟩ | ⟨text, reason, hread, hmalformed, rfl⟩ |
    ⟨workload, hholds, hprinting⟩ := run_eq_error_iff.1 hfailed
  · exact ⟨.reading hunreadable, rfl⟩
  · exact ⟨.parsing hread hmalformed, rfl⟩
  obtain ⟨cause, hrefused, rfl⟩ | ⟨machine, hcreate, hsimulated⟩ :=
    printReport_eq_error_iff.1 hprinting
  · exact ⟨.building hholds (Machine.exists_create_error_iff.1 ⟨cause, hrefused⟩), rfl⟩
  obtain ⟨cause, hspawning, rfl⟩ | ⟨hspawned, cause, hrunning, rfl⟩ :=
    simulate_eq_error_iff.1 hsimulated
  · obtain ⟨front, spec, back, hsplit, hfront, hspawn⟩ := Machine.spawnAll_eq_error_iff.1 hspawning
    exact ⟨.spawning hholds hcreate hsplit hfront hspawn, rfl⟩
  · obtain ⟨before, hbefore, hturn⟩ := Machine.takeTurns_eq_error_iff.1 hrunning
    exact ⟨.running hholds hcreate hspawned hbefore hturn, rfl⟩

/-- If a stage fails, the program reports it. -/
theorem error_of_failsAt (name : String) (hfails : FailsAt settings contents stage) :
    ∃ failure, (run settings name contents).outcome = .error failure ∧ failure.stage = stage := by
  cases hfails with
  | @reading cause hunreadable =>
    exact ⟨.unreadable name cause, run_eq_error_iff.2 (.inl ⟨cause, hunreadable, rfl⟩), rfl⟩
  | @parsing text reason hread hmalformed =>
    exact ⟨.malformed name reason,
      run_eq_error_iff.2 (.inr (.inl ⟨text, reason, hread, hmalformed, rfl⟩)), rfl⟩
  | @building workload hholds hinvalid =>
    obtain ⟨cause, hrefused⟩ : ∃ cause, Machine.create settings Aging.mk = .error cause :=
      Machine.exists_create_error_iff.2 hinvalid
    have hprinting : (printReport settings workload).outcome = .error (.machineRefused cause) :=
      printReport_eq_error_iff.2 (.inl ⟨cause, hrefused, rfl⟩)
    exact ⟨_, run_eq_error_iff.2 (.inr (.inr ⟨workload, hholds, hprinting⟩)), rfl⟩
  | @spawning workload machine front back spec reason hholds hcreate hsplit hfront hfailed =>
    have hspawning := Machine.spawnAll_eq_error_iff.2 ⟨front, spec, back, hsplit, hfront, hfailed⟩
    have hsimulated := simulate_eq_error_iff.2 (.inl ⟨reason, hspawning, rfl⟩)
    have hprinting := printReport_eq_error_iff.2 (.inr ⟨machine, hcreate, hsimulated⟩)
    exact ⟨_, run_eq_error_iff.2 (.inr (.inr ⟨workload, hholds, hprinting⟩)), rfl⟩
  | @running workload machine before reason hholds hcreate hspawned hbefore hfailed =>
    have hrunning : ((machine.after (spawns workload.processes.toList)).takeTurns #[]).outcome =
        .error reason :=
      Machine.takeTurns_eq_error_iff.2 ⟨before, hbefore, hfailed⟩
    have hsimulated := simulate_eq_error_iff.2 (.inr ⟨hspawned, reason, hrunning, rfl⟩)
    have hprinting := printReport_eq_error_iff.2 (.inr ⟨machine, hcreate, hsimulated⟩)
    exact ⟨_, run_eq_error_iff.2 (.inr (.inr ⟨workload, hholds, hprinting⟩)), rfl⟩

/-- The program fails exactly if a stage does, and the stage that fails is told first. -/
theorem failsAt_iff : FailsAt settings contents stage ↔
    ∃ failure, (run settings name contents).outcome = .error failure ∧
      failure.chain.head? = some (stage.text name) := by
  constructor
  · intro hfails
    obtain ⟨failure, hfailed, rfl⟩ := error_of_failsAt name hfails
    exact ⟨failure, hfailed, (failsAt_of_error hfailed).2⟩
  · rintro ⟨failure, hfailed, hhead⟩
    obtain ⟨hfails, hhead'⟩ := failsAt_of_error hfailed
    rw [hhead', Option.some_inj] at hhead
    rw [← Stage.text_injective name hhead]
    exact hfails

/-- Unless it crashes, the program goes through all stages or one of them fails. -/
theorem run_ne_crash_iff : (run settings name contents).outcome ≠ .crash ↔
    (∃ workload machine, Succeeds settings contents workload machine) ∨
      ∃ stage, FailsAt settings contents stage := by
  constructor
  · intro hrunning
    cases houtcome : (run settings name contents).outcome with
    | ok table =>
      obtain ⟨workload, machine, h, _⟩ := run_eq_ok_iff.1 houtcome
      exact .inl ⟨workload, machine, h⟩
    | error failure => exact .inr ⟨failure.stage, (failsAt_of_error houtcome).1⟩
    | crash => exact absurd houtcome hrunning
  · rintro (⟨workload, machine, h⟩ | ⟨stage, hfails⟩)
    · have hok : (run settings name contents).outcome = .ok _ :=
        run_eq_ok_iff.2 ⟨workload, machine, h, rfl⟩
      rw [hok]
      exact Outcome.ok_ne_crash
    · obtain ⟨failure, hfailed, _⟩ := error_of_failsAt name hfails
      rw [hfailed]
      exact Outcome.error_ne_crash

/-! ## What is printed -/

theorem render_ne_empty (report : Report) : report.render ≠ "" := by
  unfold Report.render
  simp [String.append_eq_empty_iff]

/-- The program prints its value, if it has one, and nothing otherwise. -/
theorem output_execute {arguments : List String} {told : Option String}
    {files : String → Except ReadFailure String} {verbose : Bool}
    (hread : CommandLine.read arguments = .ok ⟨name, settings, verbose⟩)
    (hfile : files name = contents) :
    ((execute arguments told files).output ≠ "" ↔
        ∃ table, (run settings name contents).outcome = .ok table) ∧
      ∀ table, (run settings name contents).outcome = .ok table →
        (execute arguments told files).output = table := by
  subst hfile
  unfold execute
  simp only [hread]
  cases houtcome : (run settings name (files name)).outcome with
  | ok table =>
    obtain ⟨workload, machine, _, rfl⟩ := run_eq_ok_iff.1 houtcome
    simp [render_ne_empty]
  | error failure => simp
  | crash => simp

/-! ## The whole program -/

/-- The row that a process with this workload has in the end. -/
def RowOf (spec : ProcessSpec) (counters : Counters) : Prop :=
  counters.accesses = spec.midpoints.length ∧ counters.replacements = counters.attempts.total

theorem rows_of_finished {specs : List ProcessSpec} (h : machine.Finished settings specs) :
    List.Forall₂ RowOf specs machine.report.processes := by
  rw [← h.specs_eq]
  unfold Machine.specs Machine.report
  rw [List.forall₂_map_left_iff, List.forall₂_map_right_iff, List.forall₂_same]
  intro process hprocess
  obtain ⟨number, hfound⟩ := List.getElem?_of_mem hprocess
  rw [Array.getElem?_toList] at hfound
  exact ⟨(h.done number process hfound).accesses_eq, (h.done number process hfound).replacements_eq⟩

/-- The program has a table to print exactly if all stages succeed, and the table is that of a
report on processes that have all done their searches and left, with a row for each of them.  A
stage that fails is what the program tells first.  Only a crash is neither.  The table is all that
is printed. -/
theorem contract :
    (∀ table, (run settings name contents).outcome = .ok table ↔
      ∃ workload machine, Succeeds settings contents workload machine ∧
        (machine.after (spawns workload.processes.toList ++ [.run])).report.render = table) ∧
    (∀ workload machine, Succeeds settings contents workload machine →
      let last := machine.after (spawns workload.processes.toList ++ [.run])
      last.Finished settings workload.processes.toList ∧
        List.Forall₂ RowOf workload.processes.toList last.report.processes) ∧
    (∀ stage, FailsAt settings contents stage ↔
      ∃ failure, (run settings name contents).outcome = .error failure ∧
        failure.chain.head? = some (stage.text name)) ∧
    ((run settings name contents).outcome ≠ .crash ↔
      (∃ workload machine, Succeeds settings contents workload machine) ∨
        ∃ stage, FailsAt settings contents stage) ∧
    ∀ arguments told files verbose,
      CommandLine.read arguments = .ok ⟨name, settings, verbose⟩ → files name = contents →
        ((execute arguments told files).output ≠ "" ↔
          ∃ table, (run settings name contents).outcome = .ok table) ∧
        ∀ table, (run settings name contents).outcome = .ok table →
          (execute arguments told files).output = table := by
  refine ⟨fun _ ↦ run_eq_ok_iff, fun workload machine h ↦ ?_, fun _ ↦ failsAt_iff,
    run_ne_crash_iff, fun _ _ _ _ ↦ output_execute⟩
  have hfinished := Machine.finished_of_succeeds h.created h.spawned h.ran
  rw [← Machine.after_concat_run] at hfinished
  exact ⟨hfinished, rows_of_finished hfinished⟩

/-- Three frames, and pages of one integer. -/
def snug : Settings :=
  { pageSize := 4, userFrames := 3, tableEntries := 8, essentialPages := 1, reserve := 0,
    fallback := .mostRecent }

/-- The arguments for these settings. -/
def snugArguments : List String :=
  ["--frames=3", "--page-size=4", "--page-table-entries=8", "--essential-pages=1", "--nff-min=0",
    "--most-recent", "errands"]

/-- Two processes with a search each. -/
def errands : String := "2 1\n5 3\n6 1\n"

/-- What is printed about them. -/
def errandsTable : String :=
  "+++ Page access summary\n" ++
    "    PID      Accesses        Faults           Replacements          Attempts\n" ++
    "    0               2        2 (100.00%)        1 (50.00%)    " ++
    "  0 +   0 +   1 +   0 (0.00% + 0.00% + 100.00% + 0.00%)\n" ++
    "    1               3        3 (100.00%)        1 (33.33%)    " ++
    "  0 +   0 +   1 +   0 (0.00% + 0.00% + 100.00% + 0.00%)\n\n" ++
    "    Total           5        5 (100.00%)        2 (40.00%)    " ++
    "  0 +   0 +   2 +   0 (0.00% + 0.00% + 100.00% + 0.00%)\n"

/-- Three frames are enough, with two a turn fails, and with one the second process cannot be
created. -/
theorem contract_snug :
    (∃ workload machine, Succeeds snug (.ok errands) workload machine ∧
      (machine.after (spawns workload.processes.toList ++ [.run])).Finished snug
        workload.processes.toList) ∧
    (execute snugArguments none fun _ ↦ .ok errands).output = errandsTable ∧
    FailsAt { snug with userFrames := 2 } (.ok errands) .running ∧
    FailsAt { snug with userFrames := 1 } (.ok errands) .spawning := by
  obtain ⟨hok, hended, _, _, hprints⟩ := @contract snug "errands" (.ok errands)
  have htable : (run snug "errands" (.ok errands)).outcome = .ok errandsTable := by decide +kernel
  have hread : CommandLine.read snugArguments = .ok ⟨"errands", snug, false⟩ := by decide +kernel
  obtain ⟨workload, machine, hsucceeds, _⟩ := (hok errandsTable).1 htable
  obtain ⟨_, _, htwo, _, _⟩ := @contract { snug with userFrames := 2 } "errands" (.ok errands)
  obtain ⟨_, _, hone, _, _⟩ := @contract { snug with userFrames := 1 } "errands" (.ok errands)
  refine ⟨⟨workload, machine, hsucceeds, (hended workload machine hsucceeds).1⟩,
    (hprints snugArguments none _ false hread rfl).2 _ htable, ?_, ?_⟩
  · exact (htwo .running).2 ⟨.aborted (.noVictim 0 3), by decide +kernel, rfl⟩
  · exact (hone .spawning).2 ⟨.processRefused (.outOfFrames 1), by decide +kernel, rfl⟩

end Program

end PagedMemory
