import EditorBridge.Proofs.Terminal.Asking
import EditorBridge.Proofs.Terminal.InputFilter

/-!
# The exit status and the reported errors

Errors reach the user in two ways. Settings that cannot be loaded end the operation in an error, and
everything that goes wrong behind that is notified. The exit status is decided at the very end, from
the outcomes alone; still it is one exactly when the user was told about an error, since every outcome
that is an error was notified once and nothing else was notified as one.

## Main statements

`Operation.errorCount_performUnder`: the error notifications of an operation are as many as the
errors in what it ends in.

`Operation.status_reflects`: the exit status is one when an error was returned or notified, and zero
when all came to an end without.
-/

namespace EditorBridge

/-- The number of error notifications. -/
def errorCount (trace : List Event) : Nat :=
  (trace.filterMap Event.notification?).countP (·.level = .error)

theorem errorCount_eq_zero_iff (trace : List Event) :
    errorCount trace = 0 ↔
      ∀ notification ∈ trace.filterMap Event.notification?, notification.level ≠ .error := by
  simp [errorCount, List.countP_eq_zero]

/-- The number of errors that an operation ends in. -/
def Ending.errors : Ending → Nat
  | .report ⟨outcomes⟩ => outcomes.countP Outcome.isError
  | .content shown => if shown.isNone then 1 else 0

theorem Outcome.countP_told (outcome : Outcome) :
    outcome.told.countP (·.level = .error) = if outcome.isError then 1 else 0 := by
  cases outcome <;> rfl

theorem Outcome.countP_flatMap_told (outcomes : List Outcome) :
    (outcomes.flatMap told).countP (·.level = .error) = outcomes.countP isError := by
  induction outcomes with
  | nil => rfl
  | cons outcome outcomes ih =>
    rw [List.flatMap_cons, List.countP_append, ih, countP_told, List.countP_cons, Nat.add_comm]

theorem Ending.errors_report_eq_zero_iff (report : Report) :
    (Ending.report report).errors = 0 ↔ report.isSuccess = true := by
  simp [errors, Report.isSuccess, List.countP_eq_zero]

namespace Operation

variable {host : Host Console}

/-! ### Counting -/

/-- A program whose notifications are those of its value notifies the errors of its ending. -/
theorem errorCount_mapRun {α : Type} {program : Program α} {told : α → List Notification}
    (tells : program.Tells told) {form : α → Ending}
    (means : ∀ value, (told value).countP (·.level = .error) = (form value).errors)
    (hears : host.Hears) (console : Console) :
    let run := mapRun form (program.run host console)
    errorCount run.trace = (run.value.map Ending.errors).getD 0 := by
  have events := tells.run hears console
  simp only [mapRun, errorCount, events]
  cases (program.run host console).value with
  | none => rfl
  | some value => exact means value

theorem errorCount_runCommand (responsive : host.Responsive) (operation : Operation)
    (workspace : Workspace) (console : Console) :
    let run := operation.runCommand host workspace console
    errorCount run.trace = (run.value.map Ending.errors).getD 0 := by
  have hears := responsive.hears
  have single_means : ∀ outcome : Outcome,
      outcome.told.countP (·.level = .error) = (single outcome).errors := by
    intro outcome
    rw [outcome.countP_told]
    simp [single, Ending.errors]
  cases operation with
  | formatFile file =>
    exact errorCount_mapRun (Command.format_tells workspace) single_means hears console
  | formatFiles files schedule =>
    obtain ⟨outcomes, value, told⟩ := Command.formatAll_tells hears schedule workspace console
    -- The schedule decides the order of the notifications, which does not change their number.
    simp only [runCommand, mapRun, value, errorCount]
    rw [told.countP_eq, Outcome.countP_flatMap_told]
    rfl
  | fileSaved file =>
    simp only [runCommand]
    split
    next document _ =>
      exact errorCount_mapRun (Command.formatSaved_tells workspace document) single_means hears
        console
    next => rfl
  | overview target =>
    refine errorCount_mapRun (Command.openOverview_tells workspace target) ?_ hears console
    intro content
    cases content <;> rfl
  | checkInstall =>
    exact errorCount_mapRun (Command.ensureInstalled_tells workspace) single_means hears console
  | installTool =>
    exact errorCount_mapRun (Command.install_tells workspace) single_means hears console

/-- When a file could not be opened, the command that follows comes to a report, because it has no
process of its own to be ended by or because it formats several files. -/
theorem exists_report_of_unreadable (host : Host Console) {operation : Operation}
    {terminal : Terminal}
    (opened : terminal.documents.length + terminal.unreadable.length = operation.files.length)
    (unreadable : terminal.unreadable ≠ []) (console : Console) :
    ∃ report, (operation.runCommand host (workspace terminal) console).value =
      some (.report report) := by
  have some_unreadable := List.length_pos_iff.mpr unreadable
  have documents : (workspace terminal).documents = terminal.documents := rfl
  -- The only file of an operation on one file is the one that could not be opened.
  have unopened : operation.files.length ≤ 1 → terminal.documents = [] := fun few =>
    List.length_eq_zero_iff.mp (by omega)
  cases operation with
  | formatFile file =>
    simp only [runCommand, Command.format, documents, unopened (Nat.le_refl 1)]
    exact ⟨_, rfl⟩
  | formatFiles files schedule => exact ⟨_, rfl⟩
  | fileSaved file =>
    simp only [runCommand, documents, unopened (Nat.le_refl 1)]
    exact ⟨_, rfl⟩
  | overview | checkInstall | installTool =>
    simp only [files, List.length_nil] at opened
    omega

theorem countP_unreadableOutcome (files : List Unreadable) :
    (files.map unreadableOutcome).countP Outcome.isError = files.length := by
  induction files with
  | nil => rfl
  | cons file files ih =>
    rw [List.map_cons, List.countP_cons_of_pos rfl, ih, List.length_cons]

theorem errorCount_performUnder (responsive : host.Responsive) (operation : Operation)
    (terminal : Terminal) (machine : Machine)
    (opened : terminal.documents.length + terminal.unreadable.length = operation.files.length) :
    let run := performUnder host operation terminal machine
    errorCount run.trace = (run.value.map Ending.errors).getD 0 := by
  have command : errorCount (commandRun host operation terminal machine).trace =
      ((commandRun host operation terminal machine).value.map Ending.errors).getD 0 :=
    errorCount_runCommand responsive operation (workspace terminal) _
  have failures : ((terminal.unreadable.map unreadableOutcome).flatMap Outcome.told).countP
      (·.level = .error) = terminal.unreadable.length := by
    rw [Outcome.countP_flatMap_told, countP_unreadableOutcome]
  have count : errorCount (performUnder host operation terminal machine).trace =
      terminal.unreadable.length +
        errorCount (commandRun host operation terminal machine).trace := by
    rw [errorCount, notifications_performUnder responsive, List.countP_append, failures, errorCount]
  simp only [count, command, value_performUnder responsive]
  by_cases all : terminal.unreadable = []
  · cases (commandRun host operation terminal machine).value with
    | none => simp [all]
    | some ending => cases ending <;> simp [all, withFailures, Ending.errors]
  · obtain ⟨report, value⟩ := exists_report_of_unreadable host opened all
      ((preamble terminal).run host ⟨machine, []⟩).state
    have reported : (commandRun host operation terminal machine).value = some (.report report) :=
      value
    simp only [reported, Option.map_some, Option.getD_some, withFailures, Ending.errors,
      List.countP_append, countP_unreadableOutcome]

/-- The number of errors in what performing an operation came to. -/
def errors : Option (Except Error Ending) → Nat
  | some (.ok ending) => ending.errors
  | some (.error _) | none => 0

theorem errorCount_performAsking (runner : Runner) (prompter : Prompter)
    (options : TerminalOptions) (operation : Operation) (machine : Machine) :
    let run := performAsking runner prompter options operation machine
    errorCount run.trace = errors run.value := by
  simp only [performAsking, performWith, setUp]
  cases Settings.load machine options.config
      (options.settingsDirectory.getD (.ofPlace machine.directory)) with
  | error error => rfl
  | ok settings =>
    have opened := Terminal.length_ofArguments settings operation.files options.assumeYes machine
    simp only [Except.map]
    generalize Terminal.ofArguments settings operation.files options.assumeYes machine = result
      at opened
    have count := errorCount_performUnder (result.1.hostAsking_responsive runner prompter) operation
      result.1 result.2 opened
    simp only [mapRun] at count ⊢
    rw [count]
    cases (performUnder (result.1.hostAsking runner prompter) operation result.1 result.2).value <;>
      rfl

/-- An error is returned before anything was asked for. -/
theorem trace_of_returned {runner : Runner} {prompter : Prompter} {options : TerminalOptions}
    {operation : Operation} {machine : Machine} {error : Error}
    (returned : (performAsking runner prompter options operation machine).value =
      some (.error error)) :
    (performAsking runner prompter options operation machine).trace = [] := by
  unfold performAsking performWith at returned ⊢
  split at returned
  next failed => simp
  next terminal later opened => simp [mapRun] at returned

/-! ### Overviews -/

/-- Once the tool has run, there is an overview, whatever came of the run. -/
theorem value_of_answered {workspace : Workspace} {target : String} {console : Console}
    {call : Call} {answer : Except String Output}
    (answered : (⟨.run call, some answer⟩ : Event) ∈
      ((overview target).runCommand host workspace console).trace) :
    ∃ invocation : Invocation, invocation.call = call ∧
      ((overview target).runCommand host workspace console).value =
        some (.content (some (Command.overviewContent (invocation.result answer)))) := by
  have goes := (Command.openOverview workspace target).run_goes host console
  simp only [runCommand, mapRun] at answered ⊢
  generalize (Command.openOverview workspace target).run host console = run at answered goes
  cases resolved : workspace.config.interpreter? with
  | none =>
    -- Without an interpreter there is only a notification.
    have parts : Command.openOverview workspace target =
        (Program.report (.ofError .interpreterNotFound)).bind fun _ => .done none := by
      unfold Command.openOverview Command.render
      rw [resolved]
      rfl
    have idle : (Command.openOverview workspace target).Always (·.call? = none) := by
      rw [parts]
      exact Program.always_bind (Program.always_report fun _ _ => rfl) fun _ =>
        Program.always_done none
    have silent : some call = none := idle _ _ goes _ answered
    cases silent
  | some interpreter =>
    let invocation := Command.rendering workspace interpreter (Command.overviewSource target)
    have parts : Command.openOverview workspace target =
        (Program.invoke invocation).bind fun result =>
          .done (some (Command.overviewContent result)) := by
      unfold Command.openOverview Command.render
      rw [resolved]
      rfl
    rw [parts] at goes
    rcases (Program.goes_invoke_bind ..).mp goes with ⟨given, rest, trace, ends⟩ | ⟨trace, -⟩
    · obtain ⟨rfl, value⟩ := (Program.goes_done ..).mp ends
      rw [trace] at answered
      cases List.mem_singleton.mp answered
      exact ⟨invocation, rfl, by rw [value]; rfl⟩
    · rw [trace] at answered
      cases List.mem_singleton.mp answered

theorem value_performUnder_of_answered (responsive : host.Responsive) {target : String}
    {terminal : Terminal} {machine : Machine} {call : Call} {answer : Except String Output}
    (answered : (⟨.run call, some answer⟩ : Event) ∈
      (performUnder host (overview target) terminal machine).trace) :
    ∃ invocation : Invocation, invocation.call = call ∧
      (performUnder host (overview target) terminal machine).value =
        some (.content (some (Command.overviewContent (invocation.result answer)))) := by
  rw [trace_performUnder responsive] at answered
  rcases List.mem_append.mp answered with before | during
  · exact nomatch preamble_idle terminal _ _ (Program.run_goes ..) _ before
  · obtain ⟨invocation, same, value⟩ := value_of_answered during
    refine ⟨invocation, same, ?_⟩
    rw [value_performUnder responsive, commandRun, value]
    rfl

/-! ### The exit status -/

theorem finish_eq_one_iff (machine : Machine) (value : Option (Except Error Ending)) :
    (CommandLine.finish machine value).1 = 1 ↔
      (∃ error, value = some (.error error)) ∨ errors value ≠ 0 := by
  rcases value with _ | error | ⟨report⟩ | ⟨_ | content⟩
  · simp [CommandLine.finish, errors]
  · simp [CommandLine.finish]
  · simp [CommandLine.finish, CommandLine.reportStatus, errors, Ending.errors_report_eq_zero_iff]
  · simp [CommandLine.finish, errors, Ending.errors]
  · simp [CommandLine.finish, errors, Ending.errors]

theorem finish_eq_zero_iff (machine : Machine) (value : Option (Except Error Ending)) :
    (CommandLine.finish machine value).1 = 0 ↔
      (∃ ending, value = some (.ok ending)) ∧ errors value = 0 := by
  rcases value with _ | error | ⟨report⟩ | ⟨_ | content⟩
  · simp [CommandLine.finish]
  · simp [CommandLine.finish]
  · simp [CommandLine.finish, CommandLine.reportStatus, errors, Ending.errors_report_eq_zero_iff]
  · simp [CommandLine.finish, errors, Ending.errors]
  · simp [CommandLine.finish, errors, Ending.errors]

/-- The exit status of an operation says whether an error was returned or notified. -/
structure Reflected (operation : Operation) (run : Run Console (Except Error Ending))
    (status : Nat) : Prop where
  one_iff : status = 1 ↔
    (∃ error, run.value = some (.error error)) ∨
      ∃ notification ∈ run.trace.filterMap Event.notification?, notification.level = .error
  zero_iff : status = 0 ↔
    (∃ ending, run.value = some (.ok ending)) ∧
      ∀ notification ∈ run.trace.filterMap Event.notification?, notification.level ≠ .error
  /-- An error is returned before anything was asked for. -/
  returned : ∀ error, run.value = some (.error error) → run.trace = []
  report : ∀ outcomes, run.value = some (.ok (.report ⟨outcomes⟩)) →
    errorCount run.trace = outcomes.countP Outcome.isError
  content : ∀ shown, run.value = some (.ok (.content shown)) →
    errorCount run.trace = if shown = none then 1 else 0
  /-- What was skipped or declined is no error. -/
  harmless : ∀ outcomes, run.value = some (.ok (.report ⟨outcomes⟩)) →
    (∀ outcome ∈ outcomes, ∀ message, outcome ≠ .configError message ∧ outcome ≠ .failed message) →
    status = 0
  /-- A run of the tool that failed is shown as an overview, which is no error either. -/
  shown : ∀ target, operation = .overview target → ∀ call answer,
    (⟨.run call, some answer⟩ : Event) ∈ run.trace →
    status = 0 ∧ ∃ invocation : Invocation, invocation.call = call ∧
      run.value =
        some (.ok (.content (some (Command.overviewContent (invocation.result answer)))))

theorem reflected_performAsking (runner : Runner) (prompter : Prompter)
    (options : TerminalOptions) (operation : Operation) (machine : Machine) :
    let run := performAsking runner prompter options operation machine
    operation.Reflected run (CommandLine.finish run.state.machine run.value).1 := by
  intro run
  have counted : errorCount run.trace = errors run.value :=
    errorCount_performAsking runner prompter options operation machine
  have rendered : ∀ target, operation = .overview target → ∀ call answer,
      (⟨.run call, some answer⟩ : Event) ∈ run.trace →
      ∃ invocation : Invocation, invocation.call = call ∧ run.value =
        some (.ok (.content (some (Command.overviewContent (invocation.result answer))))) := by
    rintro target rfl call answer answered
    simp only [run, performAsking, performWith] at answered ⊢
    split
    next failed => simp [failed] at answered
    next terminal later opened =>
      simp only [opened, mapRun] at answered
      obtain ⟨invocation, same, value⟩ := value_performUnder_of_answered
        (terminal.hostAsking_responsive runner prompter) answered
      exact ⟨invocation, same, by simp [mapRun, value]⟩
  have passed : (CommandLine.finish run.state.machine run.value).1 = 0 ↔
      (∃ ending, run.value = some (.ok ending)) ∧ errorCount run.trace = 0 := by
    rw [finish_eq_zero_iff, counted]
  exact
    { one_iff := by
        rw [finish_eq_one_iff, ← counted, ne_eq, errorCount_eq_zero_iff]
        simp only [ne_eq, not_forall, Decidable.not_not, exists_prop]
      zero_iff := by rw [passed, errorCount_eq_zero_iff]
      returned := fun error returned => trace_of_returned returned
      report := fun outcomes value => by rw [counted, value, errors, Ending.errors]
      content := fun shown value => by
        rw [counted, value, errors, Ending.errors]
        cases shown <;> rfl
      harmless := by
        intro outcomes value harmless
        refine passed.mpr ⟨⟨_, value⟩, ?_⟩
        rw [counted, value, errors, Ending.errors, List.countP_eq_zero]
        intro outcome member
        have fine := harmless outcome member
        cases outcome with
        | configError message => exact absurd rfl (fine message).1
        | failed message => exact absurd rfl (fine message).2
        | skipped | succeeded | declined => exact Bool.false_ne_true
      shown := by
        intro target same call answer answered
        obtain ⟨invocation, called, value⟩ := rendered target same call answer answered
        refine ⟨passed.mpr ⟨⟨_, value⟩, ?_⟩, invocation, called, value⟩
        rw [counted, value]
        rfl }

/-! ### Main theorem -/

/-- Whatever the files, the tool, the user and the turns of the workers do, a command line exits with
one exactly when it returned an error or notified one, and with zero exactly when it came to its end
without. The error notifications are as many as the outcomes that are errors. -/
theorem status_reflects (runner : Runner) (prompter : Prompter) (options : TerminalOptions)
    (operation : Operation) (machine : Machine) :
    let run := performAsking runner prompter options operation machine
    operation.Reflected run (CommandLine.finish run.state.machine run.value).1 ∧
      ∀ arguments, CommandLine.read arguments = .ok (options, operation) →
        let alone := performAsking runner .absent options operation machine
        CommandLine.run runner arguments machine =
          CommandLine.finish alone.state.machine alone.value := by
  refine ⟨reflected_performAsking runner prompter options operation machine, ?_⟩
  intro arguments reads
  simp only [Terminal.run_eq_finish reads, performAsking_absent]

/-- A tool that is not there. -/
def missingTool : Runner := fun _ machine =>
  (some (.ok ⟨false, some 1, [], Text.encode "No module named miko\n"⟩), machine)

/-- The user is asked about the missing tool and declines, which is no error. The overview shows the
words of the tool. -/
theorem status_reflects_declined :
    let machine := Terminal.pipeMachine ""
    let check := performAsking missingTool .absent {} .checkInstall machine
    let shown := performAsking missingTool .absent {} (.overview "a.py") machine
    checkInstall.Reflected check 0 ∧ (overview "a.py").Reflected shown 0 ∧
      (CommandLine.run missingTool ["check"] machine).1 = 0 ∧
      check.trace.filterMap Event.notification? =
        [⟨.warning, "miko was not installed. Formatting and overviews will fail until it is."⟩] ∧
      shown.value = some (.ok (.content (some "```\nNo module named miko\n```\n"))) := by
  intro machine check shown
  have loaded : Settings.load machine none (.ofPlace machine.directory) =
      .ok { interpreterPath := some "python" } := Terminal.settingsOf_pipeMachine ""
  have checked : check.value =
      some (.ok (single (.declined (Command.declinedMessage "miko")))) ∧
      check.trace.filterMap Event.notification? =
        [⟨.warning, "miko was not installed. Formatting and overviews will fail until it is."⟩] := by
    simp only [check, performAsking, performWith, setUp, Option.getD_none, loaded]
    exact ⟨by decide +kernel, by decide +kernel⟩
  have rendered : shown.value =
      some (.ok (.content (some "```\nNo module named miko\n```\n"))) := by
    simp only [shown, performAsking, performWith, setUp, Option.getD_none, loaded]
    decide +kernel
  obtain ⟨first, runs⟩ := status_reflects missingTool .absent {} .checkInstall machine
  obtain ⟨second, -⟩ := status_reflects missingTool .absent {} (.overview "a.py") machine
  change checkInstall.Reflected check (CommandLine.finish check.state.machine check.value).1 at first
  change (overview "a.py").Reflected shown
    (CommandLine.finish shown.state.machine shown.value).1 at second
  have line : CommandLine.run missingTool ["check"] machine =
      CommandLine.finish check.state.machine check.value := runs ["check"] rfl
  rw [checked.1] at first line
  rw [rendered] at second
  exact ⟨first, second, congrArg Prod.fst line, checked.2, rendered⟩

end Operation

end EditorBridge
