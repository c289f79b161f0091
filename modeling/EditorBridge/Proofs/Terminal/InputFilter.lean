import EditorBridge.Proofs.Command.Cleaning
import EditorBridge.Proofs.Terminal.Files
import EditorBridge.Proofs.Terminal.Printing
import EditorBridge.Terminal.CommandLine

/-!
# The standard input through a pipe

Formatting the standard input prints what the buffer is given, and a buffer whose text the tool
would not change is given nothing. So the output of the tool comes out of the pipe when it differs
from the input, and is lost when the two are the same text.

## Main statements

`formatInput_filters`: what a command line that formats the standard input prints on the standard
output, for every outcome, and when that is the output of the tool.

`formatInput_unchanged`: an input that is formatted already does not come out again.
-/

namespace EditorBridge

theorem Text.encode_eq_nil_iff (text : String) : Text.encode text = [] ↔ text = "" := by
  simp only [Text.encode, List.flatMap_eq_nil_iff, String.utf8EncodeChar_ne_nil, imp_false]
  rw [← List.eq_nil_iff_forall_not_mem, String.toList_eq_nil_iff]

namespace Terminal

/-! ### The untitled buffer -/

/-- While the standard output is reserved, formatting that does not succeed prints nothing there. -/
theorem run_formatDocument_failed {terminal : Terminal} {runner : Runner} {workspace : Workspace}
    {document : Document} {save : Bool} {console : Console} (captures : runner.Captures)
    (reserved : terminal.isOutputReserved = true)
    (failed : ∀ outcome, ((Command.formatDocument workspace document save).run
      (terminal.host runner) console).value = some outcome → outcome.isSuccess = false) :
    ((Command.formatDocument workspace document save).run
      (terminal.host runner) console).state.machine.stdout = console.machine.stdout := by
  rw [run_stdout captures, flatMap_printed reserved,
    Command.formatDocument_unreplaced (terminal.host_hears runner) failed]
  exact List.append_nil _

theorem run_invoke (terminal : Terminal) (runner : Runner) (invocation : Invocation)
    (console : Console) :
    let run := (Program.invoke invocation).run (terminal.host runner) console
    run.value = (runner invocation.call console.machine).1.map invocation.result ∧
      run.trace.filterMap Event.replacement? = [] := by
  simp only [Program.invoke, Program.run, host]
  rcases runner invocation.call console.machine with ⟨_ | answer, later⟩ <;> exact ⟨rfl, rfl⟩

/-- Giving an untitled buffer the output of the tool always works. -/
theorem run_applyOutput_untitled (terminal : Terminal) (runner : Runner) (workspace : Workspace)
    (text output : String) (console : Console) :
    let run :=
      (Command.applyOutput workspace (untitled text) output).run (terminal.host runner) console
    run.value = some (.ok ()) ∧
      run.trace.filterMap Event.replacement? = if output = text then [] else [⟨none, output⟩] := by
  by_cases same : output = text
  · have ends : Command.applyOutput workspace (untitled text) output = .done (.ok ()) :=
      if_pos ((Command.keeps_iff ..).mpr (.inr same))
    rw [ends, if_pos same]
    exact ⟨rfl, rfl⟩
  · have changed : ¬ Command.Kept workspace (untitled text) output := by
      rintro (⟨-, filed⟩ | kept)
      · cases filed
      · exact same kept
    have asks : Command.applyOutput workspace (untitled text) output =
        .request (.replace (untitled text) output) :=
      if_neg fun kept => changed ((Command.keeps_iff ..).mp kept)
    rw [asks, if_neg same]
    exact ⟨rfl, rfl⟩

/-- The result of cleaning an untitled buffer once its content was set. -/
def applied (text : String) : Except Error Unit → Program (Except Error String)
  | .error error => .done (.error error)
  | .ok _ => .done (.ok (Command.formattedMessage (untitled text)))

/-- What is left of cleaning an untitled buffer once the tool has run. -/
def cleaned (workspace : Workspace) (text : String) :
    Except ToolFailure String → Program (Except Error String)
  | .error failure => .done (.error (.process failure))
  | .ok output => (Command.applyOutput workspace (untitled text) output).bind (applied text)

/-- Cleaning an untitled buffer begins with the tool, since there is no file to save. -/
theorem clean_untitled {workspace : Workspace} {interpreter : Path}
    (resolved : workspace.config.interpreter? = some interpreter) (text : String) (save : Bool) :
    Command.clean workspace (untitled text) save =
      (Program.invoke (Command.cleaning workspace interpreter (untitled text))).bind
        (cleaned workspace text) := by
  have unsaved : Command.saveFirst save (untitled text) = .done (.ok ()) :=
    if_neg (by simp [untitled])
  unfold Command.clean
  rw [resolved]
  simp only [unsaved]
  refine congrArg (fun rest => (Program.invoke _).bind rest) (funext fun produced => ?_)
  cases produced with
  | error failure => rfl
  | ok output =>
    refine congrArg (fun rest => (Command.applyOutput _ _ _).bind rest) (funext fun applying => ?_)
    cases applying <;> rfl

/-- When the tool succeeds on an untitled buffer, so does cleaning it, and the buffer is given the
output of the tool unless that is its text already. -/
theorem run_clean_untitled (terminal : Terminal) {runner : Runner} {workspace : Workspace}
    {interpreter : Path} {text : String} (save : Bool) {console : Console} {output : Output}
    (resolved : workspace.config.interpreter? = some interpreter)
    (ran : (runner (Command.cleaning workspace interpreter (untitled text)).call
      console.machine).1 = some (.ok output))
    (success : output.success = true) :
    let run := (Command.clean workspace (untitled text) save).run (terminal.host runner) console
    run.value = some (.ok (Command.formattedMessage (untitled text))) ∧
      run.trace.filterMap Event.replacement? =
        if Text.decodeLossy output.stdout = text then []
        else [⟨none, Text.decodeLossy output.stdout⟩] := by
  obtain ⟨invoked, unchanged⟩ := run_invoke terminal runner
    (Command.cleaning workspace interpreter (untitled text)) console
  have result : (Command.cleaning workspace interpreter (untitled text)).result (.ok output) =
      .ok (Text.decodeLossy output.stdout) := if_pos success
  rw [ran, Option.map_some, result] at invoked
  obtain ⟨set, replaced⟩ := run_applyOutput_untitled terminal runner workspace text
    (Text.decodeLossy output.stdout)
    ((Program.invoke (Command.cleaning workspace interpreter (untitled text))).run
      (terminal.host runner) console).state
  rw [clean_untitled resolved, Program.run_bind invoked, cleaned, Program.run_bind set]
  refine ⟨rfl, ?_⟩
  simp only [applied, Program.run, List.append_nil, List.filterMap_append, unchanged, replaced,
    List.nil_append]

/-- When the tool succeeds on an untitled buffer, so does formatting it, and what is printed is the
output of the tool unless that is the text of the buffer already. -/
theorem run_formatDocument_untitled (terminal : Terminal) {runner : Runner} (workspace : Workspace)
    {interpreter : Path} {text : String} (save : Bool) (console : Console) {output : Output}
    (captures : runner.Captures) (reserved : terminal.isOutputReserved = true)
    (resolved : workspace.config.interpreter? = some interpreter)
    (ran : (runner (Command.cleaning workspace interpreter (untitled text)).call
      console.machine).1 = some (.ok output))
    (success : output.success = true) :
    let run := (Command.formatDocument workspace (untitled text) save).run
      (terminal.host runner) console
    run.value = some (.succeeded (Command.formattedMessage (untitled text))) ∧
      run.state.machine.stdout = console.machine.stdout ++
        if Text.decodeLossy output.stdout = text then []
        else Text.encode (Text.decodeLossy output.stdout) := by
  intro run
  obtain ⟨cleaned, replaced⟩ := run_clean_untitled terminal save resolved ran success
  let before := (Command.clean workspace (untitled text) save).run (terminal.host runner) console
  let outcome : Outcome := .succeeded (Command.formattedMessage (untitled text))
  obtain ⟨value, trace⟩ := Program.run_report (terminal.host_hears runner) outcome before.state
  have whole : run = ⟨_, _, _⟩ := Program.run_bind cleaned _
  -- The notification of the outcome replaces nothing.
  have all : run.trace.filterMap Event.replacement? =
      before.trace.filterMap Event.replacement? := by
    rw [whole, List.filterMap_append]
    exact (congrArg _ (congrArg _ trace)).trans (List.append_nil _)
  refine ⟨by rw [whole]; exact value, ?_⟩
  rw [run_stdout captures, flatMap_printed reserved]
  refine congrArg (console.machine.stdout ++ ·) ?_
  refine (congrArg (·.flatMap Replacement.printed) (all.trans replaced)).trans ?_
  split
  next => rfl
  next => exact List.append_nil _

/-! ### The command line -/

/-- The terminal whose only buffer is the standard input. -/
def ofInput (settings : Settings) (assumeYes : Bool) (text : String) : Terminal :=
  ⟨settings, [untitled text], [], assumeYes⟩

/-- The terminal that could not read the standard input. -/
def ofUnreadableInput (settings : Settings) (assumeYes : Bool) (reason : String) : Terminal :=
  ⟨settings, [], [⟨inputMarker, .io reason⟩], assumeYes⟩

theorem ofArguments_input (settings : Settings) (assumeYes : Bool) (machine : Machine) :
    ofArguments settings [inputMarker] assumeYes machine =
      (match Machine.asText machine.stdin with
        | .ok text => ofInput settings assumeYes text
        | .error reason => ofUnreadableInput settings assumeYes reason,
        { machine with stdin := [] }) := by
  simp only [ofArguments, openEach, openArgument, Machine.readInput, if_true]
  cases Machine.asText machine.stdin <;> rfl

/-- Nothing is printed before the buffer is formatted. -/
theorem performOn_input (runner : Runner) (settings : Settings) (assumeYes : Bool) (text : String)
    (machine : Machine) :
    let terminal := ofInput settings assumeYes text
    ∃ registrations,
      let run := (Command.formatDocument (Operation.workspace terminal) (untitled text) true).run
        (terminal.host runner) ⟨machine, registrations⟩
      let performed := (Operation.formatFile inputMarker).performOn runner terminal machine
      performed.value = run.value.map Operation.single ∧ performed.state = run.state := by
  -- Making itself known leaves registrations only, and no file was unreadable.
  refine ⟨_, ?_, rfl⟩
  exact Option.map_map ..

/-- An input that cannot be read is reported on the error stream. -/
theorem performOn_unreadable (runner : Runner) (settings : Settings) (assumeYes : Bool)
    (reason : String) (machine : Machine) :
    let performed := (Operation.formatFile inputMarker).performOn runner
      (ofUnreadableInput settings assumeYes reason) machine
    (∃ message, performed.value = some (.report ⟨[.failed message, .skipped]⟩)) ∧
      performed.state.machine.stdout = machine.stdout :=
  ⟨⟨_, rfl⟩, rfl⟩

/-! ### Main theorem -/

/-- The settings that an operation works with. -/
def settingsOf (options : TerminalOptions) (machine : Machine) : Except Error Settings :=
  Settings.load machine options.config
    (options.settingsDirectory.getD (.ofPlace machine.directory))

/-- The process that cleans the standard input. -/
def inputCall (settings : Settings) (interpreter : Path) (text : String) : Call :=
  (Command.cleaning (.start settings.value [untitled text]) interpreter (untitled text)).call

/-- What formatting the standard input leaves: an exit status and a machine. -/
structure FiltersInput (runner : Runner) (options : TerminalOptions) (machine : Machine)
    (exit : Nat × Machine) : Prop where
  /-- Without success nothing is printed on the standard output. -/
  failed : exit.1 ≠ 0 → exit.2.stdout = machine.stdout
  /-- When the tool succeeds, its output is printed and nothing else, unless it is the input. -/
  succeeded : ∀ settings text interpreter output,
    settingsOf options machine = .ok settings →
    Machine.asText machine.stdin = .ok text →
    settings.value.interpreter? = some interpreter →
    (runner (inputCall settings interpreter text) { machine with stdin := [] }).1 =
      some (.ok output) →
    output.success = true →
    exit.1 = 0 ∧
      exit.2.stdout = (machine.stdout ++
        if Text.decodeLossy output.stdout = text then []
        else Text.encode (Text.decodeLossy output.stdout)) ∧
      (exit.2.stdout = machine.stdout ++ Text.encode (Text.decodeLossy output.stdout) ↔
        Text.decodeLossy output.stdout ≠ text ∨ Text.decodeLossy output.stdout = "")

/-- How the input was read decides which terminal the operation works on. -/
theorem perform_input (runner : Runner) (options : TerminalOptions) (machine : Machine) :
    (Operation.formatFile inputMarker).perform runner options machine =
      match settingsOf options machine with
      | .error error => ⟨some (.error error), ⟨machine, []⟩, []⟩
      | .ok settings =>
        let terminal := match Machine.asText machine.stdin with
          | .ok text => ofInput settings options.assumeYes text
          | .error reason => ofUnreadableInput settings options.assumeYes reason
        Operation.mapRun .ok ((Operation.formatFile inputMarker).performOn runner terminal
          { machine with stdin := [] }) := by
  simp only [Operation.perform, Operation.performWith, Operation.performOn, Operation.setUp,
    Operation.files, settingsOf]
  cases Settings.load machine options.config
      (options.settingsDirectory.getD (.ofPlace machine.directory)) with
  | error error => rfl
  | ok settings => simp only [Except.map, ofArguments_input]

/-- A single outcome is the end: nothing is printed behind it, and success exits with zero. -/
theorem finish_single (machine : Machine) (value : Option Outcome) :
    let exit := CommandLine.finish machine ((value.map Operation.single).map .ok)
    exit.2 = machine ∧
      (exit.1 ≠ 0 → ∀ outcome, value = some outcome → outcome.isSuccess = false) := by
  rcases value with _ | outcome
  · exact ⟨rfl, nofun⟩
  · refine ⟨rfl, fun status other same => ?_⟩
    obtain rfl := Option.some.inj same
    cases outcome with
    | succeeded message => exact absurd rfl status
    | skipped | declined | configError | failed => rfl

theorem perform_input_failed {runner : Runner} (captures : runner.Captures)
    (options : TerminalOptions) (machine : Machine) :
    let run := (Operation.formatFile inputMarker).perform runner options machine
    let exit := CommandLine.finish run.state.machine run.value
    exit.1 ≠ 0 → exit.2.stdout = machine.stdout := by
  intro run exit
  simp only [exit, run, perform_input]
  cases settingsOf options machine with
  | error error => exact fun _ => rfl
  | ok settings =>
    cases Machine.asText machine.stdin with
    | error reason =>
      obtain ⟨⟨message, value⟩, unprinted⟩ := performOn_unreadable runner settings
        options.assumeYes reason { machine with stdin := [] }
      simp only [Operation.mapRun, value, Option.map_some]
      exact fun _ => unprinted
    | ok text =>
      obtain ⟨registrations, value, state⟩ := performOn_input runner settings options.assumeYes text
        { machine with stdin := [] }
      simp only [Operation.mapRun, value, state]
      intro status
      obtain ⟨same, failed⟩ := finish_single _ _
      rw [same]
      exact run_formatDocument_failed captures rfl (failed status)

theorem perform_input_succeeded {runner : Runner} (captures : runner.Captures)
    {options : TerminalOptions} {machine : Machine} {settings : Settings} {text : String}
    {interpreter : Path} {output : Output} (loaded : settingsOf options machine = .ok settings)
    (readable : Machine.asText machine.stdin = .ok text)
    (resolved : settings.value.interpreter? = some interpreter)
    (ran : (runner (inputCall settings interpreter text) { machine with stdin := [] }).1 =
      some (.ok output))
    (success : output.success = true) :
    let run := (Operation.formatFile inputMarker).perform runner options machine
    let exit := CommandLine.finish run.state.machine run.value
    exit.1 = 0 ∧
      exit.2.stdout = machine.stdout ++
        if Text.decodeLossy output.stdout = text then []
        else Text.encode (Text.decodeLossy output.stdout) := by
  intro run exit
  obtain ⟨registrations, value, state⟩ := performOn_input runner settings options.assumeYes text
    { machine with stdin := [] }
  simp only [exit, run, perform_input, loaded, readable, Operation.mapRun, value, state]
  obtain ⟨succeeded, printed⟩ := run_formatDocument_untitled
    (ofInput settings options.assumeYes text)
    (Operation.workspace (ofInput settings options.assumeYes text)) true
    ⟨{ machine with stdin := [] }, registrations⟩ captures rfl resolved ran success
  rw [succeeded]
  exact ⟨rfl, printed⟩

/-- A command line that reads as an operation performs it and exits. -/
theorem run_eq_finish {arguments : List String} {options : TerminalOptions} {operation : Operation}
    (reads : CommandLine.read arguments = .ok (options, operation)) (runner : Runner)
    (machine : Machine) :
    let run := operation.perform runner options machine
    CommandLine.run runner arguments machine = CommandLine.finish run.state.machine run.value := by
  simp only [CommandLine.run, reads]

/-- Formatting the standard input prints the output of the tool when that differs from the input.
It prints nothing when the two are the same, nor when anything fails. -/
theorem formatInput_filters {runner : Runner} (captures : runner.Captures)
    (options : TerminalOptions) (machine : Machine) :
    let run := (Operation.formatFile inputMarker).perform runner options machine
    let exit := CommandLine.finish run.state.machine run.value
    FiltersInput runner options machine exit ∧
      ∀ arguments, CommandLine.read arguments = .ok (options, .formatFile inputMarker) →
        CommandLine.run runner arguments machine = exit := by
  intro run exit
  refine ⟨⟨perform_input_failed captures options machine, ?_⟩, fun arguments reads => ?_⟩
  · intro settings text interpreter output loaded readable resolved ran success
    obtain ⟨status, printed⟩ :=
      perform_input_succeeded captures loaded readable resolved ran success
    refine ⟨status, printed, ?_⟩
    rw [printed, List.append_cancel_left_eq]
    by_cases same : Text.decodeLossy output.stdout = text
    · rw [if_pos same, eq_comm, Text.encode_eq_nil_iff]
      exact ⟨.inr, fun either => either.resolve_left fun different => different same⟩
    · rw [if_neg same]
      exact ⟨fun _ => .inl same, fun _ => rfl⟩
  · exact run_eq_finish reads runner machine

/-! ### A pipe on a machine -/

/-- The text of a settings file that names an interpreter. -/
def interpreterSettings : String := "[python]\ninterpreter_path = \"python\"\n"

/-- A machine with that settings file and with a source on its input. -/
def pipeMachine (source : String) : Machine where
  tree := ⟨[([Settings.fileName], .file (Text.encode interpreterSettings) false)]⟩
  directory := []
  stdin := Text.encode source
  stdout := []
  stderr := []

/-- A tool that prints the source, with a line in front of it. -/
def prefixing (line : String) : Runner := fun call machine =>
  (some (.ok ⟨true, some 0, Text.encode (line ++ call.arguments.getD 3 ""), []⟩), machine)

theorem find_settings (source : String) :
    (pipeMachine source).tree.find [] ⟨"/.docbridge.toml"⟩ =
      .ok ([Settings.fileName], .file (Text.encode interpreterSettings) false) := by
  have steps : (⟨"/.docbridge.toml"⟩ : Path).steps = [.enter Settings.fileName] := by
    decide +kernel
  -- The walk takes a single step, from the root to the file.
  unfold Tree.find Tree.walk
  rw [if_neg (by decide +kernel), if_neg (by decide +kernel), steps]
  rfl

theorem settingsOf_pipeMachine (source : String) :
    settingsOf {} (pipeMachine source) = .ok { interpreterPath := some "python" } := by
  have usual : (Path.ofPlace []).entry Settings.fileName = ⟨"/.docbridge.toml"⟩ := by decide +kernel
  have named : (⟨"/.docbridge.toml"⟩ : Path).text.toList.contains '\x00' = false := by
    decide +kernel
  have found := find_settings source
  have present : (pipeMachine source).isFile ⟨"/.docbridge.toml"⟩ = true := by
    unfold Machine.isFile Machine.named
    rw [named, if_neg Bool.false_ne_true]
    simp only [pipeMachine] at found ⊢
    rw [found]
    rfl
  have content : (pipeMachine source).readText ⟨"/.docbridge.toml"⟩ = .ok interpreterSettings := by
    have text : Machine.asText (Text.encode interpreterSettings) = .ok interpreterSettings :=
      Machine.asText_eq_ok_iff.mpr rfl
    unfold Machine.readText Machine.named Tree.readFile
    rw [named, if_neg Bool.false_ne_true]
    simp only [pipeMachine] at found ⊢
    rw [found]
    exact text
  have settings :
      Settings.parse interpreterSettings = .ok { interpreterPath := some "python" } := by
    decide +kernel
  have file : Settings.file? (pipeMachine source) none (.ofPlace []) =
      some ⟨"/.docbridge.toml"⟩ := by
    simp only [Settings.file?, usual, present, if_true]
  change Settings.load (pipeMachine source) none (.ofPlace []) = _
  simp only [Settings.load, file, content, settings]

theorem prefixing_captures (line : String) : (prefixing line).Captures := fun _ _ => rfl

/-- A source that the tool changes comes out of the pipe as the tool printed it. -/
theorem formatInput_filters_changed :
    let exit := CommandLine.run (prefixing "# cleaned\n") ["format", "-"] (pipeMachine "a = 1\n")
    (prefixing "# cleaned\n").Captures ∧ exit.1 = 0 ∧
      exit.2.stdout = Text.encode "# cleaned\na = 1\n" := by
  intro exit
  have captures := prefixing_captures "# cleaned\n"
  obtain ⟨filters, runs⟩ := formatInput_filters captures {} (pipeMachine "a = 1\n")
  have same : exit = _ := runs ["format", "-"] rfl
  obtain ⟨status, printed, -⟩ := filters.succeeded { interpreterPath := some "python" } "a = 1\n"
    ⟨"python"⟩ ⟨true, some 0, Text.encode "# cleaned\na = 1\n", []⟩ (settingsOf_pipeMachine _)
    (by rfl) (by rfl) (by rfl) rfl
  rw [same]
  exact ⟨captures, status, printed.trans (by decide +kernel)⟩

/-- A source that the tool leaves as it is does not come out of the pipe, although all went well. -/
theorem formatInput_unchanged :
    let exit := CommandLine.run (prefixing "") ["format", "-"] (pipeMachine "a = 1\n")
    settingsOf {} (pipeMachine "a = 1\n") = .ok { interpreterPath := some "python" } ∧
      (prefixing "" (inputCall { interpreterPath := some "python" } ⟨"python"⟩ "a = 1\n")
        { pipeMachine "a = 1\n" with stdin := [] }).1 =
        some (.ok ⟨true, some 0, Text.encode "a = 1\n", []⟩) ∧
      exit.1 = 0 ∧ exit.2.stdout = [] ∧ exit.2.stdout ≠ Text.encode "a = 1\n" := by
  intro exit
  have loaded := settingsOf_pipeMachine "a = 1\n"
  have ran : (prefixing "" (inputCall { interpreterPath := some "python" } ⟨"python"⟩ "a = 1\n")
      { pipeMachine "a = 1\n" with stdin := [] }).1 =
      some (.ok ⟨true, some 0, Text.encode "a = 1\n", []⟩) := by rfl
  obtain ⟨status, printed⟩ :=
    perform_input_succeeded (prefixing_captures "") loaded (by rfl) (by rfl) ran rfl
  have reads : CommandLine.read ["format", "-"] = .ok ({}, .formatFile inputMarker) := rfl
  have same : exit = _ := run_eq_finish reads (prefixing "") (pipeMachine "a = 1\n")
  have silent : exit.2.stdout = [] := by
    rw [same]
    exact printed.trans (by decide +kernel)
  refine ⟨loaded, ran, same ▸ status, silent, ?_⟩
  rw [silent]
  decide +kernel

end Terminal

end EditorBridge
