import EditorBridge.Proofs.Command.SaveHook
import EditorBridge.Proofs.Terminal.Asking
import EditorBridge.Proofs.Terminal.Files
import EditorBridge.Proofs.Terminal.InputFilter

/-!
# Saved files that the hook leaves alone

The hook does nothing when the setting is off, and for a file whose name is not one of Python. On a
terminal the file is opened before that is known. So a file that cannot be opened is reported all the
same, but nothing runs for it, and a file that can be opened is skipped in silence.

## Main statements

`Operation.not_hookApplies`: a gate that is closed, by the settings and the name of the file.

`Operation.fileSaved_gated`: what saving a file behind a closed gate comes to, for every file.

`Operation.fileSaved_gated_told`: it is not always silent.
-/

namespace EditorBridge

/-- Nothing was done, though something may have been told or made known. -/
def Event.Idle (event : Event) : Prop :=
  event.call? = none ∧ event.saved? = none ∧ event.replacement? = none ∧ event.question? = none

namespace Terminal

/-- The name of the file is that of a Python file. -/
def NamesPython (path : Path) : Prop :=
  ∃ extension ∈ ["py", "pyi", "pyw"], path.extension? = some extension

theorem languageOf_eq_python_iff (path : Path) :
    languageOf path = "python" ↔ NamesPython path := by
  simp only [NamesPython, List.mem_cons, List.not_mem_nil, or_false, exists_eq_or_imp,
    exists_eq_left]
  unfold languageOf
  split <;> simp_all

/-- The terminal that one argument opens. -/
def ofOpened (settings : Settings) (assumeYes : Bool) (file : Path) :
    Except String Document → Terminal
  | .ok document => ⟨settings, [document], [], assumeYes⟩
  | .error reason => ⟨settings, [], [⟨file, .io reason⟩], assumeYes⟩

theorem ofArguments_single (settings : Settings) (file : Path) (assumeYes : Bool)
    (machine : Machine) :
    ofArguments settings [file] assumeYes machine =
      (ofOpened settings assumeYes file (openArgument machine file).1,
        (openArgument machine file).2) := by
  simp only [ofArguments, openEach]
  -- The one argument is a document, or was kept aside.
  cases (openArgument machine file).1 <;> rfl

/-- A document of a file has the language of the name. -/
theorem namesPython_of_openArgument {machine : Machine} {file : Path} {document : Document}
    (opened : (openArgument machine file).1 = .ok document) (named : file ≠ inputMarker)
    (language : document.languageId = "python") : NamesPython file := by
  rw [openArgument, if_neg named] at opened
  obtain ⟨text, -, canonical, -, rfl⟩ := openFile_eq_ok_iff.mp opened
  exact (languageOf_eq_python_iff file).mp language

/-- The argument can be opened: the input is text, or the file is and its path can be resolved. -/
def Opens (machine : Machine) (file : Path) : Prop :=
  (file = inputMarker ∧ ∃ text, Machine.asText machine.stdin = .ok text) ∨
    (file ≠ inputMarker ∧ (∃ text, machine.readText file = .ok text) ∧
      ∃ canonical, machine.canonical file = .ok canonical)

theorem exists_openArgument_iff {machine : Machine} {file : Path} :
    (∃ document, (openArgument machine file).1 = .ok document) ↔ Opens machine file := by
  -- The marker stands for the input, and everything else is the name of a file.
  by_cases marker : file = inputMarker
  · rw [openArgument, if_pos marker]
    simp only [Machine.readInput, Opens, marker, true_and, ne_eq, not_true_eq_false, false_and,
      or_false]
    cases Machine.asText machine.stdin <;> simp [Except.map]
  · rw [openArgument, if_neg marker]
    simp only [openFile_eq_ok_iff, Opens, marker, false_and, false_or, ne_eq, not_false_eq_true,
      true_and]
    constructor
    · rintro ⟨document, text, read, canonical, resolved, -⟩
      exact ⟨⟨text, read⟩, canonical, resolved⟩
    · rintro ⟨⟨text, read⟩, canonical, resolved⟩
      exact ⟨_, text, read, canonical, resolved, rfl⟩

end Terminal

namespace Operation

open Terminal

/-- The hook does not apply to the file: the setting is off, or the name is not one of Python. The
standard input counts as Python. -/
def GatedOff (settings : Settings) (file : Path) : Prop :=
  settings.formatOnSave = false ∨ (file ≠ inputMarker ∧ ¬ NamesPython file)

theorem not_hookApplies {settings : Settings} {file : Path} (gated : GatedOff settings file)
    {machine : Machine} {document : Document}
    (opened : (openArgument machine file).1 = .ok document) (documents : List Document) :
    ¬ Command.HookApplies (.start settings.value documents) document := by
  rintro ⟨on, language⟩
  rcases gated with off | ⟨named, foreign⟩
  · simp [Workspace.start, Settings.value, off] at on
  · exact foreign (namesPython_of_openArgument opened named language)

/-! ### Behind the gate -/

section

variable {settings : Settings} {file : Path} {result : Except String Document}
  (idle : ∀ document, result = .ok document →
    ¬ Command.HookApplies (.start settings.value [document]) document)
  (assumeYes : Bool) (machine : Machine)

include idle

/-- The command asks for nothing. -/
theorem commandRun_gated (host : Host Console) :
    let terminal := ofOpened settings assumeYes file result
    commandRun host (.fileSaved file) terminal machine =
      ⟨some (.report ⟨if result.isOk then [.skipped] else []⟩),
        ((preamble terminal).run host ⟨machine, []⟩).state, []⟩ := by
  intro terminal
  cases result with
  | error reason => rfl -- There is no document for the hook.
  | ok document =>
    have skipped : Command.formatSaved (workspace terminal) document = .done .skipped :=
      Command.formatSaved_eq_of_not (idle document rfl)
    simp only [commandRun, runCommand]
    change mapRun single ((Command.formatSaved (workspace terminal) document).run host _) = _
    rw [skipped]
    rfl

variable (runner : Runner)

/-- All that happens is what goes before the command. -/
theorem performOn_gated :
    let terminal := ofOpened settings assumeYes file result
    let opening := (preamble terminal).run (terminal.host runner) ⟨machine, []⟩
    (Operation.fileSaved file).performOn runner terminal machine =
      ⟨some (.report ⟨terminal.unreadable.map unreadableOutcome ++
        if result.isOk then [.skipped] else []⟩), opening.state, opening.trace⟩ := by
  intro terminal opening
  have responsive := terminal.hostAsking_responsive runner .absent
  rw [terminal.hostAsking_absent] at responsive
  -- Everything in front of the command is answered, so the command is reached.
  have failures := (preamble_run responsive terminal ⟨machine, []⟩).1
  have command : commandRun (terminal.host runner) (.fileSaved file) terminal machine = _ :=
    commandRun_gated idle assumeYes machine (terminal.host runner)
  simp only [commandRun] at command
  simp only [performOn, performUnder, failures, command, List.append_nil]
  rfl

end

/-! ### Main theorem -/

/-- What saving a file comes to when the hook does not apply to it. -/
structure GatedSave (machine : Machine) (file : Path) (run : Run Console (Except Error Ending)) :
    Prop where
  idle : ∀ event ∈ run.trace, event.Idle
  /-- A file that can be opened is skipped in silence, which counts as a success. -/
  opened : Opens machine file →
    run.value = some (.ok (.report ⟨[.skipped]⟩)) ∧
      run.trace.filterMap Event.notification? = [] ∧
      run.state.machine = (openArgument machine file).2
  /-- A file that cannot be opened is the one failure of the report, and the one error told. -/
  unopened : ¬ Opens machine file → ∃ reason,
    let message := "Could not open \"" ++ file.text ++ "\": " ++ reason
    (openArgument machine file).1 = .error reason ∧
      run.value = some (.ok (.report ⟨[.failed message]⟩)) ∧
      run.trace.filterMap Event.notification? = [⟨.error, message⟩] ∧
      run.state.machine = (openArgument machine file).2.printError ("❌ " ++ message ++ "\n")

theorem always_preamble_idle (terminal : Terminal) : (preamble terminal).Always Event.Idle :=
  always_preamble terminal (fun _ _ => ⟨rfl, rfl, rfl, rfl⟩) (fun _ _ => ⟨rfl, rfl, rfl, rfl⟩)
    fun _ _ => ⟨rfl, rfl, rfl, rfl⟩

theorem perform_gated {options : TerminalOptions} {machine : Machine} {settings : Settings}
    {file : Path} (loaded : settingsOf options machine = .ok settings)
    (gated : GatedOff settings file) (runner : Runner) :
    GatedSave machine file ((Operation.fileSaved file).perform runner options machine) := by
  have idle : ∀ document, (openArgument machine file).1 = .ok document →
      ¬ Command.HookApplies (.start settings.value [document]) document :=
    fun document opened => not_hookApplies gated opened [document]
  have performed : (Operation.fileSaved file).perform runner options machine =
      mapRun .ok ((Operation.fileSaved file).performOn runner
        (ofOpened settings options.assumeYes file (openArgument machine file).1)
        (openArgument machine file).2) := by
    rw [settingsOf] at loaded
    simp only [perform, performWith, performOn, setUp, files, loaded, Except.map, ofArguments_single]
  -- Only what goes before the command is left, and of that only how the file was opened counts.
  rw [performed, performOn_gated idle]
  refine ⟨?_, fun opens => ?_, fun closed => ?_⟩
  · exact always_preamble_idle _ _ _ (Program.run_goes ..)
  · obtain ⟨document, opened⟩ := exists_openArgument_iff.mpr opens
    rw [opened]
    exact ⟨rfl, rfl, rfl⟩
  · cases result : (openArgument machine file).1 with
    | ok document => exact absurd (exists_openArgument_iff.mp ⟨document, result⟩) closed
    | error reason => exact ⟨reason, rfl, rfl, rfl, rfl⟩

/-- Behind a closed gate nothing runs and nothing is written. A file that can be opened is saved in
silence and with success; for any other the one thing that happens is that it is reported. -/
theorem fileSaved_gated {options : TerminalOptions} {machine : Machine} {settings : Settings}
    {file : Path} (loaded : settingsOf options machine = .ok settings)
    (gated : GatedOff settings file) (runner : Runner) :
    GatedSave machine file ((Operation.fileSaved file).perform runner options machine) ∧
    ∀ arguments, CommandLine.read arguments = .ok (options, .fileSaved file) →
      let exit := CommandLine.run runner arguments machine
      (Opens machine file → exit = (0, (openArgument machine file).2)) ∧
        (¬ Opens machine file → exit.1 = 1) := by
  have saves := perform_gated loaded gated runner
  refine ⟨saves, fun arguments reads => ⟨fun opens => ?_, fun closed => ?_⟩⟩
  · obtain ⟨value, -, state⟩ := saves.opened opens
    rw [run_eq_finish reads, value, state]
    rfl
  · obtain ⟨reason, -, value, -⟩ := saves.unopened closed
    rw [run_eq_finish reads, value]
    rfl

/-- An image, a text that is not Python, and no settings file. -/
def imageMachine : Machine where
  tree := ⟨[(["logo.png"], .file [0x89, 0x50, 0x4E, 0x47, 0xFF] false),
    (["notes.md"], .file (Text.encode "# notes") false)]⟩
  directory := []
  stdin := []
  stdout := []
  stderr := []

/-- Without settings the gate is closed. -/
theorem settingsOf_imageMachine : settingsOf {} imageMachine = .ok {} := by decide +kernel

theorem opens_notes : Opens imageMachine ⟨"notes.md"⟩ :=
  exists_openArgument_iff.mp
    ⟨⟨some ⟨"/notes.md"⟩, "# notes", "markdown", none⟩, by decide +kernel⟩

theorem not_opens_image : ¬ Opens imageMachine ⟨"logo.png"⟩ := by
  intro opens
  obtain ⟨document, opened⟩ := exists_openArgument_iff.mpr opens
  have refused : (openArgument imageMachine ⟨"logo.png"⟩).1 = .error Machine.notText := by
    decide +kernel
  cases refused.symm.trans opened

/-- A text that is saved in silence, and an image that is not. -/
theorem fileSaved_gated_image :
    settingsOf {} imageMachine = .ok {} ∧
    GatedSave imageMachine ⟨"notes.md"⟩
      ((Operation.fileSaved ⟨"notes.md"⟩).perform .system {} imageMachine) ∧
    CommandLine.run .system ["save", "notes.md"] imageMachine = (0, imageMachine) ∧
    GatedSave imageMachine ⟨"logo.png"⟩
      ((Operation.fileSaved ⟨"logo.png"⟩).perform .system {} imageMachine) ∧
    (CommandLine.run .system ["save", "logo.png"] imageMachine).1 = 1 := by
  obtain ⟨notes, silent⟩ := fileSaved_gated settingsOf_imageMachine
    (show GatedOff {} ⟨"notes.md"⟩ from .inl rfl) .system
  obtain ⟨image, told⟩ := fileSaved_gated settingsOf_imageMachine
    (show GatedOff {} ⟨"logo.png"⟩ from .inl rfl) .system
  exact ⟨settingsOf_imageMachine, notes, (silent ["save", "notes.md"] rfl).1 opens_notes, image,
    (told ["save", "logo.png"] rfl).2 not_opens_image⟩

/-- A gate that is closed does not keep an image from being reported, so it is not true that every
file is saved in silence and with success. -/
theorem fileSaved_gated_told :
    ¬ ∀ (runner : Runner) (options : TerminalOptions) (machine : Machine) (settings : Settings)
      (file : Path), settingsOf options machine = .ok settings → GatedOff settings file →
      let run := (Operation.fileSaved file).perform runner options machine
      run.trace.filterMap Event.call? = [] ∧ run.trace.filterMap Event.notification? = [] ∧
        ∃ report, run.value = some (.ok (.report report)) ∧ report.isSuccess = true := by
  intro silent
  obtain ⟨-, untold, -⟩ := silent .system {} imageMachine {} ⟨"logo.png"⟩ settingsOf_imageMachine
    (.inl rfl)
  revert untold
  decide +kernel

end Operation

end EditorBridge
