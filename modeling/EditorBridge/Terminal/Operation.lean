import EditorBridge.Command.Activate
import EditorBridge.Command.FormatAll
import EditorBridge.Command.Install
import EditorBridge.Command.Overview
import EditorBridge.Settings.File
import EditorBridge.Terminal.Host

/-!
# Operations on a terminal

What the bridge does from a command line: it loads the settings, opens the files as buffers, makes
itself known, reports the files that could not be opened, and then runs one command.
-/

namespace EditorBridge

/-- How an operation finds its settings and answers questions. -/
structure TerminalOptions where
  /-- A settings file that has to exist. -/
  config : Option Path := none
  /-- Where the usual settings file is looked for; without it, in the current directory. -/
  settingsDirectory : Option Path := none
  assumeYes : Bool := false
  deriving DecidableEq, Repr

/-- What is to be done. -/
inductive Operation where
  | formatFile (file : Path)
  /-- Formats all files, the workers taking turns as the schedule says. -/
  | formatFiles (files : List Path) (schedule : List Command.Turn)
  | fileSaved (file : Path)
  | overview (target : String)
  | checkInstall
  | installTool
  deriving DecidableEq, Repr

/-- What an operation ends in. -/
inductive Ending where
  | report (report : Report)
  /-- The content of an overview; it is missing when the error was reported. -/
  | content (content : Option String)
  deriving DecidableEq, Repr

namespace Operation

/-- The files that are opened as buffers. -/
def files : Operation → List Path
  | .formatFile file | .fileSaved file => [file]
  | .formatFiles files _ => files
  | .overview _ | .checkInstall | .installTool => []

/-- Sets the terminal up. -/
def setUp (options : TerminalOptions) (files : List Path) (machine : Machine) :
    Except Error (Terminal × Machine) :=
  let directory := options.settingsDirectory.getD (.ofPlace machine.directory)
  (Settings.load machine options.config directory).map fun settings =>
    Terminal.ofArguments settings files options.assumeYes machine

/-- The outcome of a file that could not be opened. -/
def unreadableOutcome (file : Unreadable) : Outcome :=
  .failed ("Could not open \"" ++ file.path.text ++ "\": " ++ file.error.message)

/-- Reports files that could not be opened. -/
def reportUnreadable : List Unreadable → Program (List Outcome)
  | [] => .done []
  | file :: rest => do
    let outcome ← Program.report (unreadableOutcome file)
    return outcome :: (← reportUnreadable rest)

/-- What goes before the command. -/
def preamble (terminal : Terminal) : Program (List Outcome) := do
  Command.activate
  reportUnreadable terminal.unreadable

/-- The workspace of a terminal. -/
def workspace (terminal : Terminal) : Workspace :=
  .start terminal.settings.value terminal.documents

/-- A report of a single outcome. -/
def single (outcome : Outcome) : Ending := .report ⟨[outcome]⟩

/-- Maps the value of a run. -/
def mapRun {σ α β : Type} (f : α → β) (run : Run σ α) : Run σ β :=
  ⟨run.value.map f, run.state, run.trace⟩

/-- Runs the command itself. -/
def runCommand (operation : Operation) (host : Host Console) (workspace : Workspace)
    (console : Console) : Run Console Ending :=
  match operation with
  | .formatFile _ => mapRun single ((Command.format workspace).run host console)
  | .formatFiles _ schedule =>
    mapRun (fun outcomes => .report ⟨outcomes⟩)
      (Command.formatAll host schedule workspace console)
  | .fileSaved _ =>
    match workspace.documents.head? with
    | some document => mapRun single ((Command.formatSaved workspace document).run host console)
    | none => ⟨some (.report ⟨[]⟩), console, []⟩
  | .overview target =>
    mapRun .content ((Command.openOverview workspace target).run host console)
  | .checkInstall => mapRun single ((Command.ensureInstalled workspace).run host console)
  | .installTool => mapRun single ((Command.install workspace).run host console)

/-- Puts the outcomes of files that could not be opened in front. -/
def withFailures (failures : List Outcome) : Ending → Ending
  | .report report => .report ⟨failures ++ report.outcomes⟩
  | .content content => .content content

/-- Performs an operation on a terminal that is set up, under a host. -/
def performUnder (host : Host Console) (operation : Operation) (terminal : Terminal)
    (machine : Machine) : Run Console Ending :=
  let opening := (preamble terminal).run host ⟨machine, []⟩
  match opening.value with
  | none => ⟨none, opening.state, opening.trace⟩
  | some failures =>
    let rest := operation.runCommand host (workspace terminal) opening.state
    ⟨rest.value.map (withFailures failures), rest.state, opening.trace ++ rest.trace⟩

/-- Performs an operation on a terminal that is set up, as its own host. -/
def performOn (runner : Runner) (operation : Operation) (terminal : Terminal)
    (machine : Machine) : Run Console Ending :=
  performUnder (terminal.host runner) operation terminal machine

/-- Sets a terminal up and performs an operation under a host for it. It ends in an error when the
settings cannot be loaded. -/
def performWith (hostOf : Terminal → Host Console) (options : TerminalOptions)
    (operation : Operation) (machine : Machine) : Run Console (Except Error Ending) :=
  match setUp options operation.files machine with
  | .error error => ⟨some (.error error), ⟨machine, []⟩, []⟩
  | .ok (terminal, machine) =>
    mapRun .ok (performUnder (hostOf terminal) operation terminal machine)

/-- Performs an operation on a terminal without a user. -/
def perform (runner : Runner) (options : TerminalOptions) (operation : Operation)
    (machine : Machine) : Run Console (Except Error Ending) :=
  performWith (·.host runner) options operation machine

/-- Performs an operation with a user at the terminal. -/
def performAsking (runner : Runner) (prompter : Prompter) (options : TerminalOptions)
    (operation : Operation) (machine : Machine) : Run Console (Except Error Ending) :=
  performWith (·.hostAsking runner prompter) options operation machine

end Operation

end EditorBridge
