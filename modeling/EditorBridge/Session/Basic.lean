import EditorBridge.Command.Activate
import EditorBridge.Command.FormatAll
import EditorBridge.Command.Install
import EditorBridge.Command.Overview
import EditorBridge.Session.Journal
import EditorBridge.Session.Script

/-!
# Sessions

A bridge in scripted surroundings that performs one action after another. An action runs its
program, uses up answers, and afterwards the texts of the documents follow the replacements that
took effect.
-/

namespace EditorBridge

/-- What can be asked of the bridge. -/
inductive Action where
  | activate
  | format
  /-- Formats all documents, the workers taking turns as the schedule says. -/
  | formatAll (schedule : List Command.Turn)
  /-- The document was saved. -/
  | saved (document : Document)
  | openOverview (target : String)
  | provide (uri : String)
  | render (source : Path)
  | ensureInstalled
  | install
  /-- Runs the tool with arguments of the caller's choice. -/
  | invoke (interpreter : Path) (arguments : List String) (directory : Option Path)
  | probe (interpreter : Path)
  | installTool (interpreter : Path)
  deriving DecidableEq, Repr

/-- What an action answers. -/
inductive Reply where
  | nothing
  | outcome (outcome : Outcome)
  | outcomes (outcomes : List Outcome)
  | overview (content : Option String)
  | document (content : Except Error String)
  | status (status : ToolStatus)
  | ran (result : Except ToolFailure String)

/-- Runs a program under a host and makes a reply of its value. -/
def Program.runAs {α σ : Type} (host : Host σ) (state : σ) (reply : α → Reply)
    (program : Program α) : Run σ Reply :=
  let run := program.run host state
  ⟨run.value.map reply, run.state, run.trace⟩

/-- The run of an action under a host, for any workspace. -/
def Action.runUnder {σ : Type} (host : Host σ) (workspace : Workspace) (state : σ) :
    Action → Run σ Reply
  | .activate => Command.activate.runAs host state fun _ => .nothing
  | .format => (Command.format workspace).runAs host state .outcome
  | .formatAll schedule =>
    let run := Command.formatAll host schedule workspace state
    ⟨run.value.map .outcomes, run.state, run.trace⟩
  | .saved document => (Command.formatSaved workspace document).runAs host state .outcome
  | .openOverview target => (Command.openOverview workspace target).runAs host state .overview
  | .provide uri => (Command.provide workspace uri).runAs host state .document
  | .render source => (Command.render workspace source).runAs host state .document
  | .ensureInstalled => (Command.ensureInstalled workspace).runAs host state .outcome
  | .install => (Command.install workspace).runAs host state .outcome
  | .invoke interpreter arguments directory =>
    (Program.invoke ⟨interpreter, workspace.tool, arguments, directory⟩).runAs host state .ran
  | .probe interpreter => (Command.probe workspace interpreter).runAs host state .status
  | .installTool interpreter =>
    (Program.invoke (.install interpreter workspace.tool)).runAs host state .ran

/-- A bridge at work. -/
structure Session where
  workspace : Workspace
  script : Script

namespace Session

/-- A session at its start. -/
def start (config : Config) (documents : List Document) (script : Script) : Session :=
  ⟨.start config documents, script⟩

/-- Gives the first document with that path a new text. -/
def setText (path : Option Path) (content : String) : List Document → List Document
  | [] => []
  | document :: rest =>
    if document.path = path then { document with text := content } :: rest
    else document :: setText path content rest

/-- The documents after the replacements. -/
def applyAll (replacements : List Replacement) (documents : List Document) : List Document :=
  replacements.foldl
    (fun documents replacement => setText replacement.path replacement.content documents) documents

/-- The run of an action under the host of the script. -/
def runOf (session : Session) (action : Action) : Run (List (Except Error Bool)) Reply :=
  action.runUnder session.script.host session.workspace session.script.answers

/-- What was asked for during an action. -/
def journalOf (action : Action) (trace : List Event) : Journal :=
  match action with
  | .formatAll _ => (Journal.ofTrace trace).sorted
  | _ => .ofTrace trace

/-- Performs an action. There is no reply when asking ended the program. -/
def perform (session : Session) (action : Action) : Run Session Reply :=
  let run := session.runOf action
  let replacements := (journalOf action run.trace).replacements
  let documents := applyAll replacements session.workspace.documents
  { value := run.value
    trace := run.trace
    state :=
      { workspace := { session.workspace with documents := documents }
        script := { session.script with answers := run.state } } }

end Session

end EditorBridge
