import EditorBridge.Command.Program
import EditorBridge.Tool.Status

/-!
# Checking and installing the tool

The tool is asked for its version. When it is missing or too old the user is asked first, and only
a yes starts the installation.
-/

namespace EditorBridge.Command

/-- Asks the tool for its version. -/
def probe (workspace : Workspace) (interpreter : Path) : Program ToolStatus := do
  match ← Program.invoke (.probe interpreter workspace.tool) with
  | .ok output => return .ofOutput output
  | .error failure => return .notInstalled failure.message

/-- The outcome of an installation. -/
def installOutcome (workspace : Workspace) (interpreter : Path) :
    Except ToolFailure String → Outcome
  | .ok _ => .succeeded ("Installed " ++ workspace.tool)
  | .error failure =>
    .failed ("Failed to install " ++ workspace.tool ++ ": " ++
      Text.trimEndString failure.message ++ "\nInstall it manually with `" ++
      Invocation.manualInstall interpreter workspace.tool ++ "`")

/-- Installs the tool and reports how that ended. -/
def installWith (workspace : Workspace) (interpreter : Path) : Program Outcome := do
  let result ← Program.invoke (.install interpreter workspace.tool)
  Program.report (installOutcome workspace interpreter result)

/-- Installs the tool, or upgrades it. -/
def install (workspace : Workspace) : Program Outcome :=
  match workspace.config.interpreter? with
  | none => .report (.ofError .interpreterNotFound)
  | some interpreter => installWith workspace interpreter

/-- What a status asks for: a message that all is well, or a question. -/
def statusVerdict (tool : String) (interpreter : Path) : ToolStatus → Outcome ⊕ String
  | .installed (some version) _ => .inl (.succeeded (tool ++ " " ++ version.text ++ " is installed"))
  | .installed none raw => .inl (.succeeded (tool ++ " is installed (" ++ raw ++ ")"))
  | .notInstalled _ =>
    .inr (tool ++ " is not installed for " ++ interpreter.text ++ ". Install it now?")
  | .outdated found minimum =>
    .inr (tool ++ " " ++ found.text ++ " is outdated (" ++ minimum.text ++
      " or newer is required). Upgrade it now?")

/-- The message when the user turns an installation down. -/
def declinedMessage (tool : String) : String :=
  tool ++ " was not installed. Formatting and overviews will fail until it is."

/-- Makes sure that the tool is installed and recent enough, with the consent of the user. -/
def ensureInstalled (workspace : Workspace) : Program Outcome :=
  match workspace.config.interpreter? with
  | none => .report (.ofError .interpreterNotFound)
  | some interpreter => do
    match statusVerdict workspace.tool interpreter (← probe workspace interpreter) with
    | .inl outcome => Program.report outcome
    | .inr question =>
      match ← Program.request (.confirm question) with
      | .ok true => installWith workspace interpreter
      | .ok false => Program.report (.declined (declinedMessage workspace.tool))
      | .error error => Program.report (.ofError error)

end EditorBridge.Command
