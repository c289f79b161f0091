import EditorBridge.Command.Program
import EditorBridge.Overview.Fence
import EditorBridge.Overview.Uri
import EditorBridge.Tool.Arguments

/-!
# Overviews

The tool renders the overview of a source file. A failing tool still gives a document: its error
text in a fenced block.
-/

namespace EditorBridge.Command

/-- The tool run that renders an overview. -/
def rendering (workspace : Workspace) (interpreter source : Path) : Invocation where
  interpreter := interpreter
  moduleName := workspace.tool
  arguments := overviewArguments source workspace.config.overviewOptions
  directory := source.directory?

/-- The content shown for a run of the tool. -/
def overviewContent : Except ToolFailure String → String
  | .ok markdown => markdown
  | .error failure => Fence.render failure.message

/-- Renders the overview of a source file. -/
def render (workspace : Workspace) (source : Path) : Program (Except Error String) :=
  match workspace.config.interpreter? with
  | none => .done (.error .interpreterNotFound)
  | some interpreter => do
    let result ← Program.invoke (rendering workspace interpreter source)
    return .ok (overviewContent result)

/-- The content of the document at an overview URI. -/
def provide (workspace : Workspace) (uri : String) : Program (Except Error String) :=
  match OverviewUri.parse uri with
  | .error error => .done (.error error)
  | .ok uri => render workspace uri.source

/-- The source that a target names: that of an overview URI, or the target itself as a path. -/
def overviewSource (target : String) : Path :=
  match OverviewUri.parse target with
  | .ok uri => uri.source
  | .error _ => ⟨target⟩

/-- Opens the overview of a target. Without content the error was reported. -/
def openOverview (workspace : Workspace) (target : String) : Program (Option String) :=
  (render workspace (overviewSource target)).bind fun
    | .ok content => .done (some content)
    | .error error => (Program.report (.ofError error)).bind fun _ => .done none

end EditorBridge.Command
