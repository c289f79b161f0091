import EditorBridge.Command.Program
import EditorBridge.Overview.Uri

/-!
# Activation

The bridge makes its commands and its overview scheme known to the editor.
-/

namespace EditorBridge.Command

/-- The names under which an editor calls the commands. -/
def commandIds : List String :=
  ["docbridge.format", "docbridge.formatAll", "docbridge.overview", "docbridge.checkInstall"]

/-- Asks for several things in turn. -/
def requestEach : List Request → Program Unit
  | [] => .done ()
  | request :: rest => .ask request fun _ => requestEach rest

/-- Registers every command, then the scheme. -/
def activate : Program Unit :=
  requestEach (commandIds.map .registerCommand ++ [.registerScheme OverviewUri.scheme])

end EditorBridge.Command
