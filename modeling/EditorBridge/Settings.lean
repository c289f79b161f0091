import EditorBridge.Config
import EditorBridge.Error

/-!
# Settings

The typed settings of a file, what they answer for each configuration key, and the conditions that
they must meet.
-/

namespace EditorBridge

/-- The settings of a file; what a file leaves out has these values. -/
structure Settings where
  interpreterPath : Option String := none
  toolModule : String := "miko"
  indentWidth : Option Binary64 := none
  excludeSelf : Bool := false
  flagPrefix : String := "!"
  safeMode : Bool := false
  useBlack : Bool := false
  includePrivate : Bool := false
  formatOnSave : Bool := false
  outputInPlace : Bool := false
  deriving DecidableEq, Repr, Inhabited

namespace Settings

/-- What an editor with these settings answers for a key. -/
def value (settings : Settings) : Config
  | .interpreterPath => settings.interpreterPath.map .text
  | .toolModule => some (.text settings.toolModule)
  | .indentWidth => settings.indentWidth.map .number
  | .excludeSelf => some (.flag settings.excludeSelf)
  | .flagPrefix => some (.text settings.flagPrefix)
  | .safeMode => some (.flag settings.safeMode)
  | .useBlack => some (.flag settings.useBlack)
  | .includePrivate => some (.flag settings.includePrivate)
  | .formatOnSave => some (.flag settings.formatOnSave)
  | .outputInPlace => some (.flag settings.outputInPlace)

/-- A condition that settings can violate. -/
inductive Violation where
  | emptyTool
  | emptyFlagPrefix
  | indentNotPositive
  deriving DecidableEq, Repr

/-- The wording of a violation. -/
def Violation.message : Violation → String
  | .emptyTool => "tool must not be empty"
  | .emptyFlagPrefix => "flag_prefix must not be empty"
  | .indentNotPositive => "indent must be greater than 0"

/-- The first condition that the settings violate. -/
def violation? (settings : Settings) : Option Violation :=
  if Text.isAllBlank settings.toolModule.toList then some .emptyTool
  else if settings.flagPrefix.isEmpty then some .emptyFlagPrefix
  else if settings.indentWidth.any (!·.isPositiveFinite) then some .indentNotPositive
  else none

/-- Refuses settings that violate a condition. -/
def validate (settings : Settings) : Except Error Settings :=
  match settings.violation? with
  | some violation => .error (.invalidConfig violation.message)
  | none => .ok settings

end Settings

end EditorBridge
