import EditorBridge.Decimal.Reader
import EditorBridge.Text.Blank

/-!
# Configuration

Editors hand out configuration values with loose types: a flag may come as a word, a number as
text. A configuration maps each key to at most one value.
-/

namespace EditorBridge

/-- The settings that the bridge reads. -/
inductive ConfigKey where
  | interpreterPath
  | toolModule
  | indentWidth
  | excludeSelf
  | flagPrefix
  | safeMode
  | useBlack
  | includePrivate
  | formatOnSave
  | outputInPlace
  deriving DecidableEq, Repr

namespace ConfigKey

/-- Every key. -/
def all : List ConfigKey :=
  [.interpreterPath, .toolModule, .indentWidth, .excludeSelf, .flagPrefix, .safeMode, .useBlack,
    .includePrivate, .formatOnSave, .outputInPlace]

/-- The section that holds the key in a settings file. -/
def sectionName : ConfigKey → String
  | .interpreterPath => "python"
  | _ => "docstrings"

/-- The name of the key within its section. -/
def field : ConfigKey → String
  | .interpreterPath => "interpreter_path"
  | .toolModule => "tool"
  | .indentWidth => "indent"
  | .excludeSelf => "noself"
  | .flagPrefix => "flag_prefix"
  | .safeMode => "safe"
  | .useBlack => "use_black"
  | .includePrivate => "include_private"
  | .formatOnSave => "format_on_save"
  | .outputInPlace => "output_in_place"

/-- The full name of the key. -/
def name (key : ConfigKey) : String := key.sectionName ++ "." ++ key.field

end ConfigKey

/-- A loosely typed value. -/
inductive ConfigValue where
  | flag (value : Bool)
  | number (value : Binary64)
  | text (value : String)
  deriving DecidableEq, Repr

namespace ConfigValue

/-- The value as a flag: one of the two words, or a flag itself. -/
def asFlag? : ConfigValue → Option Bool
  | .flag value => some value
  | .text "true" => some true
  | .text "false" => some false
  | _ => none

/-- The value as a number: a number itself, or text that says one, blanks around it aside. -/
def asNumber? : ConfigValue → Option Binary64
  | .number value => some value
  | .text value => Decimal.number? (Text.trim value.toList)
  | .flag _ => none

/-- The value as text. -/
def asText? : ConfigValue → Option String
  | .text value => some value
  | _ => none

end ConfigValue

/-- What an editor answers for each key. -/
abbrev Config := ConfigKey → Option ConfigValue

end EditorBridge
