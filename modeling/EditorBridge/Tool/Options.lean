import EditorBridge.Config
import EditorBridge.Document

/-!
# Options of the tool

The options of each subcommand, and how they follow from the configuration and the document.
-/

namespace EditorBridge

/-- Options for cleaning a document. -/
structure CleanOptions where
  /-- Indentation as configured; it may have a fraction when it comes from a tab size. -/
  indentWidth : Binary64 := .finite false (Decimal.twoTo 52) (-50)
  excludeSelf : Bool := false
  flagPrefix : String := "!"
  safe : Bool := false
  useBlack : Bool := false
  /-- The tool writes the file itself and does not print the result. -/
  outputInPlace : Bool := false
  deriving DecidableEq, Repr

/-- Options for rendering an overview. -/
structure OverviewOptions where
  includePrivate : Bool := false
  safe : Bool := false
  deriving DecidableEq, Repr

/-- The indent passed to the tool: rounded down, between one and the largest 32-bit number, and one
for every width that is no finite number. -/
def CleanOptions.indent (options : CleanOptions) : Nat :=
  max 1 (min options.indentWidth.floor (Decimal.twoTo 32 - 1))

namespace Config

/-- A flag is off unless it is set to a value that reads as true. -/
def isOn (config : Config) (key : ConfigKey) : Bool :=
  ((config key).bind ConfigValue.asFlag?).getD false

/-- The options for cleaning: the indent setting goes before the tab size of the document, and
both before the default; an empty flag marker counts as unset. -/
def cleanOptions (config : Config) (document : Document) : CleanOptions :=
  let defaults : CleanOptions := {}
  { indentWidth :=
      (((config .indentWidth).bind ConfigValue.asNumber?).or document.tabSize).getD
        defaults.indentWidth
    excludeSelf := isOn config .excludeSelf
    flagPrefix :=
      (((config .flagPrefix).bind ConfigValue.asText?).filter (!·.isEmpty)).getD
        defaults.flagPrefix
    safe := isOn config .safeMode
    useBlack := isOn config .useBlack
    outputInPlace := isOn config .outputInPlace }

/-- The options for an overview. -/
def overviewOptions (config : Config) : OverviewOptions where
  includePrivate := isOn config .includePrivate
  safe := isOn config .safeMode

/-- A text setting without the blanks around it, when anything is left. -/
def trimmedText? (config : Config) (key : ConfigKey) : Option String :=
  (((config key).bind ConfigValue.asText?).map Text.trimString).filter (!·.isEmpty)

/-- The module that the tool is run as. -/
def toolModule (config : Config) : String := (trimmedText? config .toolModule).getD "miko"

/-- The interpreter that runs the tool. -/
def interpreter? (config : Config) : Option Path := (trimmedText? config .interpreterPath).map Path.mk

end Config

end EditorBridge
