import EditorBridge.Decimal.Digits
import EditorBridge.Decimal.Shortest
import EditorBridge.Settings
import EditorBridge.Text.Quoted
import EditorBridge.Toml.Reader

/-!
# Reading settings

A settings document has two sections, each with its own keys. A section is a table of named values,
or an array of the values alone in the order of the keys. Entries are checked in the order in which
they stand, and the first that does not fit is reported. A section that is missing leaves the defaults
of the settings; in a section that is there, a key without a value has a default of its own.
-/

namespace EditorBridge.Settings

/-- A section of the document. -/
inductive Group where
  | python
  | docstrings
  deriving DecidableEq, Repr

namespace Group

/-- Every section. -/
def all : List Group := [.python, .docstrings]

/-- The name of the section. -/
def name : Group → String
  | .python => "python"
  | .docstrings => "docstrings"

/-- The keys of the section, in the order in which an array lists their values. -/
def keys : Group → List ConfigKey
  | .python => [.interpreterPath]
  | .docstrings =>
    [.toolModule, .indentWidth, .excludeSelf, .flagPrefix, .safeMode, .useBlack, .includePrivate,
      .formatOnSave, .outputInPlace]

end Group

/-- What a value should have been. -/
inductive Wanted where
  | text
  | path
  | number
  | flag
  | group (group : Group)
  deriving DecidableEq, Repr

/-- The wording of what a value should have been. -/
def Wanted.phrase : Wanted → String
  | .text => "a string"
  | .path => "path string"
  | .number => "f64"
  | .flag => "a boolean"
  | .group .python => "struct PythonSettings"
  | .group .docstrings => "struct DocstringSettings"

/-- Why a document does not say settings. -/
inductive Mismatch where
  | unknownField (name : String) (known : List String)
  | invalidType (found : Toml.Value) (wanted : Wanted)

/-- A name or a value between backticks. -/
def ticked (text : String) : String := "\x60" ++ text ++ "\x60"

/-- The names that would have been known. -/
def expectedNames : List String → String
  | [] => "there are no fields"
  | [name] => "expected " ++ ticked name
  | [first, second] => "expected " ++ ticked first ++ " or " ++ ticked second
  | names => "expected one of " ++ ", ".intercalate (names.map ticked)

/-- The wording of a value that was found. -/
def foundText : Toml.Value → String
  | .string text => "string " ++ Text.quote text
  | .integer value => "integer " ++ ticked (Decimal.intText value)
  | .float value => "floating point " ++ ticked value.text
  | .boolean value => "boolean " ++ ticked (if value then "true" else "false")
  | .array _ => "sequence"
  | .table _ | .moment => "map"

/-- The wording of a mismatch. -/
def Mismatch.message : Mismatch → String
  | .unknownField name known => "unknown field " ++ ticked name ++ ", " ++ expectedNames known
  | .invalidType found wanted =>
    "invalid type: " ++ foundText found ++ ", expected " ++ wanted.phrase

/-! ### Values -/

/-- The value as text. -/
def textOf (wanted : Wanted) : Toml.Value → Except Mismatch String
  | .string text => .ok text
  | found => .error (.invalidType found wanted)

/-- The value as a number; an integer is taken as the nearest number. -/
def numberOf : Toml.Value → Except Mismatch Binary64
  | .integer value => .ok (.ofInt value)
  | .float value => .ok value
  | found => .error (.invalidType found .number)

/-- The value as a flag. -/
def flagOf : Toml.Value → Except Mismatch Bool
  | .boolean value => .ok value
  | found => .error (.invalidType found .flag)

/-- Sets one key. -/
def assign (settings : Settings) (key : ConfigKey) (value : Toml.Value) :
    Except Mismatch Settings :=
  match key with
  | .interpreterPath => (textOf .path value).map fun v => { settings with interpreterPath := some v }
  | .toolModule => (textOf .text value).map fun v => { settings with toolModule := v }
  | .indentWidth => (numberOf value).map fun v => { settings with indentWidth := some v }
  | .excludeSelf => (flagOf value).map fun v => { settings with excludeSelf := v }
  | .flagPrefix => (textOf .text value).map fun v => { settings with flagPrefix := v }
  | .safeMode => (flagOf value).map fun v => { settings with safeMode := v }
  | .useBlack => (flagOf value).map fun v => { settings with useBlack := v }
  | .includePrivate => (flagOf value).map fun v => { settings with includePrivate := v }
  | .formatOnSave => (flagOf value).map fun v => { settings with formatOnSave := v }
  | .outputInPlace => (flagOf value).map fun v => { settings with outputInPlace := v }

/-! ### Sections -/

/-- Sets the key of a section that has the given name. -/
def assignNamed (group : Group) (settings : Settings) (entry : String × Toml.Value) :
    Except Mismatch Settings :=
  match group.keys.find? (·.field == entry.1) with
  | some key => settings.assign key entry.2
  | none => .error (.unknownField entry.1 (group.keys.map ConfigKey.field))

/-- The settings as a section starts out: each of its keys has the value that stands for no value. -/
def Group.reset (group : Group) (settings : Settings) : Settings :=
  match group with
  | .python => { settings with interpreterPath := none }
  | .docstrings =>
    { settings with
      toolModule := "miko", indentWidth := none, excludeSelf := false, flagPrefix := "!",
      safeMode := false, useBlack := false, includePrivate := false, formatOnSave := false,
      outputInPlace := false }

/-- The only name in a date or a time, taken as a table. -/
def momentField : String := "$__toml_private_datetime"

/-- Sets the keys of a section. Values beyond the last key of an array are left alone; a date or a
time is a table with a name that no section knows. -/
def assignGroup (group : Group) (settings : Settings) : Toml.Value → Except Mismatch Settings
  | .table entries => entries.foldlM (assignNamed group) (group.reset settings)
  | .moment => assignNamed group (group.reset settings) (momentField, .moment)
  | .array items =>
    (group.keys.zip items).foldlM (fun settings (key, item) => settings.assign key item)
      (group.reset settings)
  | found => .error (.invalidType found (.group group))

/-- Reads a section of the document. -/
def assignSection (settings : Settings) (entry : String × Toml.Value) :
    Except Mismatch Settings :=
  match Group.all.find? (·.name == entry.1) with
  | some group => assignGroup group settings entry.2
  | none => .error (.unknownField entry.1 (Group.all.map Group.name))

/-- The settings that a document says. -/
def ofTable (table : Toml.Table) : Except Mismatch Settings := table.foldlM assignSection {}

/-! ### Documents -/

/-- The settings of a document that meet all conditions. -/
def ofDocument (table : Toml.Table) : Except Error Settings :=
  match ofTable table with
  | .error mismatch => .error (.malformedSettings mismatch.message)
  | .ok settings => settings.validate

/-- The settings that a text says. The text as a whole must be a document before any of its entries
counts. -/
def parse (text : String) : Except Error Settings :=
  match Toml.read? text with
  | none => .error (.malformedSettings "not a settings document\n")
  | some table => ofDocument table

end EditorBridge.Settings
