import EditorBridge.Session.History
import EditorBridge.Settings.Reader

/-!
# Staging a session

A session described by data: settings text with values that go before it, fixed answers for saving
and replacing, and rules for processes. The description can be changed between actions; a change
with malformed settings changes nothing.
-/

namespace EditorBridge

/-- What the configuration and the script of a session are made of. -/
structure Staging where
  settings : Option Settings := none
  /-- Values that go before those of the settings. -/
  overrides : List (ConfigKey × ConfigValue) := []
  saveError : Option Error := none
  replaceError : Option Error := none
  rules : List Rule := []

namespace Staging

/-- The value of a key: that of the overrides, else that of the settings. -/
def config (staging : Staging) : Config := fun key =>
  (staging.overrides.lookup key).or (staging.settings.bind fun settings => settings.value key)

/-- An answer that fails when there is an error. -/
def answerOf : Option Error → Except Error Unit
  | some error => .error error
  | none => .ok ()

/-- The script, with the answers to questions. -/
def script (staging : Staging) (answers : List (Except Error Bool)) : Script where
  save _ := answerOf staging.saveError
  replace _ _ := answerOf staging.replaceError
  run := Rule.answer? staging.rules
  answers := answers

/-- Gives a key a value, or takes its value away. -/
def override (overrides : List (ConfigKey × ConfigValue)) :
    ConfigKey × Option ConfigValue → List (ConfigKey × ConfigValue)
  | (key, some value) => (key, value) :: overrides
  | (key, none) => overrides.filter (·.1 != key)

end Staging

/-- A change of a staged session; what is absent stays as it is. -/
structure Change where
  /-- The text of a settings file. -/
  settings : Option String := none
  /-- Overriding values; a key without a value loses it. -/
  config : List (ConfigKey × Option ConfigValue) := []
  documents : Option (List Document) := none
  answers : Option (List (Except Error Bool)) := none
  saveError : Option (Option Error) := none
  replaceError : Option (Option Error) := none
  rules : Option (List Rule) := none

/-- A session and the description of its surroundings. -/
structure Stage where
  staging : Staging
  session : Session

namespace Stage

/-- The settings after a change. -/
def changedSettings (staging : Staging) : Option String → Except Error (Option Settings)
  | none => .ok staging.settings
  | some content => (Settings.parse content).map some

/-- The description after a change. -/
def changedStaging (staging : Staging) (change : Change) : Except Error Staging :=
  (changedSettings staging change.settings).map fun settings =>
    { settings := settings
      overrides := change.config.foldl Staging.override staging.overrides
      saveError := change.saveError.getD staging.saveError
      replaceError := change.replaceError.getD staging.replaceError
      rules := change.rules.getD staging.rules }

/-- Builds a session from scratch; the module name of the tool is read from the configuration. -/
def start (change : Change) : Except Error Stage :=
  (changedStaging {} change).map fun staging =>
    ⟨staging,
      .start staging.config (change.documents.getD []) (staging.script (change.answers.getD []))⟩

/-- Changes the configuration, the documents and the script. -/
def change (stage : Stage) (change : Change) : Except Error Stage :=
  (changedStaging stage.staging change).map fun staging =>
    let session := stage.session
    let steps : List Step := [
      .configure staging.config,
      .open (change.documents.getD session.workspace.documents),
      .direct (staging.script (change.answers.getD session.script.answers))]
    ⟨staging, session.after steps⟩

/-- Performs an action. -/
def perform (stage : Stage) (action : Action) : Run Stage Reply :=
  let run := stage.session.perform action
  ⟨run.value, ⟨stage.staging, run.state⟩, run.trace⟩

end Stage

end EditorBridge
