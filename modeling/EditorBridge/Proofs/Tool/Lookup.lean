import EditorBridge.Proofs.Text.Cutting
import EditorBridge.Tool.Options

/-!
# Text settings

A text setting counts when it is set, is text and has something visible in it; then it is read
without the blanks around it.

## Main statements

`Config.interpreter?_eq_some_iff`, `Config.interpreter?_eq_none_iff`: when there is an interpreter,
and which.
-/

namespace EditorBridge.Config

theorem trimmedText?_eq_some_iff (config : Config) (key : ConfigKey) (value : String) :
    trimmedText? config key = some value ↔
      ∃ text, config key = some (.text text) ∧ value = Text.trimString text ∧ value ≠ "" := by
  unfold trimmedText?
  rcases config key with _ | ⟨_⟩ | ⟨_⟩ | ⟨text⟩
  · simp
  · simp [ConfigValue.asText?]
  · simp [ConfigValue.asText?]
  · simp only [Option.bind_some, ConfigValue.asText?, Option.map_some, Option.filter_eq_some_iff,
      Option.some.injEq, ConfigValue.text.injEq, exists_eq_left', Bool.not_eq_true',
      String.isEmpty_eq_false_iff]
    exact ⟨fun ⟨same, visible⟩ => ⟨same.symm, visible⟩, fun ⟨same, visible⟩ => ⟨same.symm, visible⟩⟩

theorem trimmedText?_eq_none_iff (config : Config) (key : ConfigKey) :
    trimmedText? config key = none ↔
      ∀ text, config key = some (.text text) → Text.isAllBlank text.toList = true := by
  rw [Option.eq_none_iff_forall_ne_some]
  constructor
  · intro unread text set
    by_contra visible
    refine unread (Text.trimString text) ((trimmedText?_eq_some_iff ..).mpr ⟨text, set, rfl, ?_⟩)
    exact mt (Text.trimString_eq_empty_iff text).mp visible
  · intro blank value read
    obtain ⟨text, set, rfl, visible⟩ := (trimmedText?_eq_some_iff ..).mp read
    exact visible ((Text.trimString_eq_empty_iff text).mpr (blank text set))

/-- The interpreter is the setting without the blanks around it, which leaves something. -/
theorem interpreter?_eq_some_iff (config : Config) (interpreter : Path) :
    config.interpreter? = some interpreter ↔
      ∃ text, config .interpreterPath = some (.text text) ∧
        interpreter.text = Text.trimString text ∧ interpreter.text ≠ "" := by
  rw [interpreter?, Option.map_eq_some_iff]
  constructor
  · rintro ⟨value, read, rfl⟩
    exact (trimmedText?_eq_some_iff ..).mp read
  · intro read
    exact ⟨interpreter.text, (trimmedText?_eq_some_iff ..).mpr read, rfl⟩

/-- There is no interpreter when the setting is not set, is no text, or is blank. -/
theorem interpreter?_eq_none_iff (config : Config) :
    config.interpreter? = none ↔
      ∀ text, config .interpreterPath = some (.text text) → Text.isAllBlank text.toList = true := by
  rw [interpreter?, Option.map_eq_none_iff, trimmedText?_eq_none_iff]

end EditorBridge.Config
