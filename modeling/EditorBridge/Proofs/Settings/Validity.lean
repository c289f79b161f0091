import EditorBridge.Proofs.Text.Cutting
import EditorBridge.Settings.Reader

/-!
# Valid settings

Settings that were accepted meet every condition on settings.

## Main statements

`Settings.violation?_eq_none_iff`: the check passes exactly the valid settings.

`Settings.valid_of_parse`: what a text says is valid when the text is accepted.
-/

namespace EditorBridge.Settings

/-- The conditions on settings. -/
structure Valid (settings : Settings) : Prop where
  /-- The module name of the tool has something visible in it. -/
  tool : Text.isAllBlank settings.toolModule.toList = false
  flagPrefix : settings.flagPrefix ≠ ""
  /-- An indent that is set is a number above zero. -/
  indent : ∀ width, settings.indentWidth = some width → width.isPositiveFinite = true

theorem violation?_eq_none_iff (settings : Settings) :
    settings.violation? = none ↔ settings.Valid := by
  have positive : settings.indentWidth.any (!·.isPositiveFinite) = false ↔
      ∀ width, settings.indentWidth = some width → width.isPositiveFinite = true := by
    simp only [Option.any_eq_false, Bool.not_eq_false']
  unfold violation?
  constructor
  · intro passed
    split at passed
    next => cases passed
    next visible =>
      split at passed
      next => cases passed
      next marked =>
        split at passed
        next => cases passed
        next indented =>
          exact ⟨Bool.eq_false_iff.mpr visible, by simpa using marked,
            positive.mp (Bool.eq_false_iff.mpr indented)⟩
  · intro valid
    have marked : settings.flagPrefix.isEmpty = false := by simpa using valid.flagPrefix
    simp [valid.tool, marked, positive.mpr valid.indent]

theorem validate_eq_ok_iff (settings validated : Settings) :
    settings.validate = .ok validated ↔ settings.Valid ∧ validated = settings := by
  rw [← violation?_eq_none_iff, validate]
  cases settings.violation? with
  | none => simp [eq_comm]
  | some violation => simp

theorem ofDocument_eq_ok_iff {table : Toml.Table} {settings : Settings} :
    ofDocument table = .ok settings ↔ ofTable table = .ok settings ∧ settings.Valid := by
  unfold ofDocument
  cases ofTable table with
  | error mismatch => simp
  | ok found =>
    simp only [validate_eq_ok_iff, Except.ok.injEq]
    constructor
    · rintro ⟨valid, rfl⟩
      exact ⟨rfl, valid⟩
    · rintro ⟨rfl, valid⟩
      exact ⟨valid, rfl⟩

/-- What an accepted text says is valid. -/
theorem valid_of_parse {text : String} {settings : Settings}
    (accepted : parse text = .ok settings) : settings.Valid := by
  unfold parse at accepted
  split at accepted
  next => cases accepted
  next => exact (ofDocument_eq_ok_iff.mp accepted).2

end EditorBridge.Settings
