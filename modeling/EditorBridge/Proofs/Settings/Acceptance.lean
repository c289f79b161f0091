import EditorBridge.Proofs.Decimal.Whole
import EditorBridge.Proofs.Settings.Entries
import EditorBridge.Proofs.Settings.Validity

/-!
# Which documents are accepted

A document whose sections are tables is accepted exactly when every name in it is known, every value
has the type of its key, and no value violates a condition. Otherwise the error says which of these
failed: a name or a type before any condition, and the conditions in their order.

## Main statements

`Settings.violation?_eq_some_iff`: the condition that is reported.

`Settings.parse_acceptance`: what reading a document comes to.
-/

namespace EditorBridge.Settings

/-! ### Conditions on settings -/

/-- The place of a condition in the order in which they are checked. -/
def Violation.rank : Violation → Nat
  | .emptyTool => 0
  | .emptyFlagPrefix => 1
  | .indentNotPositive => 2

theorem Violation.message_injective {first second : Violation}
    (same : first.message = second.message) : first = second := by
  cases first <;> cases second <;> first | rfl | exact absurd same (by decide)

/-- The settings violate a condition. -/
def Breaks (settings : Settings) : Violation → Prop
  | .emptyTool => Text.isAllBlank settings.toolModule.toList = true
  | .emptyFlagPrefix => settings.flagPrefix = ""
  | .indentNotPositive =>
    ∃ width, settings.indentWidth = some width ∧ width.isPositiveFinite = false

theorem valid_iff {settings : Settings} :
    settings.Valid ↔ ∀ violation, ¬ settings.Breaks violation := by
  constructor
  · intro valid violation broken
    cases violation with
    | emptyTool => exact Bool.false_ne_true (valid.tool.symm.trans broken)
    | emptyFlagPrefix => exact valid.flagPrefix broken
    | indentNotPositive =>
      obtain ⟨width, set, notPositive⟩ := broken
      exact Bool.false_ne_true (notPositive.symm.trans (valid.indent width set))
  · intro none
    refine ⟨Bool.eq_false_iff.mpr (none .emptyTool), none .emptyFlagPrefix, ?_⟩
    intro width set
    rw [← Bool.not_eq_false]
    exact fun notPositive => none .indentNotPositive ⟨width, set, notPositive⟩

/-- The violation that is reported is the first one. -/
theorem violation?_eq_some_iff {settings : Settings} {violation : Violation} :
    settings.violation? = some violation ↔
      settings.Breaks violation ∧
        ∀ earlier : Violation, earlier.rank < violation.rank → ¬ settings.Breaks earlier := by
  -- Only the first two conditions can stand before another.
  have order : (∀ earlier : Violation, earlier.rank < violation.rank → ¬ settings.Breaks earlier) ↔
      (0 < violation.rank → ¬ settings.Breaks .emptyTool) ∧
        (1 < violation.rank → ¬ settings.Breaks .emptyFlagPrefix) := by
    constructor
    · exact fun none => ⟨none .emptyTool, none .emptyFlagPrefix⟩
    · rintro ⟨tool, marker⟩ earlier before
      cases earlier with
      | emptyTool => exact tool before
      | emptyFlagPrefix => exact marker before
      | indentNotPositive => cases violation <;> simp [Violation.rank] at before
  have marked : settings.flagPrefix.isEmpty = true ↔ settings.Breaks .emptyFlagPrefix := by
    simp [Breaks]
  have indented : settings.indentWidth.any (!·.isPositiveFinite) = true ↔
      settings.Breaks .indentNotPositive := by
    simp [Breaks, Option.any_eq_true]
  rw [order]
  by_cases tool : settings.Breaks .emptyTool
  · have found : settings.violation? = some .emptyTool := if_pos tool
    cases violation <;> simp [found, Violation.rank, tool]
  · have later := show settings.violation? = _ from if_neg tool
    by_cases marker : settings.Breaks .emptyFlagPrefix
    · rw [if_pos (marked.mpr marker)] at later
      cases violation <;> simp [later, Violation.rank, tool, marker]
    · rw [if_neg (marked.not.mpr marker)] at later
      by_cases indent : settings.Breaks .indentNotPositive
      · rw [if_pos (indented.mpr indent)] at later
        cases violation <;> simp [later, Violation.rank, tool, marker, indent]
      · rw [if_neg (indented.not.mpr indent)] at later
        cases violation <;> simp [later, tool, marker, indent]

/-! ### Conditions on documents -/

/-- The document has a value that violates a condition. -/
def Violates (table : Toml.Table) : Violation → Prop
  | .emptyTool =>
    ∃ text, Gives table .toolModule (.string text) ∧ ∀ c ∈ text.toList, Text.isBlank c = true
  | .emptyFlagPrefix => Gives table .flagPrefix (.string "")
  | .indentNotPositive =>
    (∃ width, Gives table .indentWidth (.integer width) ∧ width ≤ 0) ∨
      ∃ width, Gives table .indentWidth (.float width) ∧ width.isPositiveFinite = false

section Reads

variable {table : Toml.Table} {settings : Settings} (reads : Reads (Gives table) {} settings)

include reads

theorem Reads.value_eq {key : ConfigKey} {value : Toml.Value} (given : Gives table key value) :
    settings.value key = key.meaning? value := by
  obtain ⟨meaning, fits, set⟩ := reads.set key value given
  rw [fits, set]

/-- A value of the settings is one that the document gives, or a default. -/
theorem Reads.source (key : ConfigKey) :
    (∃ value, Gives table key value ∧ key.meaning? value = settings.value key) ∨
      ({} : Settings).value key = settings.value key := by
  by_cases given : ∃ value, Gives table key value
  · obtain ⟨value, given⟩ := given
    exact .inl ⟨value, given, (reads.value_eq given).symm⟩
  · exact .inr (reads.kept key fun value found => given ⟨value, found⟩).symm

theorem Reads.source_text (key : ConfigKey) {text : String}
    (set : settings.value key = some (.text text)) :
    Gives table key (.string text) ∨ ({} : Settings).value key = some (.text text) := by
  rw [← set]
  refine (reads.source key).imp_left ?_
  rintro ⟨value, given, same⟩
  rw [set] at same
  obtain rfl := ConfigKey.eq_string_of_meaning? same
  exact given

/-- The settings of a document violate the conditions that the document violates. -/
theorem Reads.breaks_iff (sound : Toml.Sound Toml.Value.WellFormed table) (violation : Violation) :
    settings.Breaks violation ↔ Violates table violation := by
  cases violation with
  | emptyTool =>
    have blank : settings.Breaks .emptyTool ↔
        ∀ c ∈ settings.toolModule.toList, Text.isBlank c = true := List.all_eq_true
    rw [blank]
    constructor
    · intro blank
      rcases reads.source_text .toolModule rfl with given | unset
      · exact ⟨_, given, blank⟩
      · -- The default has something visible in it.
        have tool : settings.toolModule = "miko" := by simpa [value, eq_comm] using unset
        rw [tool] at blank
        exact absurd (List.all_eq_true.mpr blank) (by decide)
    · rintro ⟨text, given, blank⟩
      have tool : settings.toolModule = text := by
        simpa [value, ConfigKey.meaning?] using reads.value_eq given
      exact tool ▸ blank
  | emptyFlagPrefix =>
    constructor
    · intro empty
      rcases reads.source_text .flagPrefix rfl with given | unset
      · have empty : settings.flagPrefix = "" := empty
        rwa [empty] at given
      · have marker : settings.flagPrefix = "!" := by simpa [value, eq_comm] using unset
        exact absurd (marker.symm.trans empty) (by decide)
    · intro given
      simpa [Breaks, value, ConfigKey.meaning?] using reads.value_eq given
  | indentNotPositive =>
    -- The integers of a document are small enough to stay finite.
    have sign : ∀ integer, Gives table .indentWidth (.integer integer) →
        ((Binary64.ofInt integer).isPositiveFinite = false ↔ integer ≤ 0) := by
      rintro integer ⟨entries, inside, member⟩
      have entries := Toml.Value.wellFormed_table_iff.mp (sound.each _ inside)
      cases entries.each _ member with
      | integer _ least greatest =>
        rw [← Bool.not_eq_true, Binary64.isPositiveFinite_ofInt least greatest, Int.not_lt]
    constructor
    · rintro ⟨width, set, notPositive⟩
      have set : settings.value .indentWidth = some (.number width) := by simp [value, set]
      rcases reads.source .indentWidth with ⟨found, given, same⟩ | unset
      · rcases ConfigKey.eq_number_of_meaning? (same.trans set) with ⟨integer, rfl, rfl⟩ | rfl
        · exact .inl ⟨integer, given, (sign integer given).mp notPositive⟩
        · exact .inr ⟨width, given, notPositive⟩
      · cases unset.trans set
    · rintro (⟨integer, given, notPositive⟩ | ⟨width, given, notPositive⟩)
      · have set := reads.value_eq given
        have set : settings.indentWidth = some (.ofInt integer) := by
          simpa [value, ConfigKey.meaning?] using set
        exact ⟨_, set, (sign integer given).mpr notPositive⟩
      · have set : settings.indentWidth = some width := by
          simpa [value, ConfigKey.meaning?] using reads.value_eq given
        exact ⟨width, set, notPositive⟩

end Reads

/-! ### Main theorem -/

/-- What reading a document comes to. -/
structure Acceptance (table : Toml.Table) (result : Except Error Settings) : Prop where
  accepted : (∃ settings, result = .ok settings) ↔
    Fits table ∧ ∀ violation, ¬ Violates table violation
  /-- A key that the document gives has the value of its entry, wherever that stands. -/
  given : ∀ settings, result = .ok settings → ∀ key value, Gives table key value →
    ∃ meaning, key.meaning? value = some meaning ∧ settings.value key = some meaning
  unset : ∀ settings, result = .ok settings → ∀ key, (∀ value, ¬ Gives table key value) →
    settings.value key = ({} : Settings).value key
  malformed : (∃ detail, result = .error (.malformedSettings detail)) ↔ ¬ Fits table
  /-- The first condition that is violated is named, and only when everything fits. -/
  invalid : ∀ violation : Violation, result = .error (.invalidConfig violation.message) ↔
    Fits table ∧ Violates table violation ∧
      ∀ earlier : Violation, earlier.rank < violation.rank → ¬ Violates table earlier
  refused : ∀ error, result = .error error → (∃ detail, error = .malformedSettings detail) ∨
    ∃ violation : Violation, error = .invalidConfig violation.message

theorem validate_eq_error_iff {settings : Settings} {error : Error} :
    settings.validate = .error error ↔
      ∃ violation, settings.violation? = some violation ∧
        error = .invalidConfig violation.message := by
  rw [validate]
  cases settings.violation? with
  | none => simp
  | some violation => simp [eq_comm]

/-- A document whose sections are tables is accepted exactly when its names are known, its values
have the types of their keys and no condition is violated; otherwise the error says what failed. -/
theorem parse_acceptance {text : String} {table : Toml.Table} (read : Toml.read? text = some table)
    (tabular : Tabular table) : Acceptance table (parse text) := by
  have sound := Toml.Value.wellFormed_table_iff.mp (Toml.wellFormed_of_read? read)
  have fits := exists_ofTable_iff tabular
  rw [parse, read]
  simp only [ofDocument]
  -- The types are checked before any condition.
  cases typed : ofTable table with
  | error mismatch =>
    have unfit : ¬ Fits table := fun good => by
      obtain ⟨settings, found⟩ := fits.mpr good
      cases typed.symm.trans found
    constructor <;> simp [unfit]
  | ok settings =>
    have fit : Fits table := fits.mp ⟨settings, typed⟩
    have reads := reads_ofTable tabular sound typed
    have broken := reads.breaks_iff sound
    refine
      { accepted := ?_
        given := ?_
        unset := ?_
        malformed := ?_
        invalid := ?_
        refused := ?_ }
    · simp only [validate_eq_ok_iff, valid_iff, broken, exists_and_left, exists_eq, and_true, fit,
        true_and]
    · intro accepted result
      obtain ⟨-, rfl⟩ := (validate_eq_ok_iff ..).mp result
      exact reads.set
    · intro accepted result
      obtain ⟨-, rfl⟩ := (validate_eq_ok_iff ..).mp result
      exact reads.kept
    · simp [validate_eq_error_iff, fit]
    · intro violation
      simp only [validate_eq_error_iff, fit, true_and, ← broken, ← violation?_eq_some_iff]
      constructor
      · rintro ⟨found, first, same⟩
        cases Violation.message_injective (Error.invalidConfig.inj same)
        exact first
      · exact fun first => ⟨violation, first, rfl⟩
    · intro error result
      obtain ⟨violation, -, same⟩ := validate_eq_error_iff.mp result
      exact .inr ⟨violation, same⟩

/-- A dotted key in front of a header, and a section with two violations out of order. -/
theorem parse_acceptance_unordered :
    let text := "docstrings.safe = true\n[python]\ninterpreter_path = \"py\"\n"
    let table : Toml.Table :=
      [("docstrings", .table [("safe", .boolean true)]),
        ("python", .table [("interpreter_path", .string "py")])]
    let violating : Toml.Table :=
      [("docstrings", .table [("indent", .float .nan), ("flag_prefix", .string "")])]
    (Acceptance table (parse text) ∧
        ∃ settings, parse text = .ok settings ∧ settings.value .safeMode = some (.flag true)) ∧
      Acceptance violating (parse "[docstrings]\nindent = nan\nflag_prefix = \"\"\n") := by
  intro text table violating
  have tabular : Tabular table := by
    intro group value member
    rcases List.mem_cons.mp member with same | member
    · exact ⟨_, (Prod.mk.inj same).2⟩
    · exact ⟨_, (Prod.mk.inj (List.mem_singleton.mp member)).2⟩
  have violatingTabular : Tabular violating := fun group value member =>
    ⟨_, (Prod.mk.inj (List.mem_singleton.mp member)).2⟩
  have acceptance := parse_acceptance (show Toml.read? text = some table by decide +kernel) tabular
  have accepted : parse text = .ok { interpreterPath := some "py", safeMode := true } := by
    decide +kernel
  obtain ⟨_, means, set⟩ := acceptance.given _ accepted .safeMode (.boolean true)
    ⟨_, List.mem_cons_self, List.mem_cons_self⟩
  exact ⟨⟨acceptance, _, accepted, set.trans means.symm⟩,
    parse_acceptance (by decide +kernel) violatingTabular⟩

end EditorBridge.Settings
