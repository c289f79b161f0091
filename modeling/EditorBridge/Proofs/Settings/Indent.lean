import EditorBridge.Proofs.Decimal.Value
import EditorBridge.Proofs.Settings.Acceptance
import EditorBridge.Proofs.Settings.RoundTrip
import EditorBridge.Proofs.Tool.ArgumentLine

/-!
# The indent that the tool is told

The width in the settings is kept as a binary number, which cannot hold every integer. The tool is told
a number of 32 bits, and up to there nothing is lost: an integer arrives as it was written, or as the
greatest number of 32 bits when it is above, and any other width arrives as its floor between the same
bounds.

## Main statements

`CleanOptions.indent_eq`: the indent that a width comes to.

`Settings.indents_of_read`: from the settings to the arguments of the tool.
-/

namespace EditorBridge

open Decimal

/-! ### Widths -/

namespace CleanOptions

/-- Whatever is cleaned, this is the indent among the arguments. -/
def TellsIndent (options : CleanOptions) (number : Nat) : Prop :=
  ∀ target, ∃ line, CleanLine.read? (cleanArguments target options) = some line ∧
    line.indent = number

theorem tellsIndent (options : CleanOptions) : options.TellsIndent options.indent := by
  intro target
  refine ⟨.of target options, ?_, rfl⟩
  rw [CleanLine.read?_eq_some_iff, cleanArguments_eq]

variable {options : CleanOptions}

theorem indent_eq {q : ℚ} (width : options.indentWidth.value? = some q) :
    options.indent = max 1 (min ⌊q⌋₊ 4294967295) := by
  rw [indent, Binary64.floor_eq width]
  rfl

theorem indent_eq_one (width : options.indentWidth.value? = none) : options.indent = 1 := by
  rw [indent, Binary64.floor_of_value?_eq_none width]
  rfl

theorem indent_ofInt {n : Nat} (width : options.indentWidth = .ofInt n) (bounded : n < twoTo 63) :
    options.indent = max 1 (min n 4294967295) := by
  have limit : twoTo 32 - 1 = 4294967295 := rfl
  rw [indent, width, limit]
  rcases Nat.le_total n (twoTo 53) with short | long
  · rw [Binary64.floor_ofInt short]
  · -- An integer that may lose bits is far above the greatest number of 32 bits and stays there.
    have above := Binary64.le_floor_ofInt long (Nat.lt_trans bounded (by decide))
    have low : 4294967295 ≤ twoTo 52 := by decide
    have wide : twoTo 52 ≤ twoTo 53 := by decide
    omega

/-- What the indent is for one width, and how it grows with the width. -/
structure IndentRule (options : CleanOptions) : Prop where
  told : options.TellsIndent options.indent
  range : 1 ≤ options.indent ∧ options.indent ≤ 4294967295
  finite : ∀ q, options.indentWidth.value? = some q → options.indent = max 1 (min ⌊q⌋₊ 4294967295)
  other : options.indentWidth.value? = none → options.indent = 1
  monotone : ∀ wider : CleanOptions, ∀ q r, options.indentWidth.value? = some q →
    wider.indentWidth.value? = some r → q ≤ r → options.indent ≤ wider.indent

theorem indentRule (options : CleanOptions) : options.IndentRule where
  told := options.tellsIndent
  range := by
    have limit : twoTo 32 - 1 = 4294967295 := rfl
    rw [indent, limit]
    omega
  finite q width := indent_eq width
  other width := indent_eq_one width
  monotone wider q r narrow wide le := by
    have floors : ⌊q⌋₊ ≤ ⌊r⌋₊ := Nat.floor_mono le
    rw [indent_eq narrow, indent_eq wide]
    omega

end CleanOptions

namespace Settings

/-! ### Widths in a document -/

section Document

variable {table : Toml.Table} {settings : Settings}

theorem Sets.wellFormed (sound : Toml.Sound Toml.Value.WellFormed table) {key : ConfigKey}
    {value : Toml.Value} (given : Sets table key value) : value.WellFormed := by
  obtain ⟨group, content, member, holds⟩ := given
  have inside := sound.each _ member
  cases content with
  | table entries => exact (Toml.Value.wellFormed_table_iff.mp inside).each _ holds.2
  | array items =>
    cases inside with
    | array _ each => exact each value (List.of_mem_zip holds).2
  | _ => cases holds

theorem indentWidth_eq (reads : Reads (Sets table) {} settings) {value : Toml.Value}
    {width : Binary64} (given : Sets table .indentWidth value)
    (means : ConfigKey.meaning? .indentWidth value = some (.number width)) :
    settings.indentWidth = some width := by
  obtain ⟨meaning, fits, set⟩ := reads.set .indentWidth value given
  rw [means] at fits
  obtain rfl := Option.some.inj fits
  simpa [Settings.value] using set

theorem indentWidth_of_cleanOptions {width : Binary64} (set : settings.indentWidth = some width)
    (document : Document) : (settings.value.cleanOptions document).indentWidth = width := by
  simp [Config.cleanOptions, Settings.value, set, ConfigValue.asNumber?]

end Document

/-! ### Main theorem -/

/-- No settings come from the document. Where its entries fit, a condition on settings is named; that
is the one on the indent, unless an earlier one is violated too. -/
structure IndentRefused (table : Toml.Table) (result : Except Error Settings) : Prop where
  never : ∀ settings, result ≠ .ok settings
  invalid : ∀ settings, ofTable table = .ok settings →
    ∃ violation : Violation, result = .error (.invalidConfig violation.message)
  named : ∀ settings, ofTable table = .ok settings → ¬ settings.Breaks .emptyTool →
    ¬ settings.Breaks .emptyFlagPrefix →
    result = .error (.invalidConfig Violation.indentNotPositive.message)

/-- The document is not refused for its indent, and whatever is cleaned with its settings, the tool is
told this number. -/
structure IndentTold (table : Toml.Table) (result : Except Error Settings) (number : Nat) :
    Prop where
  accepted : ∀ settings, ofTable table = .ok settings → ¬ settings.Breaks .emptyTool →
    ¬ settings.Breaks .emptyFlagPrefix → result = .ok settings
  told : ∀ settings, result = .ok settings →
    ∀ document, (settings.value.cleanOptions document).TellsIndent number

section Width

variable {table : Toml.Table} {width : Binary64}
  (set : ∀ settings, ofTable table = .ok settings → settings.indentWidth = some width)

include set

theorem indentRefused_of_width (notPositive : width.isPositiveFinite = false) :
    IndentRefused table (ofDocument table) where
  never settings accepted := by
    obtain ⟨typed, valid⟩ := ofDocument_eq_ok_iff.mp accepted
    have positive := valid.indent width (set settings typed)
    exact Bool.false_ne_true (notPositive.symm.trans positive)
  invalid settings typed := by
    have broken : settings.violation? ≠ none := by
      intro passed
      have positive := ((violation?_eq_none_iff settings).mp passed).indent width (set settings typed)
      exact Bool.false_ne_true (notPositive.symm.trans positive)
    obtain ⟨violation, first⟩ := Option.ne_none_iff_exists'.mp broken
    refine ⟨violation, ?_⟩
    rw [ofDocument, typed]
    exact validate_eq_error_iff.mpr ⟨violation, first, rfl⟩
  named settings typed tool marker := by
    -- Violations are looked for in their order, and the two earlier ones are excluded.
    have first : settings.violation? = some .indentNotPositive := by
      refine violation?_eq_some_iff.mpr ⟨⟨width, set settings typed, notPositive⟩, ?_⟩
      intro earlier before
      cases earlier with
      | emptyTool => exact tool
      | emptyFlagPrefix => exact marker
      | indentNotPositive => exact absurd before (Nat.lt_irrefl _)
    rw [ofDocument, typed]
    exact validate_eq_error_iff.mpr ⟨_, first, rfl⟩

theorem indentTold_of_width (positive : width.isPositiveFinite = true) {number : Nat}
    (indent : ∀ options : CleanOptions, options.indentWidth = width → options.indent = number) :
    IndentTold table (ofDocument table) number where
  accepted settings typed tool marker := by
    refine ofDocument_eq_ok_iff.mpr ⟨typed, valid_iff.mpr ?_⟩
    intro violation
    cases violation with
    | emptyTool => exact tool
    | emptyFlagPrefix => exact marker
    | indentNotPositive =>
      rintro ⟨other, found, notPositive⟩
      obtain rfl := Option.some.inj (found.symm.trans (set settings typed))
      exact Bool.false_ne_true (notPositive.symm.trans positive)
  told settings accepted document := by
    obtain ⟨typed, -⟩ := ofDocument_eq_ok_iff.mp accepted
    rw [← indent _ (indentWidth_of_cleanOptions (set settings typed) document)]
    exact CleanOptions.tellsIndent _

end Width

/-- What the width in a document comes to. -/
structure Indents (table : Toml.Table) (result : Except Error Settings) : Prop where
  integer_refused : ∀ n, Sets table .indentWidth (.integer n) → n ≤ 0 → IndentRefused table result
  integer_told : ∀ n, Sets table .indentWidth (.integer n) → 1 ≤ n →
    IndentTold table result (min n 4294967295).toNat
  /-- In between, the integer is the nearest number of the format. -/
  integer_kept : ∀ n, Sets table .indentWidth (.integer n) →
    ∀ settings, ofTable table = .ok settings →
      ∃ width q, settings.indentWidth = some width ∧ width.IsCanonical ∧ width.value? = some q ∧
        ∀ other : Binary64, other.IsCanonical → ∀ r, other.value? = some r → |q - n| ≤ |r - n|
  float_refused : ∀ x, Sets table .indentWidth (.float x) → (∀ q, x.value? = some q → q ≤ 0) →
    IndentRefused table result
  float_told : ∀ x q, Sets table .indentWidth (.float x) → x.value? = some q → 0 < q →
    IndentTold table result (max 1 (min ⌊q⌋₊ 4294967295))

/-- An integer in the settings is told as it is, up to the greatest number of 32 bits, or refused when
it is not positive; a number with a fraction is told as its floor. From wherever a width comes, the
tool is told a number in the same bounds that grows with it. -/
theorem indents_of_read {text : String} {table : Toml.Table} (read : Toml.read? text = some table) :
    Indents table (parse text) ∧ ∀ options : CleanOptions, options.IndentRule := by
  refine ⟨?_, CleanOptions.indentRule⟩
  have sound := Toml.Value.wellFormed_table_iff.mp (Toml.wellFormed_of_read? read)
  have result : parse text = ofDocument table := by rw [parse, read]
  rw [result]
  -- Whichever way the document sets the width, settings that are read from it have that width.
  have integer : ∀ n, Sets table .indentWidth (.integer n) →
      ∀ settings, ofTable table = .ok settings → settings.indentWidth = some (.ofInt n) :=
    fun n given settings typed => indentWidth_eq (reads_sections sound typed) given rfl
  have float : ∀ x, Sets table .indentWidth (.float x) →
      ∀ settings, ofTable table = .ok settings → settings.indentWidth = some x :=
    fun x given settings typed => indentWidth_eq (reads_sections sound typed) given rfl
  have bounds : ∀ n, Sets table .indentWidth (.integer n) → -(twoTo 63 : Int) ≤ n ∧ n < twoTo 63 := by
    intro n given
    cases given.wellFormed sound with
    | integer _ least greatest => exact ⟨least, greatest⟩
  constructor
  case integer_refused =>
    intro n given notPositive
    obtain ⟨least, greatest⟩ := bounds n given
    apply indentRefused_of_width (integer n given)
    rw [← Bool.not_eq_true, Binary64.isPositiveFinite_ofInt least greatest]
    omega
  case integer_told =>
    intro n given positive
    obtain ⟨least, greatest⟩ := bounds n given
    apply indentTold_of_width (integer n given)
    · exact (Binary64.isPositiveFinite_ofInt least greatest).mpr positive
    · intro options width
      obtain ⟨k, rfl⟩ := Int.eq_ofNat_of_zero_le (Int.le_of_lt positive)
      rw [CleanOptions.indent_ofInt width (by exact_mod_cast greatest)]
      omega
  case integer_kept =>
    intro n given settings typed
    obtain ⟨least, greatest⟩ := bounds n given
    obtain ⟨canonical, q, value, nearest⟩ := Binary64.nearest_ofInt least greatest
    exact ⟨_, q, integer n given settings typed, canonical, value, nearest⟩
  case float_refused =>
    intro x given notPositive
    apply indentRefused_of_width (float x given)
    rw [← Bool.not_eq_true, Binary64.isPositiveFinite_iff]
    rintro ⟨q, value, positive⟩
    exact absurd positive (not_lt.mpr (notPositive q value))
  case float_told =>
    intro x q given value positive
    apply indentTold_of_width (float x given)
    · exact (Binary64.isPositiveFinite_iff x).mpr ⟨q, value, positive⟩
    · rintro options rfl
      exact CleanOptions.indent_eq value

/-- An integer that the format cannot hold, far above the greatest number of 32 bits. -/
theorem indents_of_read_large :
    let text := "[docstrings]\nindent = 9007199254740993\n"
    let table : Toml.Table := [("docstrings", .table [("indent", .integer 9007199254740993)])]
    Toml.read? text = some table ∧ Indents table (parse text) ∧
      ∃ settings, parse text = .ok settings ∧
        ∀ document, (settings.value.cleanOptions document).TellsIndent 4294967295 := by
  intro text table
  have read : Toml.read? text = some table := by
    -- Tables cannot be compared by evaluation, but the text is one that the writer writes.
    have writable : ∀ part ∈ [("docstrings", [("indent", Toml.Scalar.natural 9007199254740993)])],
        Toml.Writable part := by
      intro part member
      obtain rfl := List.mem_singleton.mp member
      refine ⟨isName_name .docstrings, ?_⟩
      intro entry inside
      obtain rfl := List.mem_singleton.mp inside
      exact ⟨isName_field .indentWidth, by decide, by decide⟩
    have written := Toml.read?_written Toml.spelling_escape writable (by decide) (by decide)
    rwa [show Toml.written Toml.escape _ = text by decide +kernel] at written
  obtain ⟨indents, -⟩ := indents_of_read read
  have given : Sets table .indentWidth (.integer 9007199254740993) :=
    ⟨.docstrings, _, List.mem_cons_self, rfl, List.mem_cons_self⟩
  have accepted : parse text =
      .ok { indentWidth := some (.finite false 4503599627370496 1) } := by decide +kernel
  have told := indents.integer_told _ given (by norm_num)
  have number : (min 9007199254740993 4294967295 : Int).toNat = 4294967295 := by decide
  rw [number] at told
  exact ⟨read, indents, _, accepted, told.told _ accepted⟩

end Settings

end EditorBridge
