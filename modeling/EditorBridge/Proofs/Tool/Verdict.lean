import EditorBridge.Proofs.Text.Words
import EditorBridge.Proofs.Version.Order
import EditorBridge.Tool.Status

/-!
# How the answer to a probe is classified

A tool is asked for its version and answers with text. The version is the last word that reads as one
in the first line that says something, so nothing else in the answer has a say in it. Whether it is
outdated is a matter of its first number alone: the oldest supported release is the first one with a
two in front, and what follows the two can only make a release newer.

## Main statements

`Version.ofOutput?_eq_some_iff`, `Version.ofOutput?_eq_none_iff`: the version that an answer names.

`Version.order_minimumSupported`: the releases before the oldest supported one.

`ToolStatus.ofOutput_classifies`: how answers are classified, and what that depends on.
-/

namespace EditorBridge

namespace Version

/-! ### The version that is named -/

/-- The last word of the line that reads as a version reads as this one. -/
def Names (line : List Char) (version : Version) : Prop :=
  ∃ before word after, Text.Worded line (before ++ word :: after) ∧
    ofChars? word = some version ∧ ∀ later ∈ after, ofChars? later = none

/-- No word of the line reads as a version. -/
def Nameless (line : List Char) : Prop :=
  ∃ words, Text.Worded line words ∧ ∀ word ∈ words, ofChars? word = none

theorem findSome?_words_eq_some_iff (line : List Char) (version : Version) :
    (Text.words line).reverse.findSome? ofChars? = some version ↔ Names line version := by
  rw [List.findSome?_eq_some_iff]
  -- What was tried before the word in the reversed list stands behind it in the line.
  constructor
  · rintro ⟨after, word, before, split, reads, later⟩
    refine ⟨before.reverse, word, after.reverse, ?_, reads, ?_⟩
    · rw [← Text.words_eq_iff_worded, ← List.reverse_inj, split]
      simp
    · simpa using later
  · rintro ⟨before, word, after, worded, reads, later⟩
    refine ⟨after.reverse, word, before.reverse, ?_, reads, ?_⟩
    · rw [Text.words_of_worded worded]
      simp
    · simpa using later

theorem findSome?_words_eq_none_iff (line : List Char) :
    (Text.words line).reverse.findSome? ofChars? = none ↔ Nameless line := by
  simp only [List.findSome?_eq_none_iff, List.mem_reverse]
  constructor
  · intro none
    exact ⟨_, Text.worded_words line, none⟩
  · rintro ⟨words, worded, none⟩
    rw [Text.words_of_worded worded]
    exact none

/-- Only the first line that is not blank is searched. -/
theorem ofOutput?_of_headed {output : String} {line : List Char}
    (headed : Text.Headed output.toList line) :
    ofOutput? output = (Text.words line).reverse.findSome? ofChars? := by
  obtain ⟨found, first, same⟩ := Text.find?_lines_of_headed headed
  rw [ofOutput?, first, Option.bind_eq_bind, Option.bind_some, same]

theorem ofOutput?_of_isAllBlank {output : String}
    (blank : Text.isAllBlank output.toList = true) : ofOutput? output = none := by
  rw [ofOutput?, Text.find?_lines_of_isAllBlank blank, Option.bind_eq_bind, Option.bind_none]

theorem ofOutput?_eq_some_iff (output : String) (version : Version) :
    ofOutput? output = some version ↔
      ∃ line, Text.Headed output.toList line ∧ Names line version := by
  constructor
  · intro found
    rcases Text.headed_or_isAllBlank output.toList with blank | ⟨line, headed⟩
    · rw [ofOutput?_of_isAllBlank blank] at found
      cases found
    · rw [ofOutput?_of_headed headed, findSome?_words_eq_some_iff] at found
      exact ⟨line, headed, found⟩
  · rintro ⟨line, headed, names⟩
    rw [ofOutput?_of_headed headed, findSome?_words_eq_some_iff]
    exact names

theorem ofOutput?_eq_none_iff (output : String) :
    ofOutput? output = none ↔
      Text.isAllBlank output.toList = true ∨
        ∃ line, Text.Headed output.toList line ∧ Nameless line := by
  constructor
  · intro none
    refine (Text.headed_or_isAllBlank output.toList).imp_right ?_
    rintro ⟨line, headed⟩
    rw [ofOutput?_of_headed headed, findSome?_words_eq_none_iff] at none
    exact ⟨line, headed, none⟩
  · rintro (blank | ⟨line, headed, nameless⟩)
    · exact ofOutput?_of_isAllBlank blank
    · rw [ofOutput?_of_headed headed, findSome?_words_eq_none_iff]
      exact nameless

example : ofOutput? " \n\nzero v1.4.2 final\r\n2.0\n" = some ⟨1, [4, 2]⟩ := by decide +kernel

/-! ### Releases that are too old -/

theorem comparePadded_ne_lt {numbers zeros : List UInt32} (zero : ∀ number ∈ zeros, number = 0) :
    comparePadded numbers zeros ≠ .lt := by
  have least (number : UInt32) : compare number 0 ≠ .lt := by
    rw [ne_eq, Std.compare_eq_lt]
    exact UInt32.not_lt_zero
  -- Padded or not, each number is compared with a zero.
  fun_induction comparePadded numbers zeros with
  | case1 => decide
  | case2 number numbers ih => simp [Ordering.then_eq_lt, least, ih zero]
  | case3 number numbers ih =>
    obtain ⟨rfl, later⟩ := List.forall_mem_cons.mp zero
    simp [ih later]
  | case4 left lefts right rights ih =>
    obtain ⟨rfl, later⟩ := List.forall_mem_cons.mp zero
    simp [Ordering.then_eq_lt, least, ih later]

/-- A release is too old exactly when its first number is below two. -/
theorem order_minimumSupported (version : Version) :
    version.order minimumSupported = .lt ↔ version.first = 0 ∨ version.first = 1 := by
  have first : version.first < 2 ↔ version.first = 0 ∨ version.first = 1 := by
    constructor
    · intro small
      grind
    · rintro (zero | one)
      · rw [zero]
        decide
      · rw [one]
        decide
  unfold order parts minimumSupported
  rw [comparePadded, Ordering.then_eq_lt, Std.compare_eq_lt, first]
  -- After a two the comparison goes on with a zero, and nothing is below that.
  have later : comparePadded version.rest [0] ≠ .lt := comparePadded_ne_lt (by simp)
  simp [later]

end Version

namespace ToolStatus

/-! ### The verdict -/

theorem ofOutput_eq_outdated_iff (output : String) (found minimum : Version) :
    ofOutput output = .outdated found minimum ↔
      Version.ofOutput? output = some found ∧ minimum = ⟨2, [0]⟩ ∧
        (found.first = 0 ∨ found.first = 1) := by
  unfold ofOutput
  cases named : Version.ofOutput? output with
  | none => simp
  | some version =>
    rw [← Version.order_minimumSupported]
    by_cases old : version.order .minimumSupported = .lt
    · simp only [if_pos old, outdated.injEq, Option.some.injEq]
      constructor
      · rintro ⟨rfl, rfl⟩
        exact ⟨rfl, rfl, old⟩
      · rintro ⟨rfl, rfl, -⟩
        exact ⟨rfl, rfl⟩
    · simp only [if_neg old, reduceCtorEq, Option.some.injEq, false_iff]
      rintro ⟨rfl, -, less⟩
      exact old less

theorem ofOutput_eq_installed_iff (output raw : String) (version : Option Version) :
    ofOutput output = .installed version raw ↔
      Version.ofOutput? output = version ∧ raw = Text.trimString output ∧
        ∀ found, version = some found → found.first ≠ 0 ∧ found.first ≠ 1 := by
  unfold ofOutput
  cases named : Version.ofOutput? output with
  | none =>
    simp only [installed.injEq]
    constructor
    · rintro ⟨rfl, rfl⟩
      exact ⟨rfl, rfl, nofun⟩
    · rintro ⟨rfl, rfl, -⟩
      exact ⟨rfl, rfl⟩
  | some found =>
    have recent : found.order .minimumSupported ≠ .lt ↔ found.first ≠ 0 ∧ found.first ≠ 1 := by
      rw [ne_eq, Version.order_minimumSupported, not_or]
    by_cases old : found.order .minimumSupported = .lt
    · simp only [if_pos old, reduceCtorEq, false_iff]
      rintro ⟨rfl, -, newer⟩
      exact recent.mpr (newer found rfl) old
    · simp only [if_neg old, installed.injEq]
      constructor
      · rintro ⟨rfl, rfl⟩
        refine ⟨rfl, rfl, ?_⟩
        rintro _ ⟨⟩
        exact recent.mp old
      · rintro ⟨rfl, rfl, -⟩
        exact ⟨rfl, rfl⟩

theorem ofOutput_ne_notInstalled (output reason : String) :
    ofOutput output ≠ .notInstalled reason := by
  unfold ofOutput
  split
  · nofun
  · split <;> nofun

theorem ofOutput_blankLines {front : String} (blank : Text.BlankLines front.toList)
    (output : String) : ofOutput (front ++ output) = ofOutput output := by
  have named : Version.ofOutput? (front ++ output) = Version.ofOutput? output := by
    rw [Version.ofOutput?, String.toList_append, Text.find?_lines_blankLines blank]
    rfl
  have raw : Text.trimString (front ++ output) = Text.trimString output := by
    rw [Text.trimString, String.toList_append, Text.trim_blankLines blank]
    rfl
  rw [ofOutput, ofOutput, named, raw]

/-- What stands behind the first line that is not blank says nothing about the version. -/
theorem ofOutput?_eq_of_headed {first second : String} {line : List Char}
    (one : Text.Headed first.toList line) (other : Text.Headed second.toList line) :
    Version.ofOutput? first = Version.ofOutput? second := by
  rw [Version.ofOutput?_of_headed one, Version.ofOutput?_of_headed other]

/-! ### Main theorem -/

/-- How an answer is classified, and what has a say in it. -/
structure Classifies (output : String) : Prop where
  /-- The version is the last one in the first line that is not blank. -/
  named : ∀ version, Version.ofOutput? output = some version ↔
    ∃ line, Text.Headed output.toList line ∧ Version.Names line version
  unnamed : Version.ofOutput? output = none ↔ Text.isAllBlank output.toList = true ∨
    ∃ line, Text.Headed output.toList line ∧ Version.Nameless line
  outdated : ∀ found minimum, ofOutput output = .outdated found minimum ↔
    Version.ofOutput? output = some found ∧ minimum = ⟨2, [0]⟩ ∧
      (found.first = 0 ∨ found.first = 1)
  installed : ∀ version raw, ofOutput output = .installed version raw ↔
    Version.ofOutput? output = version ∧ raw = Text.trimString output ∧
      ∀ found, version = some found → found.first ≠ 0 ∧ found.first ≠ 1
  present : ∀ reason, ofOutput output ≠ .notInstalled reason
  blankLines : ∀ front : String, Text.BlankLines front.toList →
    ofOutput (front ++ output) = ofOutput output
  /-- Two answers with the same first line that is not blank are outdated together. -/
  behind : ∀ (other : String) line, Text.Headed output.toList line →
    Text.Headed other.toList line →
      ∀ found minimum, ofOutput other = .outdated found minimum ↔
        ofOutput output = .outdated found minimum
  /-- A release that is not after an outdated one is outdated. -/
  older : ∀ found minimum, ofOutput output = .outdated found minimum →
    ∀ (other : String) version, Version.ofOutput? other = some version →
      (version.order found).isLE → ofOutput other = .outdated version minimum

/-- An answer is classified by the last version in its first line that is not blank, and a version is
outdated when it starts with zero or one. -/
theorem ofOutput_classifies (output : String) : Classifies output where
  named := Version.ofOutput?_eq_some_iff output
  unnamed := Version.ofOutput?_eq_none_iff output
  outdated := ofOutput_eq_outdated_iff output
  installed version raw := ofOutput_eq_installed_iff output raw version
  present := ofOutput_ne_notInstalled output
  blankLines _ blank := ofOutput_blankLines blank output
  behind other line headed same found minimum := by
    rw [ofOutput_eq_outdated_iff, ofOutput_eq_outdated_iff, ofOutput?_eq_of_headed headed same]
  older found minimum outdated other version named notAfter := by
    -- What is not after something below the oldest supported release is below that release.
    obtain ⟨-, rfl, old⟩ := (ofOutput_eq_outdated_iff ..).mp outdated
    rw [← Version.order_minimumSupported] at old
    have older : version.order .minimumSupported = .lt := Std.TransCmp.lt_of_isLE_of_lt notAfter old
    rw [Version.order_minimumSupported] at older
    exact (ofOutput_eq_outdated_iff ..).mpr ⟨named, rfl, older⟩

end ToolStatus

end EditorBridge
