import EditorBridge.Proofs.Decimal.Whole
import EditorBridge.Text.Json
import EditorBridge.Toml.Reader

/-!
# Values that were written

A string is written between double quotes, every character spelled in one of the ways that a basic
string has; a natural in decimal digits; a flag as a word. A value that stands at the end of a line
is read back, up to that end.

## Main statements

`anyString_written`, `momentOrNumber_ofNat`: strings and naturals that were written are read back.

`anyValue_written`: so is every value.
-/

namespace EditorBridge.Toml

theorem ne_of_test {test : Char → Bool} {c other : Char} (passes : test c = true)
    (fails : test other = false) : c ≠ other := by
  rintro rfl
  exact Bool.false_ne_true (fails.symm.trans passes)

/-! ### Strings -/

/-- The ways in which a basic string spells a character. -/
inductive Spelling : Char → List Char → Prop
  | plain {c : Char} (visible : isPlain c = true) (notQuote : c ≠ '"') (notEscape : c ≠ '\\') :
    Spelling c [c]
  | short {c letter : Char} (stands : escapedChar? letter = some c) : Spelling c ['\\', letter]
  | four {c a₁ a₂ a₃ a₄ : Char} (code : hexNumber? [a₁, a₂, a₃, a₄] = some c.toNat) :
    Spelling c ['\\', 'u', a₁, a₂, a₃, a₄]
  | eight {c a₁ a₂ a₃ a₄ a₅ a₆ a₇ a₈ : Char}
    (code : hexNumber? [a₁, a₂, a₃, a₄, a₅, a₆, a₇, a₈] = some c.toNat) :
    Spelling c ['\\', 'U', a₁, a₂, a₃, a₄, a₅, a₆, a₇, a₈]

/-- The spelling that JSON has too, except that the last control character is not plain here. -/
def escape (c : Char) : List Char :=
  if c.toNat = 0x7F then '\\' :: 'u' :: Text.Json.fourDigits c.toNat else Text.Json.textChar c

theorem spelling_escape (c : Char) : Spelling c (escape c) := by
  have digits : ∀ n < 0x80, hexNumber? (Text.Json.fourDigits n) = some n := by decide
  unfold escape
  split
  next last => exact .four (digits _ (by omega))
  next notLast =>
    unfold Text.Json.textChar
    split
    case h_8 notQuote notEscape _ _ _ _ _ =>
      split
      next control => exact .four (digits _ (by omega))
      next visible => exact .plain (by simp [isPlain, notLast]; omega) notQuote notEscape
    all_goals exact .short rfl

theorem codePoint?_of_hexNumber? {digits : List Char} {c : Char}
    (code : hexNumber? digits = some c.toNat) : codePoint? digits = some c := by
  have known : c.toNat.isValidChar := c.valid
  simp [codePoint?, code, known]

theorem Spelling.basicBody {c : Char} {piece : List Char} (spelling : Spelling c piece)
    (rest : List Char) : basicBody (piece ++ rest) = push c (basicBody rest) := by
  cases spelling with
  | plain visible notQuote notEscape =>
    -- Only the last pattern of the reader is left.
    rw [List.singleton_append, Toml.basicBody]
    · simp [visible, notEscape]
    all_goals simp_all
  | @short letter stands =>
    -- No letter stands for a character and starts a code as well.
    have notFour : letter ≠ 'u' := by rintro rfl; cases stands
    have notEight : letter ≠ 'U' := by rintro rfl; cases stands
    rw [List.cons_append, List.singleton_append, Toml.basicBody, stands]
    all_goals simp_all
  | four code => simp [Toml.basicBody, codePoint?_of_hexNumber? code]
  | eight code => simp [Toml.basicBody, codePoint?_of_hexNumber? code]

theorem Spelling.eq_cons {c : Char} {piece : List Char} (spelling : Spelling c piece) :
    ∃ first rest, piece = first :: rest ∧ first ≠ '"' := by
  cases spelling with
  | plain visible notQuote => exact ⟨c, [], rfl, notQuote⟩
  | short => exact ⟨_, _, rfl, by decide⟩
  | four => exact ⟨_, _, rfl, by decide⟩
  | eight => exact ⟨_, _, rfl, by decide⟩

section Strings

variable {escape : Char → List Char} (spells : ∀ c, Spelling c (escape c))

include spells

theorem basicBody_written (text rest : List Char) :
    basicBody (text.flatMap escape ++ '"' :: rest) = some (text, rest) := by
  induction text with
  | nil => rfl
  | cons c text ih =>
    rw [List.flatMap_cons, List.append_assoc, (spells c).basicBody, ih]
    rfl

/-- A basic string is not taken for one of several lines, because no third quote follows. -/
theorem anyString_written (text rest : List Char) (ends : ∀ tail, rest ≠ '"' :: tail) :
    anyString ('"' :: text.flatMap escape ++ '"' :: rest) = some (String.ofList text, rest) := by
  have read : anyString ('"' :: (text.flatMap escape ++ '"' :: rest)) =
      lineString ('"' :: (text.flatMap escape ++ '"' :: rest)) := by
    -- Three quotes in a row would start a string of several lines.
    cases text with
    | nil =>
      rw [List.flatMap_nil, List.nil_append, anyString]
      all_goals simp_all
    | cons c text =>
      obtain ⟨first, piece, spelled, notQuote⟩ := (spells c).eq_cons
      rw [List.flatMap_cons, spelled, anyString]
      all_goals simp_all
  rw [List.cons_append, read, lineString, basicBody_written spells]
  rfl

end Strings

/-! ### Naturals -/

section Naturals

variable {digits : List Char} (each : ∀ c ∈ digits, Decimal.isDigit c = true)

include each

/-- What stands behind some digits of a line is another digit or the end of the line. -/
theorem expect_of_field {width low high number : Nat} {rest after : List Char}
    (found : field width low high (digits ++ '\n' :: rest) = some (number, after)) (mark : Char)
    (notDigit : Decimal.isDigit mark = false) (notEnd : mark ≠ '\n') :
    expect mark after = none := by
  unfold field at found
  obtain ⟨⟨full, taken⟩, found⟩ := Option.ite_none_right_eq_some.mp found
  obtain ⟨-, found⟩ := Option.ite_none_right_eq_some.mp found
  obtain ⟨-, rfl⟩ := Prod.mk.inj (Option.some.inj found)
  -- The end of the line is no digit, so it is not among those taken.
  have inside : width ≤ digits.length := by
    refine Nat.le_of_not_lt fun beyond => ?_
    have member : '\n' ∈ (digits ++ '\n' :: rest).take width := by
      rw [List.take_append, List.mem_append]
      right
      obtain ⟨more, same⟩ := Nat.exists_eq_add_of_lt (Nat.sub_pos_of_lt beyond)
      simp [same]
    exact absurd (List.all_eq_true.mp taken _ member) (by decide)
  rw [List.drop_append_of_le_length inside]
  cases kept : digits.drop width with
  | nil => simp [expect, notEnd.symm]
  | cons c more =>
    have member : c ∈ digits := List.mem_of_mem_drop (kept ▸ List.mem_cons_self)
    have digit : Decimal.isDigit c = true := each c member
    simp [expect, ne_of_test digit notDigit]

/-- Digits up to the end of the line are no date and no time. -/
theorem moment?_digits (rest : List Char) : moment? (digits ++ '\n' :: rest) = none := by
  -- A date has a hyphen behind its first four digits, a time a colon behind its first two.
  have date : date? (digits ++ '\n' :: rest) = none := by
    rw [date?]
    cases found : field 4 0 9999 (digits ++ '\n' :: rest) with
    | none => rfl
    | some pair =>
      have stuck := expect_of_field each found '-' (by decide) (by decide)
      simp [stuck]
  have time : time? (digits ++ '\n' :: rest) = none := by
    rw [time?]
    cases found : field 2 0 23 (digits ++ '\n' :: rest) with
    | none => rfl
    | some pair =>
      have stuck := expect_of_field each found ':' (by decide) (by decide)
      simp [stuck]
  rw [moment?, date]
  exact time

theorem digitRun_more_digits (found rest : List Char) :
    digitRun.more Decimal.isDigit found (digits ++ '\n' :: rest) =
      (found.reverse ++ digits, '\n' :: rest) := by
  induction digits generalizing found with
  | nil => simp [digitRun.more, Decimal.isDigit]
  | cons c digits ih =>
    have digit : Decimal.isDigit c = true := each c List.mem_cons_self
    have later := ih fun d member => each d (List.mem_cons_of_mem _ member)
    have plain : c ≠ '_' := ne_of_test digit rfl
    rw [List.cons_append, digitRun.more]
    · simp [digit, later]
    · simp [plain]

end Naturals

section Naturals

variable {first : Char} {digits : List Char}
  (each : ∀ c ∈ first :: digits, Decimal.isDigit c = true) (visible : first ≠ '0')

include each visible

theorem decimal_digits (rest : List Char) :
    decimal false (first :: (digits ++ '\n' :: rest)) =
      (integer? false (Decimal.value (first :: digits))).map
        fun value => (value, '\n' :: rest) := by
  have digit : Decimal.isDigit first = true := each first List.mem_cons_self
  have more := digitRun_more_digits (fun c member => each c (List.mem_cons_of_mem _ member)) [first]
    rest
  have whole : wholeDigits (first :: (digits ++ '\n' :: rest)) =
      some (first :: digits, '\n' :: rest) := by
    rw [wholeDigits]
    · simp [digitRun, digit, more]
    · simp [visible]
  rw [decimal, whole]
  simp only [places, power, Option.map_eq_bind]
  rfl

/-- A first digit above zero is neither a zero before the mark of a base nor the start of a word. -/
theorem number_digits (rest : List Char) :
    number (first :: (digits ++ '\n' :: rest)) =
      (integer? false (Decimal.value (first :: digits))).map
        fun value => (value, '\n' :: rest) := by
  have digit : Decimal.isDigit first = true := each first List.mem_cons_self
  have other : ∀ mark, Decimal.isDigit mark = false → first ≠ mark := fun mark =>
    ne_of_test digit
  have unsigned : optionalSign (first :: (digits ++ '\n' :: rest)) =
      (false, first :: (digits ++ '\n' :: rest)) := by
    rw [optionalSign]
    · simp [other '-' rfl]
    · simp [other '+' rfl]
  rw [← decimal_digits each visible, number]
  · simp only [unsigned]
    split
    next same => exact absurd (List.cons.inj (Prod.mk.inj same).2).1 (other 'i' rfl)
    next same => exact absurd (List.cons.inj (Prod.mk.inj same).2).1 (other 'n' rfl)
    next same =>
      cases same
      rfl
  all_goals simp [visible]

end Naturals

/-- A natural is read up to the end of its line. -/
theorem momentOrNumber_ofNat {n : Nat} (positive : 0 < n) (small : n < Decimal.twoTo 63)
    (rest : List Char) :
    momentOrNumber (Decimal.ofNat n ++ '\n' :: rest) = some (.integer n, '\n' :: rest) := by
  have each : ∀ c ∈ Decimal.ofNat n, Decimal.isDigit c = true :=
    fun c => Decimal.isDigit_of_mem_ofNat
  have bounded : integer? false n = some (.integer n) := if_pos small
  obtain ⟨first, digits, written, visible⟩ := Decimal.ofNat_eq_cons positive
  rw [momentOrNumber, moment?_digits each]
  rw [written] at each ⊢
  rw [List.cons_append, number_digits each visible, ← written, Decimal.value_ofNat, bounded]
  rfl

/-! ### Values -/

/-- The values that flat sections have. -/
inductive Scalar where
  | text (content : String)
  | natural (n : Nat)
  | flag (isSet : Bool)

namespace Scalar

/-- The value that is meant. -/
def value : Scalar → Value
  | .text content => .string content
  | .natural n => .integer n
  | .flag isSet => .boolean isSet

/-- How the value is written. -/
def written (escape : Char → List Char) : Scalar → List Char
  | .text content => '"' :: content.toList.flatMap escape ++ ['"']
  | .natural n => Decimal.ofNat n
  | .flag true => ['t', 'r', 'u', 'e']
  | .flag false => ['f', 'a', 'l', 's', 'e']

/-- A natural is above zero and fits into 64 bits. -/
def Bounded : Scalar → Prop
  | .natural n => 0 < n ∧ n < Decimal.twoTo 63
  | .text _ | .flag _ => True

/-- What starts a value starts nothing else. -/
theorem written_eq_cons {scalar : Scalar} (bounded : scalar.Bounded) (escape : Char → List Char) :
    ∃ first rest, scalar.written escape = first :: rest ∧ isSpace first = false ∧ first ≠ '[' ∧
      first ≠ '\x7b' := by
  cases scalar with
  | text content => exact ⟨'"', _, rfl, by decide⟩
  | natural n =>
    obtain ⟨first, digits, written, -⟩ := Decimal.ofNat_eq_cons bounded.1
    have digit : Decimal.isDigit first = true :=
      Decimal.isDigit_of_mem_ofNat (written ▸ List.mem_cons_self)
    have other : ∀ mark, Decimal.isDigit mark = false → first ≠ mark := fun mark => ne_of_test digit
    refine ⟨first, digits, written, ?_, other _ rfl, other _ rfl⟩
    simp [isSpace, other ' ' rfl, other '\t' rfl]
  | flag isSet =>
    cases isSet with
    | true => exact ⟨'t', _, rfl, by decide⟩
    | false => exact ⟨'f', _, rfl, by decide⟩

end Scalar

section Written

variable {escape : Char → List Char} (spells : ∀ c, Spelling c (escape c))

include spells

theorem scalar_written {value : Scalar} (bounded : value.Bounded) (rest : List Char) :
    scalar (value.written escape ++ '\n' :: rest) = some (value.value, '\n' :: rest) := by
  cases value with
  | text content =>
    have read := anyString_written spells content.toList ('\n' :: rest) (by simp)
    rw [Scalar.written, List.append_assoc, List.cons_append, scalar]
    rw [List.cons_append] at read
    simp [read, Scalar.value]
  | natural n =>
    obtain ⟨first, digits, written, -⟩ := Decimal.ofNat_eq_cons bounded.1
    have digit : Decimal.isDigit first = true :=
      Decimal.isDigit_of_mem_ofNat (written ▸ List.mem_cons_self)
    have other : ∀ mark, Decimal.isDigit mark = false → first ≠ mark := fun mark => ne_of_test digit
    rw [Scalar.value, ← momentOrNumber_ofNat bounded.1 bounded.2, Scalar.written, written,
      List.cons_append, scalar]
    · simp [other '"' rfl]
    · simp [other '\'' rfl]
    · simp [other 't' rfl]
    · simp [other 'f' rfl]
  | flag isSet => cases isSet <;> rfl

theorem anyValue_written {value : Scalar} (bounded : value.Bounded) (rest : List Char) :
    anyValue (value.written escape ++ '\n' :: rest) = some (value.value, '\n' :: rest) := by
  rw [← scalar_written spells bounded]
  obtain ⟨first, more, written, -, notArray, notTable⟩ := Scalar.written_eq_cons bounded escape
  rw [written, List.cons_append, anyValue, nestingLimit, Toml.value]
  · simp [notArray]
  · simp [notTable]

end Written

end EditorBridge.Toml
