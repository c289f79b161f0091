import EditorBridge.Proofs.Decimal.Whole
import EditorBridge.Proofs.Version.Grammar

/-!
# The written form of a version

A version is written as its numbers, without zeros in front of them, between single dots. That text is
read back as the same version, also behind blanks and a `v` and in front of whatever ends the numbers,
and it is the only text of its kind that is: among all texts that are read as one version, exactly one
has plain numbers and nothing around them.

## Main statements

`Version.eq_text_of_canonical`: a text in written form is the one that its version is written as.

`Version.text_canonical`: reading and writing versions.
-/

namespace EditorBridge.Version

/-- Digits, among which a zero comes first only when it is alone. -/
structure Plain (digits : List Char) : Prop where
  visible : digits ≠ []
  each : ∀ c ∈ digits, Decimal.isDigit c = true
  leading : digits.head? = some '0' → digits = ['0']

/-- Plain numbers between single dots, and nothing around them. -/
def Canonical (text : List Char) : Prop := ∀ digits ∈ Text.splitAt (· == '.') text, Plain digits

/-! ### What is written -/

/-- The digits of every number of a version. -/
def written (version : Version) : List (List Char) := version.parts.map (Decimal.ofNat ·.toNat)

theorem toList_text (version : Version) :
    version.text.toList = Text.joinWith ['.'] version.written := by
  rw [text, String.toList_ofList]
  rfl

theorem plain_ofNat (n : Nat) : Plain (Decimal.ofNat n) := by
  rcases Nat.eq_zero_or_pos n with rfl | positive
  · rw [Decimal.ofNat_zero]
    exact ⟨nofun, List.forall_mem_singleton.mpr rfl, fun _ => rfl⟩
  · obtain ⟨first, rest, written, notZero⟩ := Decimal.ofNat_eq_cons positive
    refine ⟨?_, fun c => Decimal.isDigit_of_mem_ofNat, ?_⟩
    · rw [written]
      exact List.cons_ne_nil first rest
    · rw [written]
      rintro ⟨⟩
      exact absurd rfl notZero

theorem plain_of_mem_written {version : Version} {digits : List Char}
    (member : digits ∈ version.written) : Plain digits := by
  obtain ⟨number, -, rfl⟩ := List.mem_map.mp member
  exact plain_ofNat number.toNat

theorem segment_ofNat (number : UInt32) : Segment (Decimal.ofNat number.toNat) number where
  visible := (plain_ofNat number.toNat).visible
  each := (plain_ofNat number.toNat).each
  value := Decimal.value_ofNat number.toNat

theorem segments_written (version : Version) : List.Forall₂ Segment version.written version.parts := by
  rw [written, List.forall₂_map_left_iff, List.forall₂_same]
  exact fun number _ => segment_ofNat number

/-- Segments without zeros in front are the ones that are written. -/
theorem eq_written_of_segments {pieces : List (List Char)} {version : Version}
    (each : List.Forall₂ Segment pieces version.parts) (plain : ∀ digits ∈ pieces, Plain digits) :
    pieces = version.written := by
  rw [written, ← List.forall₂_eq_eq_eq, List.forall₂_map_right_iff, List.forall₂_iff_zip]
  refine ⟨each.length_eq, fun {digits number} paired => ?_⟩
  have shape := plain digits (List.of_mem_zip paired).1
  rw [← (List.forall₂_zip each paired).value]
  exact (Decimal.ofNat_value shape.visible shape.each shape.leading).symm

/-! ### Reading what is written -/

theorem written_ne_nil (version : Version) : version.written ≠ [] := List.cons_ne_nil _ _

theorem canonical_text (version : Version) : Canonical version.text.toList := by
  have noDot : ∀ digits ∈ version.written, ∀ c ∈ digits, (c == '.') = false := by
    intro digits member c inside
    exact beq_dot_of_isDigit ((plain_of_mem_written member).each c inside)
  intro digits member
  rw [toList_text, Text.splitAt_joinWith (· == '.') rfl version.written_ne_nil noDot] at member
  exact plain_of_mem_written member

theorem spells_text {front behind : List Char} (version : Version) (lead : Lead front)
    (ends : Ends behind) : Spells (front ++ (version.text.toList ++ behind)) version := by
  rw [toList_text]
  exact .intro 0 lead version.segments_written ends

theorem parse?_text (version : Version) : parse? version.text = some version := by
  have spells := version.spells_text lead_nil ends_nil
  rw [List.nil_append, List.append_nil] at spells
  exact (ofChars?_eq_some_iff ..).mpr (segments_of_spells spells)

/-- Of all texts that are read as one version, only the written one is canonical. -/
theorem eq_text_of_canonical {text : String} {version : Version} (canonical : Canonical text.toList)
    (read : parse? text = some version) : text = version.text := by
  have found : segments text.toList = Text.splitAt (· == '.') text.toList := by
    have whole := segments_append 0 lead_nil ends_nil
      (Text.splitAt_ne_nil (· == '.') text.toList)
      fun digits member => ⟨(canonical digits member).visible, (canonical digits member).each⟩
    rw [Text.joinWith_splitAt, List.nil_append] at whole
    simpa using whole
  have each := (ofChars?_eq_some_iff ..).mp read
  rw [found] at each
  have same := eq_written_of_segments each canonical
  rw [← String.toList_inj, toList_text, ← same, Text.joinWith_splitAt]

/-! ### Main theorem -/

/-- A version is read from the text it is written as, whatever blanks and `v` stand in front of it and
whatever it cannot go on with stands behind it. For every text of the version the written one is the
canonical form: it is read as the same version, is written again as it is, and is the only one without
zeros in front of numbers and without anything around them. -/
theorem text_canonical :
    (∀ version : Version, parse? version.text = some version) ∧
    (∀ (version : Version) (blanks behind : String) (marked : Bool),
      Text.isAllBlank blanks.toList = true → Ends behind.toList →
      parse? (blanks ++ (if marked then "v" else "") ++ version.text ++ behind) = some version) ∧
    (∀ (text : String) (version : Version), parse? text = some version →
      parse? version.text = some version ∧
      (parse? version.text).map Version.text = some version.text ∧
      (Canonical text.toList ↔ text = version.text)) := by
  refine ⟨parse?_text, fun version blanks behind marked blank ends => ?_, fun text version read => ?_⟩
  · have lead : Lead (blanks ++ if marked then "v" else "").toList := by
      cases marked with
      | false => simpa using Lead.unmarked blank
      | true => simpa using Lead.marked blank
    have spells := version.spells_text lead ends
    rw [parse?, ofChars?_eq_some_iff]
    apply segments_of_spells
    simpa only [String.toList_append, List.append_assoc] using spells
  · refine ⟨parse?_text version, by rw [parse?_text, Option.map_some], ?_, ?_⟩
    · exact fun canonical => eq_text_of_canonical canonical read
    · rintro rfl
      exact canonical_text version

/-- A marked version behind a wide blank, and one with zeros in front of its numbers. -/
theorem text_canonical_padded :
    let version : Version := ⟨2, [0, 10]⟩
    Text.isAllBlank "\u00a0 ".toList = true ∧ Ends "-beta.3".toList ∧
      parse? ("\u00a0 " ++ "v" ++ version.text ++ "-beta.3") = some version ∧
      parse? "02.0.010" = some version ∧ parse? version.text = some version ∧
      version.text = "2.0.10" ∧ ¬ Canonical "02.0.010".toList := by
  intro version
  obtain ⟨-, around, canonical⟩ := text_canonical
  have blank : Text.isAllBlank "\u00a0 ".toList = true := by decide
  have ends : Ends "-beta.3".toList := by
    rintro _ ⟨⟩
    decide
  have padded : parse? "02.0.010" = some version := by decide +kernel
  obtain ⟨restored, -, plain⟩ := canonical "02.0.010" version padded
  have short : Canonical "2.0.10".toList := by
    have cut : Text.splitAt (· == '.') "2.0.10".toList = [['2'], ['0'], ['1', '0']] := by decide
    intro digits member
    simp only [cut, List.mem_cons, List.not_mem_nil, or_false] at member
    rcases member with rfl | rfl | rfl <;>
      exact ⟨List.cons_ne_nil _ _, by simp [Decimal.isDigit], by decide⟩
  have text : version.text = "2.0.10" :=
    ((canonical "2.0.10" version (by decide +kernel)).2.2.mp short).symm
  refine ⟨blank, ends, around version _ _ true blank ends, padded, restored, text, ?_⟩
  intro alone
  have same := plain.mp alone
  rw [text] at same
  exact absurd same (by decide)

end EditorBridge.Version
