import EditorBridge.Proofs.Text.Cutting

/-!
# The words of a line and the first line that says something

A text is words with blanks around them, and there is one way to read it so. The lines of a text in
front of the first one that is not blank hold nothing but blanks, and what stands behind that line has
no part in finding it.

## Main statements

`words_eq_iff_worded`: the words of a text.

`find?_lines_of_headed`, `headed_or_isAllBlank`: the first line that is not blank.
-/

namespace EditorBridge.Text

/-! ### Words -/

/-- The text consists of the words, in their order, and of blanks around them. -/
inductive Worded : List Char → List (List Char) → Prop
  | nil : Worded [] []
  | blank {c : Char} {text : List Char} {pieces : List (List Char)} (blank : isBlank c = true)
    (rest : Worded text pieces) : Worded (c :: text) pieces
  /-- A word is as long as it can be. -/
  | word {word behind : List Char} {pieces : List (List Char)} (some : word ≠ [])
    (visible : ∀ c ∈ word, isBlank c = false) (stops : ∀ c ∈ behind.head?, isBlank c = true)
    (rest : Worded behind pieces) : Worded (word ++ behind) (word :: pieces)

/-- All that is said here about the words of a text follows from where they end. -/
theorem words_append_blank (front back : List Char) {c : Char} (blank : isBlank c = true) :
    words (front ++ c :: back) = words front ++ words back := by
  unfold words
  rw [splitAt_append_separator isBlank blank, List.filter_append]

theorem words_nil : words [] = [] := rfl

theorem words_cons_blank {text : List Char} {c : Char} (blank : isBlank c = true) :
    words (c :: text) = words text := by
  have cut := words_append_blank [] text blank
  simpa [words_nil] using cut

theorem words_append_singleton {text : List Char} {c : Char} (blank : isBlank c = true) :
    words (text ++ [c]) = words text := by
  rw [words_append_blank _ _ blank, words_nil, List.append_nil]

theorem words_of_visible {word : List Char} (some : word ≠ [])
    (visible : ∀ c ∈ word, isBlank c = false) : words word = [word] := by
  rw [words, splitAt_of_forall isBlank visible]
  simp [some]

theorem words_of_worded {text : List Char} {pieces : List (List Char)}
    (worded : Worded text pieces) : words text = pieces := by
  -- Each step of the reading ends at a blank or with the text, and there the words are cut.
  induction worded with
  | nil => exact words_nil
  | blank blank _ ih => rw [words_cons_blank blank, ih]
  | @word word behind pieces some visible stops _ ih =>
    cases behind with
    | nil =>
      rw [words_nil] at ih
      rw [List.append_nil, words_of_visible some visible, ih]
    | cons c behind =>
      have blank : isBlank c = true := stops c rfl
      rw [words_cons_blank blank] at ih
      rw [words_append_blank _ _ blank, words_of_visible some visible, ih, List.singleton_append]

theorem worded_words (text : List Char) : Worded text (words text) := by
  -- By induction on the length: what stands behind the first blank is shorter than the text.
  induction long : text.length using Nat.strong_induction_on generalizing text with
  | _ length ih =>
    rcases forall_or_exists_separator isBlank text with
      visible | ⟨first, c, rest, rfl, visible, blank⟩
    · by_cases none : text = []
      · subst none
        exact .nil
      · rw [words_of_visible none visible]
        have alone : Worded (text ++ []) [text] := .word none visible nofun .nil
        rwa [List.append_nil] at alone
    · have shorter : rest.length < length := by
        rw [← long, List.length_append, List.length_cons]
        omega
      have later := Worded.blank blank (ih _ shorter rest rfl)
      rw [words_append_blank _ _ blank]
      by_cases none : first = []
      · subst none
        exact later
      · rw [words_of_visible none visible]
        apply Worded.word none visible
        · intro d next
          cases next
          exact blank
        · exact later

/-- There is one way to read a text as words with blanks around them. -/
theorem words_eq_iff_worded (text : List Char) (pieces : List (List Char)) :
    words text = pieces ↔ Worded text pieces := by
  constructor
  · rintro rfl
    exact worded_words text
  · exact words_of_worded

/-! ### The first line that is not blank -/

/-- What can stand behind a line: nothing, or a line break and anything. -/
inductive LineEnd : List Char → Prop
  | last : LineEnd []
  | feed (later : List Char) : LineEnd ('\n' :: later)
  | returnFeed (later : List Char) : LineEnd ('\r' :: '\n' :: later)

/-- Lines with no visible character, each with its line break. -/
structure BlankLines (text : List Char) : Prop where
  blank : isAllBlank text = true
  ended : ∀ c ∈ text.getLast?, c = '\n'

/-- The line is the first one in the text that has a visible character. -/
inductive Headed : List Char → List Char → Prop
  | intro {front line behind : List Char} (blank : BlankLines front)
    (visible : isAllBlank line = false) (single : '\n' ∉ line) (ends : LineEnd behind) :
    Headed (front ++ (line ++ behind)) line

theorem Headed.first {line behind : List Char} (visible : isAllBlank line = false)
    (single : '\n' ∉ line) (ends : LineEnd behind) : Headed (line ++ behind) line := by
  have none : BlankLines [] := ⟨rfl, by simp⟩
  exact Headed.intro none visible single ends

theorem isAllBlank_append (front back : List Char) :
    isAllBlank (front ++ back) = (isAllBlank front && isAllBlank back) := by
  simp [isAllBlank]

theorem BlankLines.append {front back : List Char} (first : BlankLines front)
    (second : BlankLines back) : BlankLines (front ++ back) where
  blank := by rw [isAllBlank_append, first.blank, second.blank, Bool.and_self]
  ended c last := by
    rw [List.getLast?_append] at last
    cases back with
    | nil => exact first.ended c (by simpa using last)
    | cons d back => exact second.ended c (by simpa using last)

theorem Headed.of_blankLines {front text line : List Char} (blank : BlankLines front)
    (headed : Headed text line) : Headed (front ++ text) line := by
  cases headed with
  | intro others visible single ends =>
    rw [← List.append_assoc]
    exact .intro (blank.append others) visible single ends

theorem lines_append_feed (front back : List Char) :
    lines (front ++ '\n' :: back) = lines front ++ lines back :=
  splitAt_append_separator (· == '\n') rfl

theorem lines_of_single {line : List Char} (single : '\n' ∉ line) : lines line = [line] := by
  apply splitAt_of_forall
  intro c inside
  rw [beq_eq_false_iff_ne]
  rintro rfl
  exact single inside

theorem isAllBlank_of_part {part text : List Char} (inside : part <:+: text)
    (blank : isAllBlank text = true) : isAllBlank part = true :=
  List.all_eq_true.mpr fun c member => List.all_eq_true.mp blank c (inside.subset member)

theorem find?_lines_of_isAllBlank {text : List Char} (blank : isAllBlank text = true) :
    (lines text).find? (!isAllBlank ·) = none := by
  rw [List.find?_eq_none]
  intro line member
  have inside : line <:+: text := infix_of_mem_splitAt (· == '\n') member
  simp [isAllBlank_of_part inside blank]

theorem find?_lines_blankLines {front : List Char} (blank : BlankLines front) (text : List Char) :
    (lines (front ++ text)).find? (!isAllBlank ·) = (lines text).find? (!isAllBlank ·) := by
  rcases List.eq_nil_or_concat front with rfl | ⟨front, c, rfl⟩
  · rfl
  · -- The line feed at the end of the blank lines is where the text is cut.
    obtain rfl : c = '\n' := blank.ended c (by simp)
    have others : isAllBlank front = true := isAllBlank_of_part ⟨[], ['\n'], by simp⟩ blank.blank
    rw [List.concat_eq_append, List.append_assoc, List.singleton_append, lines_append_feed,
      List.find?_append, find?_lines_of_isAllBlank others, Option.none_or]

theorem find?_lines_of_headed {text line : List Char} (headed : Headed text line) :
    ∃ found, (lines text).find? (!isAllBlank ·) = some found ∧ words found = words line := by
  cases headed with
  | intro blank visible single ends =>
    rw [find?_lines_blankLines blank]
    cases ends with
    | last =>
      refine ⟨line, ?_, rfl⟩
      simp [lines_of_single single, visible]
    | feed later =>
      refine ⟨line, ?_, rfl⟩
      simp [lines_append_feed, lines_of_single single, visible]
    | returnFeed later =>
      -- The carriage return stays in the line that is found, and is blank.
      have returned : '\n' ∉ line ++ ['\r'] := by simpa using single
      have split : line ++ '\r' :: '\n' :: later = line ++ ['\r'] ++ '\n' :: later := by simp
      refine ⟨line ++ ['\r'], ?_, words_append_singleton (by decide)⟩
      rw [split, lines_append_feed, lines_of_single returned]
      simp [isAllBlank_append, visible]

/-- A text that is not blank has a first line that is not. -/
theorem headed_or_isAllBlank (text : List Char) :
    isAllBlank text = true ∨ ∃ line, Headed text line := by
  -- Cut off at its first line feed, the text is shorter.
  induction long : text.length using Nat.strong_induction_on generalizing text with
  | _ length ih =>
    rcases forall_or_exists_separator (· == '\n') text with
      whole | ⟨line, c, rest, rfl, whole, feed⟩
    · have single : '\n' ∉ text := fun inside => by simpa using whole '\n' inside
      by_cases blank : isAllBlank text = true
      · exact .inl blank
      · have headed := Headed.first (Bool.eq_false_iff.mpr blank) single .last
        rw [List.append_nil] at headed
        exact .inr ⟨text, headed⟩
    · obtain rfl : c = '\n' := beq_iff_eq.mp feed
      have single : '\n' ∉ line := fun inside => by simpa using whole '\n' inside
      by_cases blank : isAllBlank line = true
      · -- The line is one more blank line in front of the rest.
        have front : BlankLines (line ++ ['\n']) :=
          ⟨by rw [isAllBlank_append, blank]; rfl, by simp⟩
        have shorter : rest.length < length := by
          rw [← long, List.length_append, List.length_cons]
          omega
        have split : line ++ '\n' :: rest = line ++ ['\n'] ++ rest := by simp
        rw [split]
        refine (ih _ shorter rest rfl).imp ?_ ?_
        · intro others
          rw [isAllBlank_append, front.blank, others]
          rfl
        · rintro ⟨found, headed⟩
          exact ⟨found, headed.of_blankLines front⟩
      · exact .inr ⟨line, .first (Bool.eq_false_iff.mpr blank) single (.feed rest)⟩

theorem trim_blankLines {front : List Char} (blank : BlankLines front) (text : List Char) :
    trim (front ++ text) = trim text := by
  rw [trim, trim, List.dropWhile_append_of_pos (List.all_eq_true.mp blank.blank)]

end EditorBridge.Text
