import EditorBridge.Text.Blank
import Mathlib.Data.List.DropRight

/-!
# Cuts of a text

Cutting at separators and joining are inverse to each other, as long as no piece holds a separator.
Trimming leaves nothing of a text exactly when nothing in it is visible, dropping stops at what is to be
kept, and what is dropped at one of the ends of a text is what stands there.

## Main statements

`splitAt_joinWith`, `joinWith_splitAt`: the pieces come back from the joined text, and the text from
its pieces.

`mem_splitAt_iff`: the pieces are the parts between separators.

`exists_mem_splitAt_infix`, `infix_of_mem_splitAt`: a run without separators stands in a text when it
stands in one of its pieces.

`trim_eq_nil_iff`: what trimming leaves nothing of.

`dropStart?_eq_some_iff`, `dropEnding?_eq_some_iff`: what is left of a text without one of its ends.
-/

namespace EditorBridge.Text

/-! ### Cutting at separators -/

variable (separator : Char → Bool)

theorem splitAt_ne_nil (text : List Char) : splitAt separator text ≠ [] := by
  cases text with
  | nil => exact nofun
  | cons c rest =>
    unfold splitAt
    split
    next => exact nofun
    next => split <;> exact nofun

/-- No piece of a cut holds a separator. -/
theorem separator_eq_false_of_mem_splitAt {text piece : List Char} {c : Char}
    (member : piece ∈ splitAt separator text) (inside : c ∈ piece) : separator c = false := by
  induction text generalizing piece with
  | nil =>
    obtain rfl := List.mem_singleton.mp member
    cases inside
  | cons first rest ih =>
    unfold splitAt at member
    split at member
    next =>
      rcases List.mem_cons.mp member with rfl | later
      · cases inside
      · exact ih later inside
    next visible =>
      split at member
      next none => exact absurd none (splitAt_ne_nil separator rest)
      next head tail cut =>
        -- The first character joins the first piece of the rest.
        rw [cut] at ih
        rcases List.mem_cons.mp member with rfl | later
        · rcases List.mem_cons.mp inside with rfl | inside
          · exact Bool.eq_false_iff.mpr visible
          · exact ih List.mem_cons_self inside
        · exact ih (List.mem_cons_of_mem _ later) inside

/-- A text without separators is one piece. -/
theorem splitAt_of_forall {text : List Char} (whole : ∀ c ∈ text, separator c = false) :
    splitAt separator text = [text] := by
  induction text with
  | nil => rfl
  | cons c rest ih =>
    have first : separator c = false := whole c List.mem_cons_self
    have later := ih fun d member => whole d (List.mem_cons_of_mem _ member)
    simp [splitAt, first, later]

/-- Where two texts meet, the last piece of the first and the first piece of the second become one. -/
theorem splitAt_append (front back : List Char) :
    ∃ before last first after, splitAt separator front = before ++ [last] ∧
      splitAt separator back = first :: after ∧
      splitAt separator (front ++ back) = before ++ (last ++ first) :: after := by
  induction front with
  | nil =>
    obtain ⟨first, after, cut⟩ := List.exists_cons_of_ne_nil (splitAt_ne_nil separator back)
    exact ⟨[], [], first, after, rfl, cut, cut⟩
  | cons c front ih =>
    obtain ⟨before, last, first, after, cutFront, cutBack, cut⟩ := ih
    by_cases separates : separator c = true
    · refine ⟨[] :: before, last, first, after, ?_, cutBack, ?_⟩
      · simp [splitAt, separates, cutFront]
      · simp [splitAt, separates, cut]
    · -- The character joins the first piece, which may be the last one as well.
      cases before with
      | nil =>
        refine ⟨[], c :: last, first, after, ?_, cutBack, ?_⟩
        · simp [splitAt, separates, cutFront]
        · simp [splitAt, separates, cut]
      | cons piece before =>
        refine ⟨(c :: piece) :: before, last, first, after, ?_, cutBack, ?_⟩
        · simp [splitAt, separates, cutFront]
        · simp [splitAt, separates, cut]

theorem splitAt_append_separator {front back : List Char} {c : Char}
    (separates : separator c = true) :
    splitAt separator (front ++ c :: back) = splitAt separator front ++ splitAt separator back := by
  obtain ⟨before, last, first, after, cutFront, cutBack, cut⟩ :=
    splitAt_append separator front (c :: back)
  have apart : splitAt separator (c :: back) = [] :: splitAt separator back := by
    simp [splitAt, separates]
  obtain ⟨rfl, rfl⟩ := List.cons.inj (cutBack.symm.trans apart)
  rw [cut, cutFront]
  simp

/-- A piece and a separator behind it are cut off. -/
theorem splitAt_append_cons {piece rest : List Char} {c : Char}
    (whole : ∀ d ∈ piece, separator d = false) (separates : separator c = true) :
    splitAt separator (piece ++ c :: rest) = piece :: splitAt separator rest := by
  rw [splitAt_append_separator separator separates, splitAt_of_forall separator whole,
    List.singleton_append]

/-- A part of the text without separators lies in one of the pieces. -/
theorem exists_mem_splitAt_infix {part text : List Char} (inside : part <:+: text)
    (whole : ∀ c ∈ part, separator c = false) :
    ∃ piece ∈ splitAt separator text, part <:+: piece := by
  obtain ⟨front, back, rfl⟩ := inside
  obtain ⟨before, last, first, after, -, cutBack, cut⟩ :=
    splitAt_append separator front (part ++ back)
  obtain ⟨others, ending, start, later, cutPart, -, cutRest⟩ := splitAt_append separator part back
  rw [splitAt_of_forall separator whole] at cutPart
  obtain ⟨rfl, rfl⟩ : others = [] ∧ ending = part := by
    cases others with
    | nil => simpa using cutPart.symm
    | cons => simp at cutPart
  rw [cutRest] at cutBack
  obtain ⟨rfl, -⟩ := List.cons.inj cutBack
  rw [List.append_assoc, cut]
  exact ⟨_, List.mem_append_right _ List.mem_cons_self, last, start, by simp⟩

/-- A text has no separator, or a first one. -/
theorem forall_or_exists_separator (text : List Char) :
    (∀ c ∈ text, separator c = false) ∨
      ∃ piece c rest, text = piece ++ c :: rest ∧ (∀ d ∈ piece, separator d = false) ∧
        separator c = true := by
  induction text with
  | nil => exact .inl nofun
  | cons c rest ih =>
    by_cases separates : separator c = true
    · exact .inr ⟨[], c, rest, rfl, nofun, separates⟩
    · have visible : separator c = false := Bool.eq_false_iff.mpr separates
      rcases ih with whole | ⟨piece, next, others, rfl, whole, separates⟩
      · exact .inl (List.forall_mem_cons.mpr ⟨visible, whole⟩)
      · exact .inr ⟨c :: piece, next, others, rfl, List.forall_mem_cons.mpr ⟨visible, whole⟩,
          separates⟩

/-- A piece reaches at both of its sides to a separator or to the end of the text. -/
theorem mem_splitAt_iff {text piece : List Char} :
    piece ∈ splitAt separator text ↔ (∀ c ∈ piece, separator c = false) ∧
      ∃ front back, text = front ++ (piece ++ back) ∧ (∀ c ∈ front.getLast?, separator c = true) ∧
        (∀ c ∈ back.head?, separator c = true) := by
  constructor
  · intro member
    refine ⟨fun c => separator_eq_false_of_mem_splitAt separator member, ?_⟩
    -- Cut off at its first separator, the text is shorter.
    induction long : text.length using Nat.strong_induction_on generalizing text with
    | _ length ih =>
      rcases forall_or_exists_separator separator text with
        whole | ⟨first, c, rest, rfl, whole, separates⟩
      · rw [splitAt_of_forall separator whole] at member
        obtain rfl := List.mem_singleton.mp member
        exact ⟨[], [], (List.append_nil piece).symm, nofun, nofun⟩
      · rw [splitAt_append_cons separator whole separates] at member
        rcases List.mem_cons.mp member with rfl | member
        · exact ⟨[], c :: rest, rfl, nofun, by simpa using separates⟩
        · have shorter : rest.length < length := by
            rw [← long, List.length_append, List.length_cons]
            omega
          obtain ⟨front, back, rfl, before, behind⟩ := ih _ shorter member rfl
          refine ⟨first ++ c :: front, back, by simp, ?_, behind⟩
          rw [List.getLast?_append_of_ne_nil _ (List.cons_ne_nil _ _), List.getLast?_cons]
          rintro _ ⟨⟩
          cases last : front.getLast? with
          | none => exact separates
          | some d => exact before d last
  · rintro ⟨whole, front, back, rfl, before, behind⟩
    -- What stands in front of the piece is cut off first, then the piece.
    have first : piece ∈ splitAt separator (piece ++ back) := by
      cases back with
      | nil =>
        rw [List.append_nil, splitAt_of_forall separator whole]
        exact List.mem_singleton_self piece
      | cons c back =>
        rw [splitAt_append_cons separator whole (behind c rfl)]
        exact List.mem_cons_self
    rcases List.eq_nil_or_concat front with rfl | ⟨front, c, rfl⟩
    · exact first
    · rw [List.concat_eq_append] at before ⊢
      have separates : separator c = true := before c (by simp)
      rw [List.append_assoc, List.singleton_append, splitAt_append_separator separator separates]
      exact List.mem_append_right _ first

/-- Every piece is a part of the text. -/
theorem infix_of_mem_splitAt {text piece : List Char} (member : piece ∈ splitAt separator text) :
    piece <:+: text := by
  obtain ⟨-, front, back, rfl, -⟩ := (mem_splitAt_iff separator).mp member
  exact ⟨front, back, List.append_assoc ..⟩

/-- Every piece with the separator behind it again: the text with one more separator. -/
theorem flatten_splitAt (c : Char) (text : List Char) :
    ((splitAt (· == c) text).map (· ++ [c])).flatten = text ++ [c] := by
  induction text with
  | nil => simp [splitAt]
  | cons first rest ih =>
    obtain ⟨next, others, cut⟩ := List.exists_cons_of_ne_nil (splitAt_ne_nil (· == c) rest)
    rw [cut] at ih
    by_cases same : first = c
    · simpa [splitAt, cut, same] using ih
    · simpa [splitAt, cut, same] using ih

theorem joinWith_cons (mark piece next : List Char) (pieces : List (List Char)) :
    joinWith mark (piece :: next :: pieces) = piece ++ mark ++ joinWith mark (next :: pieces) := by
  simp [joinWith]

theorem joinWith_singleton (mark piece : List Char) : joinWith mark [piece] = piece := by
  simp [joinWith]

theorem mem_joinWith {mark : List Char} {pieces : List (List Char)} {c : Char}
    (inside : c ∈ joinWith mark pieces) : c ∈ mark ∨ ∃ piece ∈ pieces, c ∈ piece := by
  induction pieces with
  | nil => cases inside
  | cons piece pieces ih =>
    cases pieces with
    | nil =>
      rw [joinWith_singleton] at inside
      exact .inr ⟨piece, List.mem_cons_self, inside⟩
    | cons next pieces =>
      rw [joinWith_cons, List.append_assoc, List.mem_append, List.mem_append] at inside
      rcases inside with here | between | later
      · exact .inr ⟨piece, List.mem_cons_self, here⟩
      · exact .inl between
      · rcases ih later with between | ⟨other, member, here⟩
        · exact .inl between
        · exact .inr ⟨other, List.mem_cons_of_mem _ member, here⟩

/-- Joined pieces without separators are cut into themselves again. -/
theorem splitAt_joinWith {c : Char} (separates : separator c = true) {pieces : List (List Char)}
    (some : pieces ≠ []) (whole : ∀ piece ∈ pieces, ∀ d ∈ piece, separator d = false) :
    splitAt separator (joinWith [c] pieces) = pieces := by
  induction pieces with
  | nil => exact absurd rfl some
  | cons piece pieces ih =>
    have first := whole piece List.mem_cons_self
    cases pieces with
    | nil => rw [joinWith_singleton, splitAt_of_forall separator first]
    | cons next pieces =>
      have later := ih (List.cons_ne_nil _ _) fun other member =>
        whole other (List.mem_cons_of_mem _ member)
      rw [joinWith_cons, List.append_assoc, List.singleton_append,
        splitAt_append_cons separator first separates, later]

theorem joinWith_append_mark (mark : List Char) {pieces : List (List Char)} (some : pieces ≠ []) :
    joinWith mark pieces ++ mark = (pieces.map (· ++ mark)).flatten := by
  induction pieces with
  | nil => exact absurd rfl some
  | cons piece pieces ih =>
    cases pieces with
    | nil => simp [joinWith_singleton]
    | cons next pieces =>
      have later := ih (List.cons_ne_nil _ _)
      rw [joinWith_cons, List.append_assoc, later]
      simp

/-- A text is joined again from the pieces of its cut. -/
theorem joinWith_splitAt (c : Char) (text : List Char) :
    joinWith [c] (splitAt (· == c) text) = text := by
  have marked : joinWith [c] (splitAt (· == c) text) ++ [c] = text ++ [c] := by
    rw [joinWith_append_mark _ (splitAt_ne_nil _ text), flatten_splitAt]
  exact List.append_cancel_right marked

/-- The last character of joined pieces is that of the last piece. -/
theorem exists_joinWith_eq_concat (mark : List Char) {pieces : List (List Char)}
    (some : pieces ≠ []) (visible : ∀ piece ∈ pieces, piece ≠ []) :
    ∃ front c, joinWith mark pieces = front ++ [c] ∧ ∃ piece ∈ pieces, c ∈ piece := by
  induction pieces with
  | nil => exact absurd rfl some
  | cons piece pieces ih =>
    cases pieces with
    | nil =>
      obtain empty | ⟨front, c, rfl⟩ := List.eq_nil_or_concat piece
      · exact absurd empty (visible piece List.mem_cons_self)
      · refine ⟨front, c, ?_, _, List.mem_cons_self, by simp⟩
        rw [joinWith_singleton, List.concat_eq_append]
    | cons next pieces =>
      obtain ⟨front, c, written, other, member, inside⟩ := ih (List.cons_ne_nil _ _)
        fun other member => visible other (List.mem_cons_of_mem _ member)
      refine ⟨piece ++ mark ++ front, c, ?_, other, List.mem_cons_of_mem _ member, inside⟩
      rw [joinWith_cons, written, List.append_assoc (piece ++ mark)]

/-! ### Trimming -/

/-- What is left after dropping starts with something that is kept. -/
theorem eq_false_of_mem_head?_dropWhile {drop : Char → Bool} {text : List Char} {c : Char}
    (first : c ∈ (text.dropWhile drop).head?) : drop c = false := by
  have stops := List.head?_dropWhile_not drop text
  rw [Option.mem_def.mp first] at stops
  exact stops

/-- What is dropped at the end stands there. -/
theorem exists_dropEndWhile_append (drop : Char → Bool) (text : List Char) :
    ∃ dropped, text = dropEndWhile drop text ++ dropped ∧ ∀ c ∈ dropped, drop c = true :=
  ⟨text.rtakeWhile drop, List.rdropWhile_append_rtakeWhile.symm, fun _ => List.mem_rtakeWhile_imp⟩

/-- Dropping at the end stops at the last character that is kept. -/
theorem dropEndWhile_append_cons (drop : Char → Bool) {c : Char} (kept : drop c = false)
    (front back : List Char) :
    dropEndWhile drop (front ++ c :: back) = front ++ c :: dropEndWhile drop back := by
  change (front ++ c :: back).rdropWhile drop = front ++ c :: back.rdropWhile drop
  induction back using List.reverseRecOn with
  | nil => exact List.rdropWhile_concat_neg _ _ _ (Bool.eq_false_iff.mp kept)
  | append_singleton back d ih =>
    by_cases drops : drop d = true
    · rw [← List.cons_append, ← List.append_assoc, List.rdropWhile_concat_pos _ _ _ drops, ih,
        List.rdropWhile_concat_pos _ _ _ drops]
    · rw [← List.cons_append, ← List.append_assoc, List.rdropWhile_concat_neg _ _ _ drops,
        List.rdropWhile_concat_neg _ _ _ drops, List.append_assoc, List.cons_append]

/-- Trimming leaves nothing of a text exactly when no character of it is visible. -/
theorem trim_eq_nil_iff (text : List Char) : trim text = [] ↔ isAllBlank text = true := by
  change (text.dropWhile isBlank).rdropWhile isBlank = [] ↔ text.all isBlank = true
  rw [List.rdropWhile_eq_nil_iff, List.all_eq_true]
  -- The front that is dropped is blank, so what is behind it decides.
  induction text with
  | nil => rfl
  | cons c rest ih =>
    by_cases blank : isBlank c = true
    · rw [List.dropWhile_cons_of_pos blank, ih]
      simp [blank]
    · rw [List.dropWhile_cons_of_neg blank]

theorem trimString_eq_empty_iff (text : String) :
    trimString text = "" ↔ isAllBlank text.toList = true := by
  rw [← trim_eq_nil_iff, trimString, ← String.toList_eq_nil_iff, String.toList_ofList]

/-! ### Ends of a text -/

theorem dropStart?_eq_some_iff (start text rest : List Char) :
    dropStart? start text = some rest ↔ text = start ++ rest := by
  induction start generalizing text with
  | nil => simp [dropStart?]
  | cons s start ih =>
    cases text with
    | nil => simp [dropStart?]
    | cons c text =>
      unfold dropStart?
      split
      next same => simp [same, ih]
      next different => simp [Ne.symm different]

theorem dropEnding?_eq_some_iff (ending text front : List Char) :
    dropEnding? ending text = some front ↔ text = front ++ ending := by
  unfold dropEnding?
  rw [Option.map_eq_some_iff]
  simp only [dropStart?_eq_some_iff]
  -- Read backwards, the ending is a start.
  constructor
  · rintro ⟨rest, reversed, rfl⟩
    rw [← List.reverse_reverse text, reversed]
    simp
  · rintro rfl
    exact ⟨front.reverse, by simp, by simp⟩

end EditorBridge.Text
