import EditorBridge.Proofs.Decimal.Whole
import EditorBridge.Proofs.Text.Cutting
import EditorBridge.Tool.Status
import Mathlib.Data.List.Forall2

/-!
# Texts that spell versions

A version is spelled by digits between single dots. Blanks and one `v` may stand in front of them, and
behind them any number of dots and then whatever a number cannot go on with. Only the longest run of
digits and dots decides, so a text spells one version at most, and there are four ways to spell none:
no digit where the numbers should start, with or without the `v`, two dots that meet inside the run,
and a segment beyond 32 bits.

## Main statements

`Version.ofChars?_eq_some_iff`, `Version.ofChars?_eq_none_iff`: reading in terms of the segments of the
deciding run.

`Version.parse?_grammar`: the texts that are read as a version, and those that are refused.
-/

namespace EditorBridge.Version

/-! ### The grammar -/

/-- Digits that stand for a number of 32 bits. -/
structure Segment (digits : List Char) (number : UInt32) : Prop where
  visible : digits ≠ []
  each : ∀ c ∈ digits, Decimal.isDigit c = true
  value : Decimal.value digits = number.toNat

/-- Blanks, and at most one `v` behind them. -/
inductive Lead : List Char → Prop
  | unmarked {blanks : List Char} (blank : Text.isAllBlank blanks = true) : Lead blanks
  | marked {blanks : List Char} (blank : Text.isAllBlank blanks = true) : Lead (blanks ++ ['v'])

/-- The end of a text, or a character that is neither a digit nor a dot and whatever follows it. -/
def Ends (behind : List Char) : Prop := ∀ c ∈ behind.head?, Decimal.isDigit c = false ∧ c ≠ '.'

/-- The texts that spell a version. -/
inductive Spells : List Char → Version → Prop
  | intro {front behind : List Char} {segments : List (List Char)} {version : Version} (dots : Nat)
    (lead : Lead front) (each : List.Forall₂ Segment segments version.parts) (ends : Ends behind) :
    Spells (front ++ (Text.joinWith ['.'] segments ++ (List.replicate dots '.' ++ behind))) version

/-- The texts that spell none. -/
inductive Refused : List Char → Prop
  /-- After all blanks comes nothing, or neither a digit nor a `v`. -/
  | unstarted {blanks rest : List Char} (blank : Text.isAllBlank blanks = true)
    (absent : ∀ c ∈ rest.head?, Text.isBlank c = false ∧ c ≠ 'v' ∧ Decimal.isDigit c = false) :
    Refused (blanks ++ rest)
  /-- After the `v` comes nothing, or no digit. -/
  | unstartedMark {blanks rest : List Char} (blank : Text.isAllBlank blanks = true)
    (absent : ∀ c ∈ rest.head?, Decimal.isDigit c = false) : Refused (blanks ++ 'v' :: rest)
  /-- Two dots meet in front of a later digit. -/
  | gap {front before between behind : List Char} {digit : Char} (lead : Lead front)
    (dottedBefore : ∀ c ∈ before, isDotted c = true)
    (dottedBetween : ∀ c ∈ between, isDotted c = true) (digits : Decimal.isDigit digit = true) :
    Refused (front ++ (before ++ '.' :: '.' :: between ++ digit :: behind))
  /-- A whole segment stands for a number that needs more than 32 bits. -/
  | oversized {front before digits behind : List Char} (lead : Lead front)
    (dotted : ∀ c ∈ before, isDotted c = true) (starts : ∀ c ∈ before.getLast?, c = '.')
    (each : ∀ c ∈ digits, Decimal.isDigit c = true)
    (stops : ∀ c ∈ behind.head?, Decimal.isDigit c = false)
    (large : Decimal.twoTo 32 ≤ Decimal.value digits) :
    Refused (front ++ (before ++ digits ++ behind))

theorem lead_nil : Lead [] := .unmarked rfl

theorem ends_nil : Ends [] := nofun

/-! ### Characters -/

theorem isDotted_iff (c : Char) : isDotted c = true ↔ Decimal.isDigit c = true ∨ c = '.' := by
  simp [isDotted]

theorem isDotted_of_isDigit {c : Char} (digit : Decimal.isDigit c = true) : isDotted c = true :=
  (isDotted_iff c).mpr (.inl digit)

theorem beq_dot_of_isDigit {c : Char} (digit : Decimal.isDigit c = true) : (c == '.') = false := by
  rw [beq_eq_false_iff_ne]
  rintro rfl
  cases digit

theorem isDigit_of_isDotted {c : Char} (dotted : isDotted c = true) (other : c ≠ '.') :
    Decimal.isDigit c = true := by
  rcases (isDotted_iff c).mp dotted with digit | dot
  · exact digit
  · exact absurd dot other

theorem eq_dot_of_isDotted {c : Char} (dotted : isDotted c = true)
    (undigit : Decimal.isDigit c = false) : c = '.' := by
  rcases (isDotted_iff c).mp dotted with digit | dot
  · exact absurd digit (Bool.eq_false_iff.mp undigit)
  · exact dot

theorem isDotted_eq_false_iff (c : Char) :
    isDotted c = false ↔ Decimal.isDigit c = false ∧ c ≠ '.' := by
  simp [isDotted]

theorem isDotted_eq_false_of_isBlank {c : Char} (blank : Text.isBlank c = true) :
    isDotted c = false := by
  rw [isDotted_eq_false_iff]
  constructor
  · -- No blank has a code between those of `0` and `9`.
    by_contra digit
    obtain ⟨low, high⟩ := (Decimal.isDigit_iff c).mp (Bool.not_eq_false _ ▸ digit)
    have low : 0x30 ≤ c.toNat := low
    have high : c.toNat ≤ 0x39 := high
    simp only [Text.isBlank, Bool.or_eq_true, Bool.and_eq_true, decide_eq_true_eq,
      beq_iff_eq] at blank
    omega
  · rintro rfl
    cases blank

/-! ### The run that decides -/

/-- The text behind its blanks and one `v`. -/
def afterLead (text : List Char) : List Char := dropMark (text.dropWhile Text.isBlank)

/-- The digits and dots that come first there. -/
def run (text : List Char) : List Char := (afterLead text).takeWhile isDotted

/-- The run without the dots that end it. -/
def core (text : List Char) : List Char := Text.dropEndWhile (· == '.') (run text)

/-- The pieces between the dots. -/
def segments (text : List Char) : List (List Char) := Text.splitAt (· == '.') (core text)

theorem dropMark_eq_self {text : List Char} (other : ∀ c ∈ text.head?, c ≠ 'v') :
    dropMark text = text := by
  unfold dropMark
  split
  next => exact absurd rfl (other 'v' rfl)
  next => rfl

theorem dropMark_append {front : List Char} (some : front ≠ []) (back : List Char) :
    dropMark (front ++ back) = dropMark front ++ back := by
  cases front with
  | nil => exact absurd rfl some
  | cons c front =>
    by_cases marked : c = 'v'
    · subst marked
      rfl
    · have unmarked (rest : List Char) : dropMark (c :: rest) = c :: rest := by
        apply dropMark_eq_self
        rintro _ ⟨⟩
        exact marked
      rw [List.cons_append, unmarked, unmarked, List.cons_append]

theorem takeWhile_isDotted_of_ends {behind : List Char} (ends : Ends behind) :
    behind.takeWhile isDotted = [] := by
  cases behind with
  | nil => rfl
  | cons c behind =>
    have stops := (isDotted_eq_false_iff c).mpr (ends c rfl)
    exact List.takeWhile_cons_of_neg (Bool.eq_false_iff.mp stops)

theorem ends_of_all_blank {blanks : List Char} (blank : ∀ c ∈ blanks, Text.isBlank c = true) :
    Ends blanks := fun c first =>
  (isDotted_eq_false_iff c).mp
    (isDotted_eq_false_of_isBlank (blank c (List.mem_of_mem_head? first)))

theorem takeWhile_isDotted_append {front behind : List Char} (ends : Ends behind) :
    (front ++ behind).takeWhile isDotted = front.takeWhile isDotted := by
  rw [List.takeWhile_append, takeWhile_isDotted_of_ends ends, List.append_nil]
  split
  next whole => exact ((List.takeWhile_prefix isDotted).eq_of_length whole).symm
  next => rfl

/-- Blanks at the end are behind the run. -/
theorem takeWhile_dropMark_trim (text : List Char) :
    (dropMark (Text.trim text)).takeWhile isDotted = run text := by
  obtain ⟨blanks, split, blank⟩ :=
    Text.exists_dropEndWhile_append Text.isBlank (text.dropWhile Text.isBlank)
  have ends := ends_of_all_blank blank
  unfold run afterLead Text.trim Text.trimEnd
  generalize Text.dropEndWhile Text.isBlank (text.dropWhile Text.isBlank) = trimmed at split
  rw [split]
  -- A `v` is no blank, so trimming at the end takes none off and puts none in front.
  cases trimmed with
  | nil =>
    have unmarked : dropMark blanks = blanks := by
      apply dropMark_eq_self
      rintro c first rfl
      exact absurd (blank 'v' (List.mem_of_mem_head? first)) (by decide)
    rw [List.nil_append, unmarked, takeWhile_isDotted_of_ends ends]
    rfl
  | cons c trimmed =>
    rw [dropMark_append (List.cons_ne_nil _ _), takeWhile_isDotted_append ends]

/-- What is taken off in front is a lead. -/
theorem exists_lead (text : List Char) : ∃ front, Lead front ∧ text = front ++ afterLead text := by
  have blank : Text.isAllBlank (text.takeWhile Text.isBlank) = true :=
    List.all_eq_true.mpr fun c => List.mem_takeWhile_imp
  have whole : text.takeWhile Text.isBlank ++ text.dropWhile Text.isBlank = text :=
    List.takeWhile_append_dropWhile
  unfold afterLead dropMark
  split
  next rest marked =>
    refine ⟨_, .marked blank, ?_⟩
    rw [List.append_assoc, List.singleton_append, ← marked, whole]
  next => exact ⟨_, .unmarked blank, whole.symm⟩

theorem afterLead_blanks {blanks : List Char} (blank : Text.isAllBlank blanks = true)
    (rest : List Char) : afterLead (blanks ++ rest) = afterLead rest := by
  unfold afterLead
  rw [List.dropWhile_append_of_pos (List.all_eq_true.mp blank)]

theorem afterLead_eq_self {text : List Char}
    (starts : ∀ c ∈ text.head?, Text.isBlank c = false ∧ c ≠ 'v') : afterLead text = text := by
  have visible : text.dropWhile Text.isBlank = text := by
    cases text with
    | nil => rfl
    | cons c text => exact List.dropWhile_cons_of_neg (Bool.eq_false_iff.mp (starts c rfl).1)
  rw [afterLead, visible]
  exact dropMark_eq_self fun c first => (starts c first).2

/-- Blanks and a `v` in front of a digit or dot are all that is taken off. -/
theorem afterLead_append {front rest : List Char} {c : Char} (lead : Lead front)
    (dotted : isDotted c = true) : afterLead (front ++ c :: rest) = c :: rest := by
  cases lead with
  | unmarked blank =>
    rw [afterLead_blanks blank]
    apply afterLead_eq_self
    rintro _ ⟨⟩
    constructor
    · by_contra blank
      have undotted := isDotted_eq_false_of_isBlank (Bool.not_eq_false _ ▸ blank)
      exact Bool.false_ne_true (undotted.symm.trans dotted)
    · rintro rfl
      cases dotted
  | marked blank =>
    rw [List.append_assoc, afterLead_blanks blank]
    rfl

/-- The core reaches from the first digit or dot to the last digit in the run. -/
theorem core_append {front dotted behind : List Char} {digit : Char} (lead : Lead front)
    (each : ∀ c ∈ dotted, isDotted c = true) (isDigit : Decimal.isDigit digit = true) :
    core (front ++ (dotted ++ digit :: behind)) =
      dotted ++ digit :: Text.dropEndWhile (· == '.') (behind.takeWhile isDotted) := by
  have isDot : isDotted digit = true := isDotted_of_isDigit isDigit
  have starts : run (front ++ (dotted ++ digit :: behind)) =
      (dotted ++ digit :: behind).takeWhile isDotted := by
    unfold run
    cases dotted with
    | nil => rw [List.nil_append, afterLead_append lead isDot]
    | cons c dotted =>
      rw [List.cons_append, afterLead_append lead (each c List.mem_cons_self)]
  rw [core, starts, List.takeWhile_append_of_pos each, List.takeWhile_cons_of_pos isDot]
  exact Text.dropEndWhile_append_cons (· == '.') (beq_dot_of_isDigit isDigit) dotted _

/-- A text is the core between what is in front of it and the dots behind it. -/
theorem exists_layout (text : List Char) :
    ∃ front dots behind, Lead front ∧ Ends behind ∧
      text = front ++ (core text ++ (List.replicate dots '.' ++ behind)) := by
  obtain ⟨front, lead, split⟩ := exists_lead text
  obtain ⟨dots, runSplit, isDot⟩ := Text.exists_dropEndWhile_append (· == '.') (run text)
  have same : ∀ c ∈ dots, c = '.' := fun c member => beq_iff_eq.mp (isDot c member)
  let behind := (afterLead text).dropWhile isDotted
  have ends : Ends behind := fun c first =>
    (isDotted_eq_false_iff c).mp (Text.eq_false_of_mem_head?_dropWhile first)
  have runBehind : run text ++ behind = afterLead text := List.takeWhile_append_dropWhile
  refine ⟨front, dots.length, behind, lead, ends, ?_⟩
  rw [← List.eq_replicate_of_mem same, ← List.append_assoc (core text)]
  unfold core
  rw [← runSplit, runBehind]
  exact split

theorem isDotted_of_mem_core {text : List Char} {c : Char} (member : c ∈ core text) :
    isDotted c = true := by
  have inRun : c ∈ run text := (List.rdropWhile_prefix _ _).subset member
  exact List.mem_takeWhile_imp inRun

theorem isDigit_of_mem_segments {text digits : List Char} (member : digits ∈ segments text) :
    ∀ c ∈ digits, Decimal.isDigit c = true := by
  intro c inside
  have noDot := Text.separator_eq_false_of_mem_splitAt _ member inside
  have inCore : c ∈ core text := (Text.infix_of_mem_splitAt _ member).subset inside
  exact isDigit_of_isDotted (isDotted_of_mem_core inCore) (beq_eq_false_iff_ne.mp noDot)

/-! ### Reading the segments -/

theorem mapM_eq_some_iff {α β : Type} (f : α → Option β) (xs : List α) (ys : List β) :
    xs.mapM f = some ys ↔ List.Forall₂ (fun x y => f x = some y) xs ys := by
  induction xs generalizing ys with
  | nil => cases ys <;> simp
  | cons x xs ih =>
    rw [List.mapM_cons]
    cases read : f x with
    | none => cases ys <;> simp [read]
    | some y => cases ys <;> simp [read, ← ih, Option.bind_eq_some_iff, and_comm]

theorem mapM_eq_none_iff {α β : Type} (f : α → Option β) (xs : List α) :
    xs.mapM f = none ↔ ∃ x ∈ xs, f x = none := by
  induction xs with
  | nil => simp
  | cons x xs ih =>
    rw [List.mapM_cons]
    cases read : f x with
    | none => simp [read]
    | some y => cases later : xs.mapM f <;> simp [read, ← ih, later]

theorem segment?_eq_some_iff {digits : List Char} {number : UInt32}
    (each : ∀ c ∈ digits, Decimal.isDigit c = true) :
    segment? digits = some number ↔ Segment digits number := by
  have bounded : number.toNat < Decimal.twoTo 32 := number.toNat_lt
  unfold segment?
  constructor
  · intro read
    split at read
    next => cases read
    next visible =>
      dsimp only at read
      split at read
      next small =>
        cases read
        have same : (UInt32.ofNat (Decimal.value digits)).toNat = Decimal.value digits :=
          UInt32.toNat_ofNat_of_lt' small
        exact ⟨fun empty => visible (List.isEmpty_iff.mpr empty), each, same.symm⟩
      next => cases read
  · rintro ⟨visible, -, value⟩
    rw [if_neg (mt List.isEmpty_iff.mp visible)]
    simp only [value, if_pos bounded, UInt32.ofNat_toNat]

theorem segment?_eq_none_iff (digits : List Char) :
    segment? digits = none ↔ digits = [] ∨ Decimal.twoTo 32 ≤ Decimal.value digits := by
  unfold segment?
  split
  next empty => simp [List.isEmpty_iff.mp empty]
  next visible =>
    have some : digits ≠ [] := mt List.isEmpty_iff.mpr visible
    simp only [some, false_or]
    split
    next small => simp [Nat.not_le.mpr small]
    next large => simp [Nat.not_lt.mp large]

theorem ofParts?_eq_some_iff (numbers : List UInt32) (version : Version) :
    ofParts? numbers = some version ↔ numbers = version.parts := by
  cases numbers with
  | nil => simp [ofParts?, parts]
  | cons first rest =>
    constructor
    · rintro ⟨⟩
      rfl
    · rintro ⟨⟩
      rfl

theorem ofChars?_eq (text : List Char) :
    ofChars? text = ((segments text).mapM segment?).bind ofParts? := by
  unfold segments core
  rw [← takeWhile_dropMark_trim]
  rfl

/-- Every segment of the run stands for the number at its place. -/
theorem ofChars?_eq_some_iff (text : List Char) (version : Version) :
    ofChars? text = some version ↔ List.Forall₂ Segment (segments text) version.parts := by
  have each := fun digits (member : digits ∈ segments text) => isDigit_of_mem_segments member
  simp only [ofChars?_eq, Option.bind_eq_some_iff, ofParts?_eq_some_iff, exists_eq_right,
    mapM_eq_some_iff, List.forall₂_iff_zip]
  refine and_congr_right fun _ => forall₂_congr fun digits number => ?_
  exact imp_congr_right fun paired =>
    segment?_eq_some_iff (each digits (List.of_mem_zip paired).1)

/-- A segment of the run is missing or too large. -/
theorem ofChars?_eq_none_iff (text : List Char) :
    ofChars? text = none ↔
      ∃ digits ∈ segments text, digits = [] ∨ Decimal.twoTo 32 ≤ Decimal.value digits := by
  simp only [ofChars?_eq, ← segment?_eq_none_iff, ← mapM_eq_none_iff]
  cases read : (segments text).mapM segment? with
  | none => simp
  | some numbers =>
    -- There is a first segment, so there is a first number.
    cases numbers with
    | nil =>
      have none := (mapM_eq_some_iff ..).mp read
      exact absurd (List.forall₂_nil_right_iff.mp none) (Text.splitAt_ne_nil _ _)
    | cons first rest => simp [ofParts?]

/-! ### The grammar and the segments -/

/-- Segments that fit are digits, with a first one. -/
theorem digits_of_segments {pieces : List (List Char)} {version : Version}
    (each : List.Forall₂ Segment pieces version.parts) :
    pieces ≠ [] ∧ ∀ piece ∈ pieces, piece ≠ [] ∧ ∀ c ∈ piece, Decimal.isDigit c = true := by
  constructor
  · rintro rfl
    exact List.cons_ne_nil _ _ (List.forall₂_nil_left_iff.mp each)
  · have shaped := each.imp fun digits number segment =>
      And.intro (And.intro segment.visible segment.each) segment
    exact ((List.forall₂_and_left pieces version.parts).mp shaped).1

/-- Segments of digits are found again, whatever may stand around them. -/
theorem segments_append {front behind : List Char} {pieces : List (List Char)} (dots : Nat)
    (lead : Lead front) (ends : Ends behind) (some : pieces ≠ [])
    (shape : ∀ piece ∈ pieces, piece ≠ [] ∧ ∀ c ∈ piece, Decimal.isDigit c = true) :
    segments (front ++ (Text.joinWith ['.'] pieces ++ (List.replicate dots '.' ++ behind))) =
      pieces := by
  obtain ⟨init, digit, written, last, member, inside⟩ :=
    Text.exists_joinWith_eq_concat ['.'] some fun piece member => (shape piece member).1
  have isDigit : Decimal.isDigit digit = true := (shape last member).2 digit inside
  have dotted : ∀ c ∈ init, isDotted c = true := by
    intro c inInit
    have joined : c ∈ Text.joinWith ['.'] pieces := by
      rw [written]
      exact List.mem_append_left _ inInit
    rcases Text.mem_joinWith joined with dot | ⟨piece, member, inPiece⟩
    · exact (isDotted_iff c).mpr (.inr (List.mem_singleton.mp dot))
    · exact isDotted_of_isDigit ((shape piece member).2 c inPiece)
  -- The dots behind the last digit belong to the run and are dropped from it.
  have dots_run : (List.replicate dots '.' ++ behind).takeWhile isDotted =
      List.replicate dots '.' := by
    rw [takeWhile_isDotted_append ends, List.takeWhile_replicate]
    rfl
  have dots_dropped : Text.dropEndWhile (· == '.') (List.replicate dots '.') = [] :=
    (List.rdropWhile_eq_nil_iff).mpr fun c member => by simp [List.eq_of_mem_replicate member]
  have whole : core (front ++ (Text.joinWith ['.'] pieces ++ (List.replicate dots '.' ++ behind))) =
      Text.joinWith ['.'] pieces := by
    rw [written, List.append_assoc, List.singleton_append, core_append lead dotted isDigit,
      dots_run, dots_dropped]
  have noDot : ∀ piece ∈ pieces, ∀ c ∈ piece, (c == '.') = false := by
    intro piece member c inPiece
    exact beq_dot_of_isDigit ((shape piece member).2 c inPiece)
  rw [segments, whole, Text.splitAt_joinWith (· == '.') rfl some noDot]

theorem segments_of_spells {text : List Char} {version : Version} (spells : Spells text version) :
    List.Forall₂ Segment (segments text) version.parts := by
  cases spells with
  | intro dots lead each ends =>
    obtain ⟨some, shape⟩ := digits_of_segments each
    rw [segments_append dots lead ends some shape]
    exact each

theorem spells_of_segments {text : List Char} {version : Version}
    (each : List.Forall₂ Segment (segments text) version.parts) : Spells text version := by
  obtain ⟨front, dots, behind, lead, ends, split⟩ := exists_layout text
  have spelled := Spells.intro dots lead each ends
  rw [segments, Text.joinWith_splitAt, ← split] at spelled
  exact spelled

theorem mem_head?_of_starts {front text : List Char} {c : Char} (starts : front <+: text)
    (first : c ∈ front.head?) : c ∈ text.head? := by
  obtain ⟨rest, rfl⟩ := starts
  rw [Option.mem_def] at first ⊢
  rw [List.head?_append, first]
  rfl

/-- Where no digit comes first, the first segment is empty. -/
theorem nil_mem_segments {text : List Char}
    (absent : ∀ c ∈ (afterLead text).head?, Decimal.isDigit c = false) : [] ∈ segments text := by
  refine (Text.mem_splitAt_iff _).mpr ⟨nofun, [], core text, rfl, nofun, ?_⟩
  intro c first
  have starts : core text <+: afterLead text :=
    (List.rdropWhile_prefix _ _).trans (List.takeWhile_prefix _)
  have dotted := isDotted_of_mem_core (List.mem_of_mem_head? first)
  have undigit := absent c (mem_head?_of_starts starts first)
  exact beq_iff_eq.mpr (eq_dot_of_isDotted dotted undigit)

/-- Where no digit comes next, the core ends or goes on with a dot. -/
theorem eq_dot_of_mem_head?_rest {behind : List Char}
    (stops : ∀ c ∈ behind.head?, Decimal.isDigit c = false) :
    ∀ c ∈ (Text.dropEndWhile (· == '.') (behind.takeWhile isDotted)).head?, (c == '.') = true := by
  intro c first
  have inRun : Text.dropEndWhile (· == '.') (behind.takeWhile isDotted) <+: behind.takeWhile isDotted :=
    List.rdropWhile_prefix _ _
  have dotted := List.mem_takeWhile_imp (inRun.subset (List.mem_of_mem_head? first))
  have undigit := stops c (mem_head?_of_starts (inRun.trans (List.takeWhile_prefix _)) first)
  exact beq_iff_eq.mpr (eq_dot_of_isDotted dotted undigit)

/-- A whole run of digits between dots is a segment. -/
theorem mem_segments {front before digits behind : List Char} (lead : Lead front)
    (dotted : ∀ c ∈ before, isDotted c = true) (starts : ∀ c ∈ before.getLast?, c = '.')
    (visible : digits ≠ []) (each : ∀ c ∈ digits, Decimal.isDigit c = true)
    (stops : ∀ c ∈ behind.head?, Decimal.isDigit c = false) :
    digits ∈ segments (front ++ (before ++ digits ++ behind)) := by
  obtain empty | ⟨init, digit, rfl⟩ := List.eq_nil_or_concat digits
  · exact absurd empty visible
  · rw [List.concat_eq_append] at each ⊢
    have dottedInit : ∀ c ∈ before ++ init, isDotted c = true := by
      intro c member
      rcases List.mem_append.mp member with member | member
      · exact dotted c member
      · exact isDotted_of_isDigit (each c (List.mem_append_left _ member))
    have noDot : ∀ c ∈ init ++ [digit], (c == '.') = false := fun c member =>
      beq_dot_of_isDigit (each c member)
    have split : before ++ (init ++ [digit]) ++ behind = before ++ init ++ digit :: behind := by
      simp
    rw [split, segments, core_append lead dottedInit (each digit (by simp))]
    refine (Text.mem_splitAt_iff _).mpr ⟨noDot, before,
      Text.dropEndWhile (· == '.') (behind.takeWhile isDotted), by simp, ?_,
      eq_dot_of_mem_head?_rest stops⟩
    exact fun c last => beq_iff_eq.mpr (starts c last)

theorem exists_segment_of_refused {text : List Char} (refused : Refused text) :
    ∃ digits ∈ segments text, digits = [] ∨ Decimal.twoTo 32 ≤ Decimal.value digits := by
  cases refused with
  | unstarted blank absent =>
    refine ⟨[], nil_mem_segments ?_, .inl rfl⟩
    have starts : ∀ c ∈ _, Text.isBlank c = false ∧ c ≠ 'v' := fun c first =>
      ⟨(absent c first).1, (absent c first).2.1⟩
    rw [afterLead_blanks blank, afterLead_eq_self starts]
    exact fun c first => (absent c first).2.2
  | unstartedMark blank absent =>
    refine ⟨[], nil_mem_segments ?_, .inl rfl⟩
    rw [afterLead_blanks blank]
    exact absent
  | @gap front before between behind digit lead dottedBefore dottedBetween isDigit =>
    have dotted : ∀ c ∈ before ++ '.' :: '.' :: between, isDotted c = true := by
      intro c member
      rcases List.mem_append.mp member with member | member
      · exact dottedBefore c member
      · rcases List.mem_cons.mp member with rfl | member
        · rfl
        · rcases List.mem_cons.mp member with rfl | member
          · rfl
          · exact dottedBetween c member
    -- The digit behind the two dots keeps both of them in the core.
    refine ⟨[], ?_, .inl rfl⟩
    rw [segments, core_append lead dotted isDigit, List.append_assoc, List.cons_append,
      Text.splitAt_append_separator (· == '.') rfl]
    apply List.mem_append_right
    simp [Text.splitAt]
  | @oversized front before digits behind lead dotted starts each stops large =>
    have visible : digits ≠ [] := by
      rintro rfl
      exact absurd large (by decide)
    exact ⟨digits, mem_segments lead dotted starts visible each stops, .inr large⟩

/-- A core that starts with a digit ends with one. -/
theorem exists_core_eq {text : List Char} {first : Char} (starts : first ∈ (afterLead text).head?)
    (isDigit : Decimal.isDigit first = true) :
    (∃ tail, core text = first :: tail) ∧
      ∃ init last, core text = init ++ [last] ∧ Decimal.isDigit last = true := by
  have head : ∃ tail, core text = first :: tail := by
    unfold core run
    rw [List.eq_cons_of_mem_head? starts, List.takeWhile_cons_of_pos (isDotted_of_isDigit isDigit)]
    exact ⟨_, Text.dropEndWhile_append_cons (· == '.') (beq_dot_of_isDigit isDigit) [] _⟩
  have visible : core text ≠ [] := by
    obtain ⟨tail, opened⟩ := head
    rw [opened]
    exact List.cons_ne_nil first tail
  have kept : ¬ ((core text).getLast visible == '.') = true := List.rdropWhile_last_not _ _ visible
  have dotted := isDotted_of_mem_core (List.getLast_mem visible)
  exact ⟨head, (core text).dropLast, (core text).getLast visible,
    (List.dropLast_append_getLast visible).symm,
    isDigit_of_isDotted dotted (mt beq_iff_eq.mpr kept)⟩

theorem refused_of_unstarted {text : List Char}
    (absent : ∀ c ∈ (afterLead text).head?, Decimal.isDigit c = false) : Refused text := by
  have blank : Text.isAllBlank (text.takeWhile Text.isBlank) = true :=
    List.all_eq_true.mpr fun c => List.mem_takeWhile_imp
  have visible : ∀ c ∈ (text.dropWhile Text.isBlank).head?, Text.isBlank c = false := fun _ =>
    Text.eq_false_of_mem_head?_dropWhile
  have whole : text.takeWhile Text.isBlank ++ text.dropWhile Text.isBlank = text :=
    List.takeWhile_append_dropWhile
  unfold afterLead at absent
  rw [← whole]
  generalize text.takeWhile Text.isBlank = blanks at blank
  generalize text.dropWhile Text.isBlank = rest at absent visible
  by_cases marked : ∃ others, rest = 'v' :: others
  · obtain ⟨others, rfl⟩ := marked
    exact .unstartedMark blank absent
  · have other : ∀ c ∈ rest.head?, c ≠ 'v' := by
      rintro c first rfl
      exact marked ⟨rest.tail, List.eq_cons_of_mem_head? first⟩
    rw [dropMark_eq_self other] at absent
    exact .unstarted blank fun c first => ⟨visible c first, other c first, absent c first⟩

/-- An empty segment lies between two dots when the text around it starts and ends with digits. -/
theorem exists_gap {before after init rest : List Char} {first last : Char}
    (opened : before ++ after = first :: rest) (closed : before ++ after = init ++ [last])
    (firstDigit : Decimal.isDigit first = true) (lastDigit : Decimal.isDigit last = true)
    (opens : ∀ c ∈ before.getLast?, (c == '.') = true)
    (closes : ∀ c ∈ after.head?, (c == '.') = true) :
    ∃ front between, before = front ++ ['.'] ∧ after = '.' :: between ++ [last] := by
  -- Without anything in front, the text would start with the dot behind the segment.
  have front : ∃ front, before = front ++ ['.'] := by
    obtain rfl | ⟨front, c, rfl⟩ := List.eq_nil_or_concat before
    · rw [List.nil_append] at opened
      rw [opened] at closes
      exact absurd (closes first rfl) (Bool.eq_false_iff.mp (beq_dot_of_isDigit firstDigit))
    · rw [List.concat_eq_append] at opens
      obtain rfl := beq_iff_eq.mp (opens c (by simp))
      exact ⟨front, List.concat_eq_append⟩
  -- Without anything behind, it would end with the dot in front.
  have back : ∃ back, after = back ++ [last] := by
    obtain rfl | ⟨back, c, rfl⟩ := List.eq_nil_or_concat after
    · rw [List.append_nil] at closed
      rw [closed] at opens
      exact absurd (opens last (by simp)) (Bool.eq_false_iff.mp (beq_dot_of_isDigit lastDigit))
    · rw [List.concat_eq_append, ← List.append_assoc] at closed
      obtain ⟨-, same⟩ := List.append_inj' closed rfl
      obtain rfl := List.singleton_inj.mp same
      exact ⟨back, List.concat_eq_append⟩
  obtain ⟨front, rfl⟩ := front
  obtain ⟨back, rfl⟩ := back
  cases back with
  | nil => exact absurd (closes last rfl) (Bool.eq_false_iff.mp (beq_dot_of_isDigit lastDigit))
  | cons c between =>
    obtain rfl := beq_iff_eq.mp (closes c rfl)
    exact ⟨front, between, rfl, rfl⟩

theorem refused_of_segment {text digits : List Char} (member : digits ∈ segments text)
    (bad : digits = [] ∨ Decimal.twoTo 32 ≤ Decimal.value digits) : Refused text := by
  by_cases absent : ∀ c ∈ (afterLead text).head?, Decimal.isDigit c = false
  · exact refused_of_unstarted absent
  · simp only [not_forall, Bool.not_eq_false] at absent
    obtain ⟨first, starts, isDigit⟩ := absent
    obtain ⟨⟨tail, opened⟩, init, last, closed, isLast⟩ := exists_core_eq starts isDigit
    obtain ⟨front, dots, behind, lead, ends, split⟩ := exists_layout text
    obtain ⟨-, before, after, cut, opens, closes⟩ := (Text.mem_splitAt_iff _).mp member
    have dotted : ∀ c ∈ before ++ (digits ++ after), isDotted c = true := fun c inside =>
      isDotted_of_mem_core (cut ▸ inside)
    rw [split, cut]
    rw [cut] at opened closed
    rcases bad with rfl | large
    · -- The core starts and ends with digits, so the empty segment is at neither of its ends.
      obtain ⟨front', between, rfl, rfl⟩ := exists_gap opened closed isDigit isLast opens closes
      have refused : Refused (front ++
          (front' ++ '.' :: '.' :: between ++ last :: (List.replicate dots '.' ++ behind))) :=
        .gap lead (fun c inside => dotted c (by simp [inside]))
          (fun c inside => dotted c (by simp [inside])) isLast
      simpa using refused
    · have stops : ∀ c ∈ (after ++ (List.replicate dots '.' ++ behind)).head?,
          Decimal.isDigit c = false := by
        intro c next
        cases after with
        | cons d after =>
          cases next
          obtain rfl := beq_iff_eq.mp (closes c rfl)
          rfl
        | nil =>
          cases dots with
          | zero => exact (ends c next).1
          | succ dots =>
            cases next
            rfl
      have refused : Refused (front ++
          (before ++ digits ++ (after ++ (List.replicate dots '.' ++ behind)))) :=
        .oversized lead (fun c inside => dotted c (List.mem_append_left _ inside))
          (fun c inside => beq_iff_eq.mp (opens c inside)) (isDigit_of_mem_segments member) stops
          large
      simpa using refused

/-! ### Main theorem -/

/-- A text is read as a version exactly when it spells it, with the numbers of its segments in their
order and none of them cut down to 32 bits, and is refused exactly when its numbers do not start with
a digit, leave a segment out or do not fit. -/
theorem parse?_grammar (text : String) :
    (∀ version, parse? text = some version ↔ Spells text.toList version) ∧
    (parse? text = none ↔ Refused text.toList) := by
  refine ⟨fun version => ?_, ?_⟩
  · rw [parse?, ofChars?_eq_some_iff]
    exact ⟨spells_of_segments, segments_of_spells⟩
  · rw [parse?, ofChars?_eq_none_iff]
    constructor
    · rintro ⟨digits, member, bad⟩
      exact refused_of_segment member bad
    · exact exists_segment_of_refused

example : parse? " v1.02..-beta" = some ⟨1, [2]⟩ := by decide +kernel

end EditorBridge.Version
