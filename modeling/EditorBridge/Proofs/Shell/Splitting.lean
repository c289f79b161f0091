import EditorBridge.Shell.Field
import EditorBridge.Shell.Field.Files
import EditorBridge.Shell.Reader.Word

/-!
# The words of a command line

A command line is cut into words by the rules of the shell: blanks separate words, quotes and
backslashes take the meaning of characters away, and operators, expansions and patterns make more of
the line than words. A line is no longer than its words and the gaps between them only when it is made
of plain words, each of which stands for itself; so that is when a list of words, put together with
single blanks, is cut into the same words again.

## Main statements

`splitFrom_weight`: the words of a line take no more room than the line.

`plain_of_weight`: where they take as much room as the line, all of them are plain.

`lineWords?_spaced_iff`: when a line is cut into the words that it was put together from.
-/

namespace EditorBridge.Shell

/-! ### Cutting a line -/

/-- The quotes that are open. -/
inductive Quotes where
  | none
  | single
  | double
  deriving DecidableEq, Repr

/-- Separates words. -/
def isGap (c : Char) : Bool := c == ' ' || c == '\t'

/-- Stands for itself outside of quotes, as a part of a word. -/
def isBare (c : Char) : Bool :=
  !(Reader.isBoundary c || ['\'', '"', '\\', '$', '\x60', '\x00'].contains c)

/-- Stands for itself between double quotes, also when it was written behind a backslash. -/
def isEscapable (c : Char) : Bool := ['\\', '"', '$', '\x60'].contains c

/-- What is left of the word that is being read, and the words behind it. -/
structure Words where
  current : List Item
  later : List (List Item)
  deriving DecidableEq, Repr

namespace Words

/-- All words. A word of quotes alone has a mark in it. -/
def all (words : Words) : List (List Item) :=
  if words.current.isEmpty then words.later else words.current :: words.later

/-- The word that is being read ends here. -/
def behindGap (words : Words) : Words := ⟨[], words.all⟩

/-- Another item stands in front. -/
def push (item : Item) (words : Words) : Words := { words with current := item :: words.current }

end Words

/-- Reads the rest of a line. A part of the word has been read when `started` is on. There are no words
where the line asks for more than a command with its arguments, or for an expansion. -/
def splitFrom : Quotes → (started : Bool) → Raw → Option Words
  | .none, _, [] => some ⟨[], []⟩
  | .single, _, [] | .double, _, [] => none
  | .none, started, c :: rest =>
    if isGap c then (splitFrom .none false rest).map Words.behindGap
    else if c = '\'' then (splitFrom .single true rest).map (Words.push .mark)
    else if c = '"' then (splitFrom .double true rest).map (Words.push .mark)
    else if c = '\\' then
      match rest with
      | [] => none
      | d :: rest =>
        -- A line end behind a backslash is as good as not there.
        if d = '\n' then splitFrom .none started rest
        else (splitFrom .none true rest).map (Words.push (.char d true))
    else if c = '#' ∧ started = false then if rest.contains '\n' then none else some ⟨[], []⟩
    else if isBare c then (splitFrom .none true rest).map (Words.push (.char c false))
    else none
  | .single, _, c :: rest =>
    if c = '\'' then splitFrom .none true rest
    else (splitFrom .single true rest).map (Words.push (.char c true))
  | .double, _, c :: rest =>
    if c = '"' then splitFrom .none true rest
    else if c = '\\' then
      match rest with
      | [] => none
      | d :: rest =>
        if d = '\n' then splitFrom .double true rest
        else if isEscapable d then (splitFrom .double true rest).map (Words.push (.char d true))
        else (splitFrom .double true rest).map
          (Words.push (.char '\\' true) ∘ Words.push (.char d true))
    else if c = '$' ∨ c = '\x60' then none
    else (splitFrom .double true rest).map (Words.push (.char c true))

/-- The word stands for itself: no tilde in it is a directory, and no part of it a pattern. -/
def isClosed (word : List Item) : Bool :=
  word.head? != some (.char '~' false) && !(Files.segments (Item.spelling word)).any Files.isActive

/-- Where a command starts, the word is a name or a value of another kind than a program. -/
def isReserved (word : List Item) : Bool :=
  !word.contains .mark && word.all (fun | .char _ quoted => !quoted | _ => false) &&
    (Reserved.ofText? (Item.text word)).isSome

/-- The word assigns to a variable. -/
def assigns (word : List Item) : Bool :=
  let name := word.takeWhile fun
    | .char c false => isNameChar c
    | _ => false
  isName (Item.text name) && word[name.length]? == some (.char '=' false)

/-- The words of a line that is a program with its arguments, each of them standing for itself. -/
def lineWords? (line : Raw) : Option (List Raw) :=
  -- No command line holds the character that ends its words for the system.
  if line.contains '\x00' then none
  else
    match (splitFrom .none false line).map Words.all with
    | none => none
    | some words =>
      if words.all isClosed && !(words.head?.any fun word => isReserved word || assigns word) then
        some (words.map Item.text)
      else none

/-! ### Room -/

namespace Words

/-- The room that words take: their characters, and a gap in front of each later word. -/
def weight (words : Words) : Nat :=
  (Item.text words.current ++ words.later.flatMap fun word => ' ' :: Item.text word).length

@[simp] theorem weight_push_char (c : Char) (quoted : Bool) (words : Words) :
    (words.push (.char c quoted)).weight = words.weight + 1 := rfl

@[simp] theorem weight_push_mark (words : Words) : (words.push .mark).weight = words.weight := rfl

/-- Each of the later words takes room. -/
theorem length_later_le (words : Words) : words.later.length ≤ words.weight := by
  obtain ⟨current, later⟩ := words
  induction later with
  | nil => exact Nat.zero_le _
  | cons word later ih =>
    simp only [weight, List.flatMap_cons, List.cons_append, List.length_append, List.length_cons]
      at ih ⊢
    omega

theorem weight_behindGap (words : Words) :
    words.behindGap.weight = words.weight + if words.current.isEmpty then 0 else 1 := by
  obtain ⟨current, later⟩ := words
  cases current with
  | nil => rfl
  | cons item current =>
    simp only [weight, behindGap, all, List.isEmpty_cons, Bool.false_eq_true, if_false,
      List.flatMap_cons, List.cons_append]
    rfl

end Words

/-- The words of a line take no more room than the line, and a quote that is open takes room as well. -/
theorem splitFrom_weight {quotes : Quotes} {started : Bool} {line : Raw} {words : Words}
    (split : splitFrom quotes started line = some words) :
    words.weight + (if quotes = .none then 0 else 1) ≤ line.length := by
  -- Along the cut: a step pushes no more characters than it uses up.
  fun_induction splitFrom quotes started line generalizing words with
  | case1 =>
    obtain rfl := Option.some.inj split
    exact Nat.le_refl 0
  | case2 | case3 | case7 | case10 | case13 | case17 | case21 => cases split
  | case11 =>
    obtain rfl := Option.some.inj split
    exact Nat.zero_le _
  | case8 | case14 | case16 | case18 =>
    rename_i ih
    have room := ih split
    simp only [List.length_cons, reduceCtorEq, if_true, if_false] at room ⊢
    omega
  | case4 =>
    rename_i ih
    obtain ⟨found, read, rfl⟩ := Option.map_eq_some_iff.mp split
    have room := ih read
    have gap : (if found.current.isEmpty then 0 else 1) ≤ 1 := by split <;> decide
    simp only [Words.weight_behindGap, List.length_cons, if_true] at room ⊢
    omega
  | case5 | case6 | case9 | case12 | case15 | case19 | case20 | case22 =>
    rename_i ih
    obtain ⟨found, read, rfl⟩ := Option.map_eq_some_iff.mp split
    have room := ih read
    simp only [Function.comp, Words.weight_push_char, Words.weight_push_mark, List.length_cons,
      reduceCtorEq, if_true, if_false] at room ⊢
    omega

/-! ### Plain words -/

/-- A word without quotes that can stand anywhere in a line. -/
structure Visible (word : Raw) : Prop where
  present : word ≠ []
  bare : ∀ c ∈ word, isBare c = true
  /-- It does not start a comment. -/
  told : word.head? ≠ some '#'

/-- The items of a word that was written without quotes. -/
def unquoted (word : Raw) : List Item := Item.ofRaw word false

theorem text_ofRaw (raw : Raw) (quoted : Bool) : Item.text (Item.ofRaw raw quoted) = raw := by
  induction raw with
  | nil => rfl
  | cons c raw ih => exact congrArg (c :: ·) ih

@[simp] theorem text_unquoted (word : Raw) : Item.text (unquoted word) = word :=
  text_ofRaw word false

theorem isReserved_unquoted (word : Raw) :
    isReserved (unquoted word) = (Reserved.ofText? word).isSome := by
  have marked : (unquoted word).contains .mark = false := by
    simp [unquoted, Item.ofRaw]
  have plain : (unquoted word).all (fun | .char _ quoted => !quoted | _ => false) = true := by
    simp [unquoted, Item.ofRaw]
  rw [isReserved, marked, plain, text_unquoted]
  rfl

/-- A name and an equals sign at the start of a word make it assign. -/
theorem assigns_of_isName {name : Raw} (names : isName name = true) (value : List Item) :
    assigns (unquoted name ++ .char '=' false :: value) = true := by
  have chars : ∀ c ∈ name, isNameChar c = true := by
    cases name with
    | nil => exact nofun
    | cons c rest =>
      obtain ⟨start, others⟩ := Bool.and_eq_true_iff.mp names
      refine List.forall_mem_cons.mpr ⟨?_, List.all_eq_true.mp others⟩
      rw [isNameChar, start, Bool.true_or]
  have front : (unquoted name ++ .char '=' false :: value).takeWhile (fun
      | .char c false => isNameChar c
      | _ => false) = unquoted name := by
    rw [List.takeWhile_append_of_pos]
    · simp [isNameChar, isNameStart, Decimal.isDigit]
    · intro item member
      obtain ⟨c, present, rfl⟩ := List.mem_map.mp member
      exact chars c present
  rw [assigns, front, text_unquoted, names, List.getElem?_append_right (Nat.le_refl _), Nat.sub_self]
  rfl

/-- Words that were written without quotes. -/
def Words.unquoted (word : Raw) (later : List Raw) : Words :=
  ⟨Shell.unquoted word, later.map Shell.unquoted⟩

/-- Outside of quotes a line goes on with a gap or with a character that stands for itself, or else it
takes more room than its words. -/
theorem splitFrom_cons {started : Bool} {c : Char} {rest : Raw} {words : Words}
    (split : splitFrom .none started (c :: rest) = some words) :
    (∃ found, isGap c = true ∧ splitFrom .none false rest = some found ∧ words = found.behindGap) ∨
      (∃ found, isBare c = true ∧ (started = false → c ≠ '#') ∧
        splitFrom .none true rest = some found ∧ words = found.push (.char c false)) ∨
      words.weight < (c :: rest).length := by
  have room {quotes : Quotes} {later : Bool} {line : Raw} {found : Words}
      (read : splitFrom quotes later line = some found) : found.weight ≤ line.length :=
    Nat.le_trans (Nat.le_add_right ..) (splitFrom_weight read)
  -- Quotes, backslashes and the start of a comment are characters of the line that no word gets.
  rw [splitFrom.eq_def] at split
  dsimp only at split
  split at split
  next gap =>
    obtain ⟨found, read, rfl⟩ := Option.map_eq_some_iff.mp split
    exact .inl ⟨found, gap, read, rfl⟩
  split at split
  next =>
    obtain ⟨found, read, rfl⟩ := Option.map_eq_some_iff.mp split
    rw [Words.weight_push_mark]
    exact .inr (.inr (Nat.lt_succ_of_le (room read)))
  split at split
  next =>
    obtain ⟨found, read, rfl⟩ := Option.map_eq_some_iff.mp split
    rw [Words.weight_push_mark]
    exact .inr (.inr (Nat.lt_succ_of_le (room read)))
  split at split
  next =>
    split at split
    next => cases split
    next d rest =>
      split at split
      next => exact .inr (.inr (Nat.lt_succ_of_lt (Nat.lt_succ_of_le (room split))))
      next =>
        obtain ⟨found, read, rfl⟩ := Option.map_eq_some_iff.mp split
        rw [Words.weight_push_char]
        exact .inr (.inr (Nat.succ_lt_succ (Nat.lt_succ_of_le (room read))))
  split at split
  next =>
    split at split
    next => cases split
    next =>
      obtain rfl := Option.some.inj split
      exact .inr (.inr (Nat.zero_lt_succ _))
  next told =>
    split at split
    next bare =>
      obtain ⟨found, read, rfl⟩ := Option.map_eq_some_iff.mp split
      exact .inr (.inl ⟨found, bare, fun fresh starts => told ⟨starts, fresh⟩, read, rfl⟩)
    next => cases split

/-- Only plain words take as much room as the line that they are read from. -/
theorem plain_of_weight {started : Bool} {line : Raw} {words : Words}
    (split : splitFrom .none started line = some words) (full : line.length ≤ words.weight) :
    ∃ word later, words = .unquoted word later ∧ (∀ c ∈ word, isBare c = true) ∧
      (started = false → word.head? ≠ some '#') ∧ ∀ other ∈ later, Visible other := by
  induction line generalizing started words with
  | nil =>
    obtain rfl := Option.some.inj split
    exact ⟨[], [], rfl, nofun, nofun, nofun⟩
  | cons c rest ih =>
    rcases splitFrom_cons split with
      ⟨found, -, read, rfl⟩ | ⟨found, bare, told, read, rfl⟩ | short
    · rw [Words.weight_behindGap] at full
      have room := splitFrom_weight read
      cases current : found.current.isEmpty with
      | true =>
        -- Two gaps, of which one would be enough.
        rw [current] at full
        simp at full room
        omega
      | false =>
        rw [current] at full
        obtain ⟨word, later, rfl, bare, told, visible⟩ :=
          ih read (Nat.le_of_succ_le_succ full)
        have present : word ≠ [] := by
          rintro rfl
          cases current
        refine ⟨[], word :: later, ?_, nofun, nofun, List.forall_mem_cons.mpr
          ⟨⟨present, bare, told rfl⟩, visible⟩⟩
        simp only [Words.behindGap, Words.all, current]
        rfl
    · rw [Words.weight_push_char] at full
      obtain ⟨word, later, rfl, others, -, visible⟩ := ih read (Nat.le_of_succ_le_succ full)
      refine ⟨c :: word, later, rfl, List.forall_mem_cons.mpr ⟨bare, others⟩, fun fresh starts => ?_,
        visible⟩
      exact told fresh (Option.some.inj starts)
    · omega

/-! ### Words with single blanks between them -/

/-- The words one behind the other, with a blank between any two. -/
def spaced (word : Raw) : List Raw → Raw
  | [] => word
  | next :: later => word ++ ' ' :: spaced next later

theorem weight_unquoted (word : Raw) (later : List Raw) :
    (Words.unquoted word later).weight = (spaced word later).length := by
  induction later generalizing word with
  | nil => exact congrArg List.length ((List.append_nil _).trans (text_unquoted word))
  | cons next later ih =>
    have rest := ih next
    simp only [Words.weight, Words.unquoted, List.map_cons, List.flatMap_cons, text_unquoted, spaced,
      List.cons_append, List.length_append, List.length_cons] at rest ⊢
    rw [rest]

theorem splitFrom_gap {c : Char} (gap : isGap c = true) (started : Bool) (rest : Raw) :
    splitFrom .none started (c :: rest) = (splitFrom .none false rest).map Words.behindGap := by
  rw [splitFrom.eq_def]
  exact if_pos gap

theorem Words.all_unquoted {word : Raw} (present : word ≠ []) (later : List Raw) :
    (Words.unquoted word later).all = (word :: later).map Shell.unquoted := by
  cases word with
  | nil => exact absurd rfl present
  | cons c word => rfl

theorem splitFrom_bare {c : Char} (bare : isBare c = true) {started : Bool}
    (told : started = false → c ≠ '#') (rest : Raw) :
    splitFrom .none started (c :: rest) =
      (splitFrom .none true rest).map (Words.push (.char c false)) := by
  have ordinary : isGap c = false ∧ c ≠ '\'' ∧ c ≠ '"' ∧ c ≠ '\\' := by
    simp [isBare, Reader.isBoundary] at bare
    simp [isGap, bare]
  obtain ⟨gap, single, double, backslash⟩ := ordinary
  rw [splitFrom.eq_def]
  dsimp only
  rw [gap, if_neg Bool.false_ne_true, if_neg single, if_neg double, if_neg backslash,
    if_neg fun ⟨starts, fresh⟩ => told fresh starts, if_pos bare]

/-- A word that stands for itself is read up to its end. -/
theorem splitFrom_append {word : Raw} (bare : ∀ c ∈ word, isBare c = true) {started : Bool}
    (told : started = false → word.head? ≠ some '#') (rest : Raw) :
    splitFrom .none started (word ++ rest) =
      (splitFrom .none (started || !word.isEmpty) rest).map fun found =>
        ⟨unquoted word ++ found.current, found.later⟩ := by
  induction word generalizing started with
  | nil => simp [unquoted, Item.ofRaw]
  | cons c word ih =>
    obtain ⟨first, others⟩ := List.forall_mem_cons.mp bare
    rw [List.cons_append, splitFrom_bare first fun fresh same => told fresh (congrArg some same),
      ih others fun absurd => Bool.noConfusion absurd]
    simp only [Bool.true_or, List.isEmpty_cons, Bool.not_false, Bool.or_true, Option.map_map]
    rfl

theorem splitFrom_spaced {word : Raw} {later : List Raw}
    (visible : ∀ one ∈ word :: later, Visible one) :
    splitFrom .none false (spaced word later) = some (.unquoted word later) := by
  induction later generalizing word with
  | nil =>
    obtain ⟨-, bare, told⟩ := visible word List.mem_cons_self
    have read : splitFrom .none false (word ++ []) = _ := splitFrom_append bare (fun _ => told) []
    rw [List.append_nil] at read
    rw [spaced, read]
    simp [splitFrom, Words.unquoted]
  | cons next later ih =>
    obtain ⟨-, bare, told⟩ := visible word List.mem_cons_self
    have others := fun one member => visible one (List.mem_cons_of_mem word member)
    have behind : splitFrom .none (false || !word.isEmpty) (' ' :: spaced next later) =
        some (Words.unquoted next later).behindGap := by
      rw [splitFrom_gap rfl, ih others]
      rfl
    rw [spaced, splitFrom_append bare (fun _ => told), behind]
    simp only [Words.behindGap, Words.all_unquoted (others next List.mem_cons_self).present]
    simp [Words.unquoted]

/-- A word that stands for itself, wherever it stands and whatever surrounds it. -/
structure Plain (word : Raw) : Prop extends Visible word where
  closed : isClosed (unquoted word) = true

instance (word : Raw) : Decidable (Plain word) :=
  decidable_of_iff
    (word ≠ [] ∧ word.all isBare = true ∧ word.head? ≠ some '#' ∧ isClosed (unquoted word) = true)
    ⟨fun ⟨present, bare, told, closed⟩ => ⟨⟨present, List.all_eq_true.mp bare, told⟩, closed⟩,
      fun ⟨⟨present, bare, told⟩, closed⟩ => ⟨present, List.all_eq_true.mpr bare, told, closed⟩⟩

/-- Where a command starts, the word is read as the name of a program. -/
structure NamesProgram (word : Raw) : Prop where
  unreserved : isReserved (unquoted word) = false
  unassigned : assigns (unquoted word) = false

instance (word : Raw) : Decidable (NamesProgram word) :=
  decidable_of_iff (isReserved (unquoted word) = false ∧ assigns (unquoted word) = false)
    ⟨fun ⟨unreserved, unassigned⟩ => ⟨unreserved, unassigned⟩,
      fun ⟨unreserved, unassigned⟩ => ⟨unreserved, unassigned⟩⟩

theorem mem_spaced_iff {c : Char} (other : c ≠ ' ') {word : Raw} {later : List Raw} :
    c ∈ spaced word later ↔ ∃ one ∈ word :: later, c ∈ one := by
  induction later generalizing word with
  | nil => simp [spaced]
  | cons next later ih => simp [spaced, ih, other]

/-- A line from which the words are read that it was put together from has no quotes in it. -/
theorem visible_of_splitFrom {word : Raw} {later : List Raw} {found : Words}
    (split : splitFrom .none false (spaced word later) = some found)
    (same : found.all.map Item.text = word :: later) :
    found = .unquoted word later ∧ ∀ one ∈ word :: later, Visible one := by
  have room : found.weight ≤ (spaced word later).length := splitFrom_weight split
  -- With a gap in front of it, each word takes the room of its characters and of its gap.
  have taken : found.behindGap.weight = (spaced word later).length + 1 := by
    have gaps : found.behindGap.weight =
        ((found.all.map Item.text).flatMap fun word => ' ' :: word).length := by
      rw [List.flatMap_map]
      rfl
    rw [gaps, same, ← weight_unquoted]
    simp [Words.weight, Words.unquoted, List.flatMap_map]
  rw [Words.weight_behindGap] at taken
  have present : found.current.isEmpty = false := by
    cases current : found.current.isEmpty with
    | false => rfl
    | true =>
      simp only [current, if_true] at taken
      omega
  simp only [present, Bool.false_eq_true, if_false] at taken
  obtain ⟨first, others, rfl, bare, told, visible⟩ :=
    plain_of_weight split (Nat.le_of_eq (Nat.succ.inj taken).symm)
  have started : first ≠ [] := by
    rintro rfl
    cases present
  rw [Words.all_unquoted started, List.map_map] at same
  obtain ⟨rfl, rfl⟩ : first = word ∧ others = later := by
    simpa [Function.comp_def] using same
  exact ⟨rfl, List.forall_mem_cons.mpr ⟨⟨started, bare, told rfl⟩, visible⟩⟩

/-- Of visible words, only a closed one and the name of a program are read. -/
theorem lineWords?_spaced {word : Raw} {later : List Raw}
    (visible : ∀ one ∈ word :: later, Visible one) :
    lineWords? (spaced word later) =
      if ((word :: later).map unquoted).all isClosed &&
          !(isReserved (unquoted word) || assigns (unquoted word)) then some (word :: later)
      else none := by
  have ended : (spaced word later).contains '\x00' = false := by
    rw [List.contains_eq_mem, decide_eq_false_iff_not, mem_spaced_iff (by decide)]
    rintro ⟨one, member, present⟩
    exact absurd ((visible one member).bare _ present) (by decide)
  have texts : ((word :: later).map unquoted).map Item.text = word :: later := by
    simp [Function.comp_def]
  unfold lineWords?
  rw [ended, if_neg Bool.false_ne_true, splitFrom_spaced visible, Option.map_some]
  simp only [Words.all_unquoted (visible word List.mem_cons_self).present, texts]
  rfl

/-- Words with single blanks between them are read as the same words again exactly when each of them
stands for itself and the first is the name of a program. -/
theorem lineWords?_spaced_iff (word : Raw) (later : List Raw) :
    lineWords? (spaced word later) = some (word :: later) ↔
      (∀ one ∈ word :: later, Plain one) ∧ NamesProgram word := by
  constructor
  · intro read
    have visible : ∀ one ∈ word :: later, Visible one := by
      unfold lineWords? at read
      split at read
      next => cases read
      split at read
      next => cases read
      next words all =>
        split at read
        next =>
          obtain ⟨found, split, rfl⟩ := Option.map_eq_some_iff.mp all
          exact (visible_of_splitFrom split (Option.some.inj read)).2
        next => cases read
    rw [lineWords?_spaced visible, Option.ite_none_right_eq_some] at read
    simp only [Bool.and_eq_true, List.all_map, List.all_eq_true, Bool.not_eq_true',
      Bool.or_eq_false_iff] at read
    obtain ⟨⟨closed, unreserved, unassigned⟩, -⟩ := read
    exact ⟨fun one member => ⟨visible one member, closed one member⟩, unreserved, unassigned⟩
  · rintro ⟨plain, unreserved, unassigned⟩
    have closed : ((word :: later).map unquoted).all isClosed = true := by
      rw [List.all_map, List.all_eq_true]
      exact fun one member => (plain one member).closed
    rw [lineWords?_spaced fun one member => (plain one member).toVisible, closed, unreserved,
      unassigned]
    rfl

example : lineWords? " python\t-m  pip # now".toList =
    some ["python".toList, "-m".toList, "pip".toList] := by
  decide +kernel

example : lineWords? "python -m pi*".toList = none := by decide +kernel

end EditorBridge.Shell
