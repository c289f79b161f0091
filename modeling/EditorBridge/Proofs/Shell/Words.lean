import EditorBridge.Proofs.Shell.Splitting
import EditorBridge.Shell.Reader.Grammar

/-!
# The reader of words

The reader goes through a line one character at a time and gathers the pieces of a word. On a line that is
cut into words it meets no expansion, so that each of its steps adds the items which the cut puts in front
of the rest. Step by step it reads the same items, and it stops at the gap behind the word.

## Main statements

`Reader.reads_of_splitFrom`: from any place in a word, inside and outside of quotes, the reader finds the
items that the line is cut into.
-/

namespace EditorBridge.Shell

/-! ### Words without expansions -/

/-- The items of a piece. An expansion has none before it is made. -/
def Piece.items : Piece → List Item
  | .text raw quoted => Item.ofRaw raw quoted
  | .mark => [.mark]
  | _ => []

/-- The piece is no expansion. -/
def Piece.isWritten : Piece → Bool
  | .text .. | .mark => true
  | _ => false

/-- The word has no expansions, and these are its items. -/
structure Spells (word : Word) (items : List Item) : Prop where
  written : word.all Piece.isWritten = true
  spelled : word.flatMap Piece.items = items

namespace Spells

variable {word other : Word} {items others : List Item}

theorem append (first : Spells word items) (second : Spells other others) :
    Spells (word ++ other) (items ++ others) where
  written := by rw [List.all_append, first.written, second.written]; rfl
  spelled := by rw [List.flatMap_append, first.spelled, second.spelled]

theorem mark : Spells [.mark] [.mark] := ⟨rfl, rfl⟩

theorem text (raw : Raw) (quoted : Bool) : Spells [.text raw quoted] (Item.ofRaw raw quoted) :=
  ⟨rfl, List.append_nil _⟩

theorem literal_eq (spells : Spells word items) : word.literal = Item.text items := by
  obtain ⟨written, rfl⟩ := spells
  induction word with
  | nil => rfl
  | cons piece word ih =>
    obtain ⟨first, others⟩ := Bool.and_eq_true_iff.mp (List.all_cons ▸ written)
    have rest := ih others
    cases piece with
    | text raw quoted =>
      have here := congrArg (· ++ Item.text (word.flatMap Piece.items)) (text_ofRaw raw quoted)
      simp only [Item.text, Word.literal, List.flatMap_cons, List.flatMap_append, Piece.items]
        at rest here ⊢
      rw [here, rest]
    | mark => exact rest
    | parameter | command | arithmetic => cases first

end Spells

namespace Reader

/-- What has been read of a word has no expansions, and these are its items. -/
def Holds (word : Word) (items : List Item) : Prop := Spells (finished word) items

theorem finished_cons (piece : Piece) (word : Word) :
    finished (piece :: word) = finished word ++ finished [piece] := by
  simp [finished]

namespace Holds

variable {word pieces : Word} {items others : List Item}

theorem nil : Holds [] [] := ⟨rfl, rfl⟩

theorem cons (holds : Holds word items) {piece : Piece} (spells : Spells (finished [piece]) others) :
    Holds (piece :: word) (items ++ others) := by
  rw [Holds, finished_cons]
  exact holds.append spells

theorem mark (holds : Holds word items) : Holds (.mark :: word) (items ++ [.mark]) :=
  holds.cons .mark

theorem addChar (holds : Holds word items) (c : Char) (quoted : Bool) :
    Holds (addChar c quoted word) (items ++ [.char c quoted]) := by
  unfold Reader.addChar
  split
  next raw other rest =>
    split
    next same =>
      obtain rfl := beq_iff_eq.mp same
      rw [Holds, finished_cons] at holds ⊢
      obtain ⟨written, rfl⟩ := holds
      refine ⟨?_, ?_⟩
      · rw [List.all_append] at written ⊢
        exact written
      · simp [finished, Piece.items, Item.ofRaw]
    next => exact holds.cons (.text [c] quoted)
  next => exact holds.cons (.text [c] quoted)

theorem addText (holds : Holds word items) (raw : Raw) (quoted : Bool) :
    Holds (addText raw quoted word) (items ++ Item.ofRaw raw quoted) := by
  induction raw generalizing word items with
  | nil => exact (List.append_nil items).symm ▸ holds
  | cons c raw ih =>
    have rest := ih (holds.addChar c quoted)
    rw [List.append_assoc] at rest
    exact rest

theorem addPieces (holds : Holds word items) (spells : Spells pieces others) :
    Holds (addPieces pieces word) (items ++ others) := by
  obtain ⟨written, rfl⟩ := spells
  induction pieces generalizing word items with
  | nil => exact (List.append_nil items).symm ▸ holds
  | cons piece pieces ih =>
    obtain ⟨first, others⟩ := Bool.and_eq_true_iff.mp (List.all_cons ▸ written)
    rw [List.flatMap_cons, ← List.append_assoc]
    cases piece with
    | text raw quoted => exact ih (holds.addText raw quoted) others
    | mark => exact ih holds.mark others
    | parameter | command | arithmetic => cases first

end Holds

/-! ### Single steps -/

theorem run_bind {α β : Type} {reader : Reader α} {next : α → Reader β} {scan after : Scan}
    {value : α} (read : reader.run scan = .ok (value, after)) :
    (reader >>= next).run scan = (next value).run after := by
  rw [StateT.run_bind, read]
  rfl

theorem get_run (scan : Scan) : (get : Reader Scan).run scan = .ok (scan, scan) := rfl

/-- The scan at another place. -/
def moved (scan : Scan) (rest : Raw) (line : Nat) : Scan :=
  { scan with rest := rest, line := line }

/-- No line end is joined here. -/
def Unjoined (raw : Raw) : Prop := dropJoins raw = (0, raw)

theorem unjoined_cons {c : Char} (other : c ≠ '\\') (rest : Raw) : Unjoined (c :: rest) := by
  unfold Unjoined dropJoins
  split
  next same => exact absurd (List.cons.inj same).1 other
  next => rfl

theorem unjoined_backslash {d : Char} (other : d ≠ '\n') (rest : Raw) :
    Unjoined ('\\' :: d :: rest) := by
  unfold Unjoined dropJoins
  split
  next same => exact absurd (List.cons.inj (List.cons.inj same).2).1 other
  next => rfl

theorem peek_run (scan : Scan) :
    peek.run scan = .ok ((dropJoins scan.rest).2.head?,
      moved scan (dropJoins scan.rest).2 (scan.line + (dropJoins scan.rest).1)) := by
  unfold peek
  rw [run_bind (get_run scan)]
  split
  next rest same => rfl
  next other =>
    have plain : Unjoined scan.rest := by
      unfold Unjoined dropJoins
      split
      next rest same => exact absurd same (other rest)
      next => rfl
    rw [plain]
    rfl

theorem peek_unjoined {scan : Scan} (plain : Unjoined scan.rest) :
    peek.run scan = .ok (scan.rest.head?, scan) := by
  rw [peek_run, plain]
  rfl

theorem skip_run {scan : Scan} {c : Char} {rest : Raw} (here : scan.rest = c :: rest) :
    skip.run scan = .ok ((), moved scan rest (if c == '\n' then scan.line + 1 else scan.line)) := by
  unfold skip
  change Except.ok _ = Except.ok _
  simp only [here]
  rfl

/-! ### The steps of a word -/

section

variable {commands : Commands} {fuel : Nat} {word : Word} {scan : Scan} {c d : Char} {rest : Raw}

/-- Outside of quotes. -/
abbrev outside : Setting := { ending := .boundary }

/-- Between double quotes. -/
abbrev inside : Setting := { ending := .quote, quoted := true }

theorem outside_end (here : scan.rest = []) :
    (pieces commands (fuel + 1) outside 0 word).run scan = .ok (finished word, scan) := by
  rw [pieces]
  dsimp only
  rw [run_bind (peek_unjoined (here ▸ rfl)), here]
  rfl

theorem outside_gap (gap : isGap c = true) (here : scan.rest = c :: rest) :
    (pieces commands (fuel + 1) outside 0 word).run scan = .ok (finished word, scan) := by
  have either : c = ' ' ∨ c = '\t' := by simpa [isGap] using gap
  rw [pieces]
  dsimp only
  rw [run_bind (peek_unjoined (here ▸ unjoined_cons (by rcases either with rfl | rfl <;> decide) rest)),
    here]
  rcases either with rfl | rfl <;> rfl

theorem outside_bare (bare : isBare c = true) (here : scan.rest = c :: rest) :
    ∃ line, (pieces commands (fuel + 1) outside 0 word).run scan =
      (pieces commands fuel outside 0 (addChar c false word)).run (moved scan rest line) := by
  have unbound : isBoundary c = false := by
    simp only [isBare, Bool.not_eq_true', Bool.or_eq_false_iff] at bare
    exact bare.1
  simp [isBare, isBoundary] at bare
  refine ⟨if c == '\n' then scan.line + 1 else scan.line, ?_⟩
  rw [pieces]
  dsimp only
  rw [run_bind (peek_unjoined (here ▸ unjoined_cons (by simp [bare]) rest)), here]
  dsimp only [List.head?_cons]
  split
  -- A closing brace, and a character that is not asked about.
  case h_8 same =>
    obtain rfl := Option.some.inj same
    exact run_bind (skip_run here)
  case h_11 same =>
    obtain rfl := Option.some.inj same
    rw [unbound]
    exact run_bind (skip_run here)
  all_goals simp_all

theorem outside_backslash (other : d ≠ '\n') (here : scan.rest = '\\' :: d :: rest) :
    ∃ line, (pieces commands (fuel + 1) outside 0 word).run scan =
      (pieces commands fuel outside 0 (addPieces [.text [d] true] word)).run
        (moved scan rest line) := by
  refine ⟨if d == '\n' then scan.line + 1 else scan.line, ?_⟩
  rw [pieces]
  dsimp only
  rw [run_bind (peek_unjoined (here ▸ unjoined_backslash other rest)), here]
  exact (run_bind (skip_run here)).trans rfl

theorem outside_double (here : scan.rest = '"' :: rest) :
    (pieces commands (fuel + 1) outside 0 word).run scan =
      (do
        let inner ← pieces commands fuel inside 0 []
        pieces commands fuel outside 0 (addPieces (quotedPieces inner) word)).run
        (moved scan rest scan.line) := by
  rw [pieces]
  dsimp only
  rw [run_bind (peek_unjoined (here ▸ unjoined_cons (by decide) rest)), here]
  exact run_bind (skip_run here)

theorem outside_single {inner : Raw} (closed : '\'' ∉ inner)
    (here : scan.rest = '\'' :: (inner ++ '\'' :: rest)) :
    (pieces commands (fuel + 1) outside 0 word).run scan =
      (pieces commands fuel outside 0 (addText inner true (.mark :: word))).run
        (moved scan rest (scan.line + inner.count '\n')) := by
  rw [pieces]
  dsimp only
  rw [run_bind (peek_unjoined (here ▸ unjoined_cons (by decide) _)), here]
  refine (run_bind (skip_run here)).trans ?_
  have found : (inner ++ '\'' :: rest).takeWhile (· != '\'') = inner := by
    rw [List.takeWhile_append_of_pos]
    · simp
    · rintro c member
      exact bne_iff_ne.mpr fun same => closed (same ▸ member)
  refine (run_bind (get_run _)).trans ?_
  simp only [moved, found, List.drop_left]
  rfl

/-- Joined line ends are passed over. -/
theorem pieces_joined (setting : Setting) (here : scan.rest = '\\' :: '\n' :: rest) :
    (pieces commands (fuel + 1) setting 0 word).run scan =
      (pieces commands (fuel + 1) setting 0 word).run (moved scan rest (scan.line + 1)) := by
  have same : peek.run scan = peek.run (moved scan rest (scan.line + 1)) := by
    rw [peek_run, peek_run, here, moved]
    simp only [dropJoins, moved, Nat.add_assoc, Nat.add_comm 1]
  rw [pieces, StateT.run_bind, StateT.run_bind, same]

theorem inside_close (here : scan.rest = '"' :: rest) :
    (pieces commands (fuel + 1) inside 0 word).run scan =
      .ok (finished word, moved scan rest scan.line) := by
  rw [pieces]
  dsimp only
  rw [run_bind (peek_unjoined (here ▸ unjoined_cons (by decide) rest)), here]
  exact run_bind (skip_run here)

theorem inside_backslash (other : d ≠ '\n') (here : scan.rest = '\\' :: d :: rest) :
    ∃ line, (pieces commands (fuel + 1) inside 0 word).run scan =
      (pieces commands fuel inside 0
        (addPieces [.text (if isEscapable d then [d] else ['\\', d]) true] word)).run
        (moved scan rest line) := by
  refine ⟨if d == '\n' then scan.line + 1 else scan.line, ?_⟩
  rw [pieces]
  dsimp only
  rw [run_bind (peek_unjoined (here ▸ unjoined_backslash other rest)), here]
  refine (run_bind (skip_run here)).trans ?_
  have same : (escaped inside).run (moved scan (d :: rest) scan.line) = .ok
      ([.text (if isEscapable d then [d] else ['\\', d]) true],
        moved scan rest (if d == '\n' then scan.line + 1 else scan.line)) := by
    unfold escaped
    have taken : takeAny.run (moved scan (d :: rest) scan.line) = .ok (some d,
        moved scan rest (if d == '\n' then scan.line + 1 else scan.line)) := rfl
    have counts : (d == '\\' || d == '\x60' || d == '$' ||
        (d == '"' && ((none : Option AwaitedDocument).isNone || false)) ||
        (d == '\x7d' && false)) = isEscapable d := by
      simp only [isEscapable, List.contains_cons, List.contains_nil, Bool.or_false, Bool.and_true,
        Bool.and_false, Option.isNone_none]
      ac_rfl
    rw [run_bind taken]
    dsimp only
    rw [counts]
    cases isEscapable d <;> rfl
  exact run_bind same

theorem inside_char (ordinary : c ≠ '"' ∧ c ≠ '\\' ∧ c ≠ '$' ∧ c ≠ '\x60')
    (here : scan.rest = c :: rest) :
    ∃ line, (pieces commands (fuel + 1) inside 0 word).run scan =
      (pieces commands fuel inside 0 (addChar c true word)).run (moved scan rest line) := by
  obtain ⟨double, backslash, dollar, backquote⟩ := ordinary
  refine ⟨if c == '\n' then scan.line + 1 else scan.line, ?_⟩
  rw [pieces]
  dsimp only
  rw [run_bind (peek_unjoined (here ▸ unjoined_cons backslash rest)), here]
  dsimp only [List.head?_cons]
  split
  case h_1 same => cases same
  case h_3 same => exact absurd (Option.some.inj same) backslash
  case h_4 same => exact absurd (Option.some.inj same) dollar
  case h_5 same => exact absurd (Option.some.inj same) backquote
  case h_6 same => exact absurd (Option.some.inj same) double
  -- A line end, a single quote, a brace and a parenthesis have branches of their own, but between
  -- double quotes they are added like any other character.
  all_goals
    rename_i same
    obtain rfl := Option.some.inj same
    exact (run_bind (skip_run here)).trans rfl

end

/-! ### Whole words -/

theorem moved_self {scan : Scan} {rest : Raw} (here : scan.rest = rest) :
    moved scan rest scan.line = scan := by
  subst here
  rfl

/-- Behind the part of a word that has been read, the reader finds the rest of the word, and leaves the
gap behind it and the later words. -/
def ReadsWord (commands : Commands) (rest : Raw) (words : Words) : Prop :=
  ∀ (fuel : Nat) (scan : Scan) (word : Word) (items : List Item),
    rest.length < fuel → scan.rest = rest → Holds word items →
    ∃ read behind line,
      (pieces commands fuel outside 0 word).run scan = .ok (read, moved scan behind line) ∧
        Spells read (items ++ words.current) ∧ (∀ c ∈ behind.head?, isGap c = true) ∧
        splitFrom .none false behind = some ⟨[], words.later⟩

/-- Behind an opening double quote the reader finds the items up to the closing one. -/
def ReadsQuoted (commands : Commands) (rest : Raw) (held : List Item) (behind : Raw) : Prop :=
  ∀ (fuel : Nat) (scan : Scan) (word : Word) (items : List Item),
    rest.length < fuel → scan.rest = rest → Holds word items →
    ∃ read line,
      (pieces commands fuel inside 0 word).run scan = .ok (read, moved scan behind line) ∧
        Spells read (items ++ held)

/-- The reader finds the end of the quotes that are open, and reads on behind them. -/
def Reads (commands : Commands) : Quotes → Raw → Words → Prop
  | .none, rest, words => ReadsWord commands rest words
  | .single, rest, words => ∃ held behind tail, rest = held ++ '\'' :: behind ∧ '\'' ∉ held ∧
      words.current = Item.ofRaw held true ++ tail ∧ ReadsWord commands behind ⟨tail, words.later⟩
  | .double, rest, words => ∃ held behind tail, behind.length < rest.length ∧
      words.current = held ++ tail ∧ ReadsWord commands behind ⟨tail, words.later⟩ ∧
      ReadsQuoted commands rest held behind

section

variable {commands : Commands}

theorem readsWord_end : ReadsWord commands [] ⟨[], []⟩ := by
  intro fuel scan word items enough here holds
  obtain ⟨fuel, rfl⟩ := Nat.exists_eq_succ_of_ne_zero (Nat.ne_zero_of_lt enough)
  refine ⟨finished word, [], scan.line, ?_, ?_, nofun, rfl⟩
  · rw [moved_self here]
    exact outside_end here
  · exact (List.append_nil items).symm ▸ holds

theorem readsWord_gap {c : Char} (gap : isGap c = true) {rest : Raw}
    {words : Words} (split : splitFrom .none false rest = some words) :
    ReadsWord commands (c :: rest) words.behindGap := by
  intro fuel scan word items enough here holds
  obtain ⟨fuel, rfl⟩ := Nat.exists_eq_succ_of_ne_zero (Nat.ne_zero_of_lt enough)
  refine ⟨finished word, c :: rest, scan.line, ?_, ?_, ?_, ?_⟩
  · rw [moved_self here]
    exact outside_gap gap here
  · exact (List.append_nil items).symm ▸ holds
  · rintro other same
    exact Option.some.inj same ▸ gap
  · rw [splitFrom_gap gap, split]
    rfl

/-- A step of the reader puts items in front of what it reads afterwards. -/
theorem ReadsWord.behind {rest back : Raw} {tail : List Item} {later : List (List Item)}
    (front : List Item) (reads : ReadsWord commands back ⟨tail, later⟩)
    (shorter : back.length < rest.length)
    (step : ∀ {fuel : Nat} {scan : Scan} {word : Word} {items : List Item},
      rest.length ≤ fuel → scan.rest = rest → Holds word items → ∃ next line,
        (pieces commands (fuel + 1) outside 0 word).run scan =
          (pieces commands fuel outside 0 next).run (moved scan back line) ∧
        Holds next (items ++ front)) :
    ReadsWord commands rest ⟨front ++ tail, later⟩ := by
  intro fuel scan word items enough here holds
  obtain ⟨fuel, rfl⟩ := Nat.exists_eq_succ_of_ne_zero (Nat.ne_zero_of_lt enough)
  obtain ⟨next, line, run, held⟩ := step (Nat.le_of_lt_succ enough) here holds
  obtain ⟨read, behind, last, found, spells, gap, split⟩ :=
    reads fuel (moved scan back line) next _
      (Nat.lt_of_lt_of_le shorter (Nat.le_of_lt_succ enough)) rfl held
  refine ⟨read, behind, last, run.trans found, ?_, gap, split⟩
  rw [← List.append_assoc]
  exact spells

theorem ReadsQuoted.behind {rest back behind : Raw} {held : List Item} (front : List Item)
    (reads : ReadsQuoted commands back held behind) (shorter : back.length < rest.length)
    (step : ∀ {fuel : Nat} {scan : Scan} {word : Word} {items : List Item},
      rest.length ≤ fuel → scan.rest = rest → Holds word items → ∃ next line,
        (pieces commands (fuel + 1) inside 0 word).run scan =
          (pieces commands fuel inside 0 next).run (moved scan back line) ∧
        Holds next (items ++ front)) :
    ReadsQuoted commands rest (front ++ held) behind := by
  intro fuel scan word items enough here holds
  obtain ⟨fuel, rfl⟩ := Nat.exists_eq_succ_of_ne_zero (Nat.ne_zero_of_lt enough)
  obtain ⟨next, line, run, kept⟩ := step (Nat.le_of_lt_succ enough) here holds
  obtain ⟨read, last, found, spells⟩ :=
    reads fuel (moved scan back line) next _
      (Nat.lt_of_lt_of_le shorter (Nat.le_of_lt_succ enough)) rfl kept
  refine ⟨read, last, run.trans found, ?_⟩
  rw [← List.append_assoc]
  exact spells

theorem readsQuoted_close (rest : Raw) : ReadsQuoted commands ('"' :: rest) [] rest := by
  intro fuel scan word items enough here holds
  obtain ⟨fuel, rfl⟩ := Nat.exists_eq_succ_of_ne_zero (Nat.ne_zero_of_lt enough)
  exact ⟨finished word, scan.line, inside_close here, (List.append_nil items).symm ▸ holds⟩

/-- Quotes that hold no expansion leave a mark and the items between them. -/
theorem quotedPieces_spells {inner : Word} {held : List Item} (spells : Spells inner held) :
    Spells (quotedPieces inner) (.mark :: held) := by
  have marked : quotedPieces inner = .mark :: inner := by
    unfold quotedPieces
    split
    next => cases spells.written
    next => rfl
  rw [marked]
  exact Spells.mark.append spells

/-! ### The steps outside of quotes -/

theorem readsWord_single {rest : Raw} {words : Words} (reads : Reads commands .single rest words) :
    ReadsWord commands ('\'' :: rest) (words.push .mark) := by
  obtain ⟨current, later⟩ := words
  obtain ⟨held, behind, tail, rfl, closed, rfl, reads⟩ := reads
  refine reads.behind (.mark :: Item.ofRaw held true) ?_ fun _ here holds => ?_
  · rw [List.length_cons, List.length_append, List.length_cons]
    omega
  · have quoted := holds.mark.addText held true
    rw [List.append_assoc] at quoted
    exact ⟨_, _, outside_single closed here, quoted⟩

theorem readsWord_double {rest : Raw} {words : Words} (reads : Reads commands .double rest words) :
    ReadsWord commands ('"' :: rest) (words.push .mark) := by
  obtain ⟨current, later⟩ := words
  obtain ⟨held, behind, tail, shorter, rfl, reads, quoted⟩ := reads
  refine reads.behind (.mark :: held) (Nat.lt_succ_of_lt shorter)
    fun {fuel scan _ _} enough here holds => ?_
  obtain ⟨inner, line, run, spells⟩ :=
    quoted fuel (moved scan rest scan.line) [] [] enough rfl .nil
  exact ⟨_, line, (outside_double here).trans (run_bind run),
    holds.addPieces (quotedPieces_spells spells)⟩

theorem readsWord_joined {rest : Raw} {words : Words} (reads : ReadsWord commands rest words) :
    ReadsWord commands ('\\' :: '\n' :: rest) words := by
  -- The reader does not count a joined line end as a step: the same fuel is left behind it.
  intro fuel scan word items enough here holds
  obtain ⟨fuel, rfl⟩ := Nat.exists_eq_succ_of_ne_zero (Nat.ne_zero_of_lt enough)
  obtain ⟨read, behind, line, run, found⟩ := reads (fuel + 1)
    (moved scan rest (scan.line + 1)) word items (Nat.lt_of_succ_lt (Nat.lt_of_succ_lt enough))
    rfl holds
  exact ⟨read, behind, line, (pieces_joined outside here).trans run, found⟩

theorem readsWord_backslash {d : Char} (other : d ≠ '\n') {rest : Raw} {words : Words}
    (reads : ReadsWord commands rest words) :
    ReadsWord commands ('\\' :: d :: rest) (words.push (.char d true)) := by
  refine reads.behind [.char d true] (Nat.lt_succ_of_lt (Nat.lt_succ_self _)) fun _ here holds => ?_
  obtain ⟨line, run⟩ := outside_backslash other here
  exact ⟨_, line, run, holds.addPieces (.text [d] true)⟩

theorem readsWord_bare {c : Char} (bare : isBare c = true) {rest : Raw} {words : Words}
    (reads : ReadsWord commands rest words) :
    ReadsWord commands (c :: rest) (words.push (.char c false)) := by
  refine reads.behind [.char c false] (Nat.lt_succ_self _) fun _ here holds => ?_
  obtain ⟨line, run⟩ := outside_bare bare here
  exact ⟨_, line, run, holds.addChar c false⟩

/-! ### The steps inside of quotes -/

theorem reads_single_close {rest : Raw} {words : Words} (reads : ReadsWord commands rest words) :
    Reads commands .single ('\'' :: rest) words :=
  ⟨[], rest, words.current, rfl, List.not_mem_nil, rfl, reads⟩

theorem reads_single_char {c : Char} (other : c ≠ '\'') {rest : Raw} {words : Words}
    (reads : Reads commands .single rest words) :
    Reads commands .single (c :: rest) (words.push (.char c true)) := by
  obtain ⟨current, later⟩ := words
  obtain ⟨held, behind, tail, rfl, closed, rfl, reads⟩ := reads
  refine ⟨c :: held, behind, tail, rfl, ?_, rfl, reads⟩
  rintro (_ | ⟨_, member⟩)
  · exact other rfl
  · exact closed member

theorem reads_double_close {rest : Raw} {words : Words} (reads : ReadsWord commands rest words) :
    Reads commands .double ('"' :: rest) words :=
  ⟨[], rest, words.current, Nat.lt_succ_self _, rfl, reads, readsQuoted_close rest⟩

theorem reads_double_joined {rest : Raw} {words : Words} (reads : Reads commands .double rest words) :
    Reads commands .double ('\\' :: '\n' :: rest) words := by
  obtain ⟨held, behind, tail, shorter, current, reads, quoted⟩ := reads
  refine ⟨held, behind, tail, Nat.lt_succ_of_lt (Nat.lt_succ_of_lt shorter), current, reads, ?_⟩
  intro fuel scan word items enough here holds
  obtain ⟨fuel, rfl⟩ := Nat.exists_eq_succ_of_ne_zero (Nat.ne_zero_of_lt enough)
  obtain ⟨read, line, run, spells⟩ := quoted (fuel + 1)
    (moved scan rest (scan.line + 1)) word items (Nat.lt_of_succ_lt (Nat.lt_of_succ_lt enough))
    rfl holds
  exact ⟨read, line, (pieces_joined inside here).trans run, spells⟩

/-- A step between double quotes puts items in front of those that are held. -/
theorem reads_double_behind {rest back : Raw} {words : Words} (front : List Item)
    (reads : Reads commands .double back words) (shorter : back.length < rest.length)
    (step : ∀ {fuel : Nat} {scan : Scan} {word : Word} {items : List Item},
      rest.length ≤ fuel → scan.rest = rest → Holds word items → ∃ next line,
        (pieces commands (fuel + 1) inside 0 word).run scan =
          (pieces commands fuel inside 0 next).run (moved scan back line) ∧
        Holds next (items ++ front)) :
    Reads commands .double rest { words with current := front ++ words.current } := by
  obtain ⟨held, behind, tail, within, current, reads, quoted⟩ := reads
  refine ⟨front ++ held, behind, tail, Nat.lt_trans within shorter, ?_, reads,
    quoted.behind front shorter step⟩
  rw [List.append_assoc, ← current]

theorem reads_double_escaped {d : Char} (other : d ≠ '\n') (escapable : isEscapable d = true)
    {rest : Raw} {words : Words} (reads : Reads commands .double rest words) :
    Reads commands .double ('\\' :: d :: rest) (words.push (.char d true)) := by
  refine reads_double_behind [.char d true] reads (Nat.lt_succ_of_lt (Nat.lt_succ_self _))
    fun _ here holds => ?_
  obtain ⟨line, run⟩ := inside_backslash other here
  rw [if_pos escapable] at run
  exact ⟨_, line, run, holds.addPieces (.text [d] true)⟩

/-- In front of any other character the backslash stands for itself. -/
theorem reads_double_kept {d : Char} (other : d ≠ '\n') (kept : ¬ isEscapable d = true)
    {rest : Raw} {words : Words} (reads : Reads commands .double rest words) :
    Reads commands .double ('\\' :: d :: rest)
      ((words.push (.char d true)).push (.char '\\' true)) := by
  refine reads_double_behind [.char '\\' true, .char d true] reads
    (Nat.lt_succ_of_lt (Nat.lt_succ_self _)) fun _ here holds => ?_
  obtain ⟨line, run⟩ := inside_backslash other here
  rw [if_neg kept] at run
  exact ⟨_, line, run, holds.addPieces (.text ['\\', d] true)⟩

theorem reads_double_char {c : Char} (ordinary : c ≠ '"' ∧ c ≠ '\\' ∧ c ≠ '$' ∧ c ≠ '\x60')
    {rest : Raw} {words : Words} (reads : Reads commands .double rest words) :
    Reads commands .double (c :: rest) (words.push (.char c true)) := by
  refine reads_double_behind [.char c true] reads (Nat.lt_succ_self _) fun _ here holds => ?_
  obtain ⟨line, run⟩ := inside_char ordinary here
  exact ⟨_, line, run, holds.addChar c true⟩

/-! ### Whole lines -/

/-- The reader reads what is cut. -/
theorem reads_of_splitFrom {quotes : Quotes} {started : Bool} {line : Raw} {words : Words}
    (split : splitFrom quotes started line = some words)
    (begun : started = true ∨ quotes ≠ .none) : Reads commands quotes line words := by
  -- Along the cut. The reader goes through single quotes in one step and through double quotes in a
  -- run of its own, so what is known of an open quote is split at the place where it closes.
  fun_induction splitFrom quotes started line generalizing words with
  | case2 | case3 | case7 | case10 | case13 | case17 | case21 => cases split
  | case1 =>
    obtain rfl := Option.some.inj split
    exact readsWord_end
  | case4 started c rest gap =>
    obtain ⟨found, read, rfl⟩ := Option.map_eq_some_iff.mp split
    exact readsWord_gap gap read
  | case5 started rest _ ih =>
    obtain ⟨found, read, rfl⟩ := Option.map_eq_some_iff.mp split
    exact readsWord_single (ih read (.inr (by decide)))
  | case6 started rest _ _ ih =>
    obtain ⟨found, read, rfl⟩ := Option.map_eq_some_iff.mp split
    exact readsWord_double (ih read (.inr (by decide)))
  | case8 started rest _ _ _ ih => exact readsWord_joined (ih split begun)
  | case9 started d rest other _ _ _ ih =>
    obtain ⟨found, read, rfl⟩ := Option.map_eq_some_iff.mp split
    exact readsWord_backslash other (ih read (.inl rfl))
  | case11 started c rest _ _ _ _ comment =>
    -- A comment begins where no word has.
    cases (begun.resolve_right (absurd rfl)).symm.trans comment.2
  | case12 started c rest _ _ _ _ _ bare ih =>
    obtain ⟨found, read, rfl⟩ := Option.map_eq_some_iff.mp split
    exact readsWord_bare bare (ih read (.inl rfl))
  | case14 started rest ih => exact reads_single_close (ih split (.inl rfl))
  | case15 started c rest other ih =>
    obtain ⟨found, read, rfl⟩ := Option.map_eq_some_iff.mp split
    exact reads_single_char other (ih read (.inr (by decide)))
  | case16 started rest ih => exact reads_double_close (ih split (.inl rfl))
  | case18 started rest _ ih => exact reads_double_joined (ih split (.inr (by decide)))
  | case19 started d rest other escapable _ ih =>
    obtain ⟨found, read, rfl⟩ := Option.map_eq_some_iff.mp split
    exact reads_double_escaped other escapable (ih read (.inr (by decide)))
  | case20 started d rest other kept _ ih =>
    obtain ⟨found, read, rfl⟩ := Option.map_eq_some_iff.mp split
    exact reads_double_kept other kept (ih read (.inr (by decide)))
  | case22 started c rest double backslash opens ih =>
    obtain ⟨found, read, rfl⟩ := Option.map_eq_some_iff.mp split
    exact reads_double_char ⟨double, backslash, not_or.mp opens⟩ (ih read (.inr (by decide)))

end

end Reader

end EditorBridge.Shell
