import EditorBridge.Proofs.Shell.Words
import Mathlib.Data.List.Forall2

/-!
# The reader of lines

A line that is cut into words is read as a simple command. Its tokens are the words and the end of the
script, since none of its words is reserved, none is an alias, and no operator stands between them. The
first word is held back on the way down the grammar, and the end of the script on the way up again.

## Main statements

`Reader.nextToken_run`: the next token of such a line.

`Reader.simple_run`, `Reader.list_run`: the command that its tokens make.

`Reader.readsLine_of_lineWords?`: the words of a line are what the shell reads.
-/

namespace EditorBridge.Shell.Reader

/-! ### In front of a word -/

/-- Nothing stands here that is passed over in front of a word. -/
structure AtWord (raw : Raw) : Prop where
  unjoined : Unjoined raw
  seen : ∀ c ∈ raw.head?, isGap c = false ∧ c ≠ '#'

theorem AtWord.nil : AtWord [] := ⟨rfl, nofun⟩

theorem splitFrom_dropBlanks {raw : Raw} {words : Words}
    (split : splitFrom .none false raw = some words) :
    AtWord (dropBlanks raw).2 ∧
      ∃ found, splitFrom .none false (dropBlanks raw).2 = some found ∧ found.all = words.all := by
  have gap {c : Char} {rest : Raw} {words : Words} (blank : isGap c = true)
      (split : splitFrom .none false (c :: rest) = some words) :
      ∃ found, splitFrom .none false rest = some found ∧ found.all = words.all := by
    rw [splitFrom_gap blank] at split
    obtain ⟨found, read, rfl⟩ := Option.map_eq_some_iff.mp split
    exact ⟨found, read, rfl⟩
  fun_induction dropBlanks raw generalizing words with
  | case1 rest ih | case2 rest ih =>
    obtain ⟨found, read, same⟩ := gap rfl split
    rw [← same]
    exact ih read
  | case3 rest count back dropped ih =>
    rw [splitFrom.eq_def] at split
    have here := ih split
    rw [dropped] at here
    exact here
  | case4 rest =>
    rw [splitFrom.eq_def] at split
    have comment : (if rest.contains '\n' then none else some (⟨[], []⟩ : Words)) = some words := split
    obtain ⟨single, same⟩ := Option.ite_none_left_eq_some.mp comment
    obtain rfl := Option.some.inj same
    have nothing : (rest ++ []).dropWhile (· != '\n') = [] :=
      List.dropWhile_append_of_pos fun c member => bne_iff_ne.mpr fun same =>
        single (List.contains_iff_mem.mpr (same ▸ member))
    rw [List.append_nil] at nothing
    rw [nothing]
    exact ⟨.nil, _, rfl, rfl⟩
  | case5 raw space tab join comment =>
    refine ⟨⟨?_, ?_⟩, words, split, rfl⟩
    · unfold Unjoined dropJoins
      split
      next rest same => exact (join rest same).elim
      next => rfl
    · cases raw with
      | nil => exact AtWord.nil.seen
      | cons c rest =>
        rintro _ ⟨⟩
        refine ⟨?_, fun same => comment rest (same ▸ rfl)⟩
        rw [isGap, Bool.or_eq_false_iff, beq_eq_false_iff_ne, beq_eq_false_iff_ne]
        exact ⟨fun same => space rest (same ▸ rfl), fun same => tab rest (same ▸ rfl)⟩

/-- At a word, the word has begun. -/
theorem AtWord.begins {c : Char} {rest : Raw} (here : AtWord (c :: rest)) {words : Words}
    (split : splitFrom .none false (c :: rest) = some words) :
    splitFrom .none true (c :: rest) = some words ∧ words.current ≠ [] ∧ isBoundary c = false := by
  obtain ⟨gap, comment⟩ := here.seen c rfl
  rw [splitFrom.eq_def] at split ⊢
  dsimp only at split ⊢
  rw [if_neg (Bool.eq_false_iff.mp gap)] at split ⊢
  by_cases single : c = '\''
  · subst single
    obtain ⟨found, -, rfl⟩ := Option.map_eq_some_iff.mp split
    exact ⟨split, List.cons_ne_nil _ _, rfl⟩
  by_cases double : c = '"'
  · subst double
    obtain ⟨found, -, rfl⟩ := Option.map_eq_some_iff.mp split
    exact ⟨split, List.cons_ne_nil _ _, rfl⟩
  rw [if_neg single, if_neg double] at split ⊢
  by_cases backslash : c = '\\'
  · subst backslash
    rw [if_pos rfl] at split ⊢
    cases rest with
    | nil => cases split
    | cons d rest =>
      have other : d ≠ '\n' := by
        rintro rfl
        exact Nat.succ_ne_zero _ (congrArg Prod.fst here.unjoined)
      dsimp only at split ⊢
      rw [if_neg other] at split ⊢
      obtain ⟨found, -, rfl⟩ := Option.map_eq_some_iff.mp split
      exact ⟨split, List.cons_ne_nil _ _, rfl⟩
  rw [if_neg backslash, if_neg fun starts => comment starts.1] at split ⊢
  obtain ⟨bare, pushed⟩ := Option.ite_none_right_eq_some.mp split
  obtain ⟨found, -, rfl⟩ := Option.map_eq_some_iff.mp pushed
  simp only [isBare, Bool.not_eq_true', Bool.or_eq_false_iff] at bare
  exact ⟨split, List.cons_ne_nil _ _, bare.1⟩

/-! ### Tokens -/

variable (commands : Commands) {scan : Scan} {words : Words}

/-- Behind a word there is a gap, or nothing. -/
theorem unjoined_gap {rest : Raw} (gap : ∀ c ∈ rest.head?, isGap c = true) : Unjoined rest := by
  cases rest with
  | nil => rfl
  | cons c rest =>
    refine unjoined_cons ?_ rest
    rintro rfl
    exact Bool.false_ne_true (gap '\\' rfl)

theorem word_run (split : splitFrom .none true scan.rest = some words) :
    ∃ read behind line, (word commands).run scan = .ok (read, moved scan behind line) ∧
      Spells read words.current ∧ (∀ c ∈ behind.head?, isGap c = true) ∧
      splitFrom .none false behind = some ⟨[], words.later⟩ :=
  reads_of_splitFrom split (.inl rfl) _ scan [] [] (Nat.lt_succ_self _) rfl .nil

theorem tokenHere_finish (here : scan.rest = []) :
    (tokenHere commands false).run scan = .ok (.finish, scan) := by
  unfold tokenHere
  dsimp only
  rw [run_bind (peek_unjoined (here ▸ rfl)), here]
  rfl

theorem wordToken_run (split : splitFrom .none true scan.rest = some words) :
    ∃ read behind line,
      (wordToken commands false).run scan = .ok (.word read, moved scan behind line) ∧
        Spells read words.current ∧ splitFrom .none false behind = some ⟨[], words.later⟩ := by
  obtain ⟨read, behind, line, run, spells, gap, left⟩ := word_run commands split
  refine ⟨read, behind, line, ?_, spells, left⟩
  unfold wordToken
  rw [if_neg Bool.false_ne_true, run_bind run]
  have plain : Unjoined (moved scan behind line).rest := unjoined_gap gap
  have redirects {c : Char} (other : isGap c = false) : (behind.head? == some c) = false :=
    beq_eq_false_iff_ne.mpr fun same => Bool.false_ne_true (other.symm.trans (gap c same))
  rw [run_bind (peek_unjoined plain)]
  -- A number would be the descriptor of a redirection, if one stood behind it.
  change StateT.run (if behind.head? == some '<' || behind.head? == some '>' then _ else _) _ = _
  rw [redirects rfl, redirects rfl]
  rfl

theorem tokenHere_word (here : AtWord scan.rest) (split : splitFrom .none false scan.rest = some words)
    {first : List Item} {later : List (List Item)} (all : words.all = first :: later) :
    ∃ read behind line,
      (tokenHere commands false).run scan = .ok (.word read, moved scan behind line) ∧
        Spells read first ∧ splitFrom .none false behind = some ⟨[], later⟩ := by
  cases rest : scan.rest with
  | nil =>
    rw [rest] at split
    obtain rfl := Option.some.inj split
    cases all
  | cons c behind =>
    rw [rest] at here split
    obtain ⟨begun, present, unbound⟩ := here.begins split
    rw [← rest] at begun
    obtain ⟨read, left, line, run, spells, behindWord⟩ :=
      wordToken_run commands begun
    have parts : words.current = first ∧ words.later = later := by
      rw [Words.all, if_neg (mt List.isEmpty_iff.mp present)] at all
      exact List.cons.inj all
    obtain ⟨rfl, rfl⟩ := parts
    refine ⟨read, left, line, ?_, spells, behindWord⟩
    simp only [isBoundary, Bool.or_eq_false_iff, beq_eq_false_iff_ne] at unbound
    unfold tokenHere
    dsimp only
    rw [run_bind (peek_unjoined (rest ▸ here.unjoined)), rest]
    dsimp only [List.head?_cons]
    split
    case h_8 => exact run
    all_goals simp_all

theorem leaveAliases_run (inactive : scan.active = []) : leaveAliases.run scan = .ok (false, scan) := by
  cases scan
  cases inactive
  rfl

/-- No alias is known, and no text behind a line is waited for. -/
structure Clear (scan : Scan) : Prop where
  aliases : scan.aliases = []
  active : scan.active = []
  awaited : scan.awaited = []
  found : scan.found = []

/-- A token was read, and the scan is behind it. -/
def passed (scan : Scan) (behind : Raw) (line : Nat) (token : Token) : Scan :=
  { moved scan behind line with last := token }

theorem Clear.passed (clear : Clear scan) (behind : Raw) (line : Nat) (token : Token) :
    Clear (passed scan behind line token) :=
  ⟨clear.aliases, clear.active, clear.awaited, clear.found⟩

/-- What the next words of a line are read as: a token, behind which the later words are left. -/
def IsNext (token : Token) (behind : Raw) (left : List (List Item)) : List (List Item) → Prop
  | [] => token = .finish ∧ behind = [] ∧ left = []
  | first :: later => ∃ read, token = .word read ∧ Spells read first ∧ left = later

theorem nextToken_run (unheld : scan.held = false) (clear : Clear scan)
    (split : splitFrom .none false scan.rest = some words) :
    ∃ token behind line left, (nextToken commands false).run scan =
        .ok ((token, false), passed scan behind line token) ∧
      splitFrom .none false behind = some ⟨[], left⟩ ∧ IsNext token behind left words.all := by
  obtain ⟨here, found, read, same⟩ := splitFrom_dropBlanks split
  rw [← same]
  have skipped : skipBlanks.run scan =
      .ok ((), moved scan (dropBlanks scan.rest).2 (scan.line + (dropBlanks scan.rest).1)) := rfl
  generalize (dropBlanks scan.rest).2 = rest at here read skipped
  generalize scan.line + (dropBlanks scan.rest).1 = number at skipped
  have inactive : (moved scan rest number).active = [] := clear.active
  have next {token : Token} {behind : Raw} {line : Nat}
      (run : (tokenHere commands false).run (moved scan rest number) =
        .ok (token, moved scan behind line)) :
      (nextToken commands false).run scan = .ok ((token, false), passed scan behind line token) := by
    unfold nextToken
    rw [run_bind (get_run scan), unheld, if_neg Bool.false_ne_true, run_bind skipped,
      run_bind (leaveAliases_run inactive), run_bind run]
    rfl
  cases all : found.all with
  | nil =>
    have ended : rest = [] := by
      cases rest with
      | nil => rfl
      | cons c rest =>
        obtain ⟨-, present, -⟩ := here.begins read
        rw [Words.all, if_neg (mt List.isEmpty_iff.mp present)] at all
        cases all
    subst ended
    obtain rfl := Option.some.inj read
    exact ⟨.finish, [], number, [], next (tokenHere_finish commands rfl), rfl, rfl, rfl, rfl⟩
  | cons first later =>
    obtain ⟨word, behind, line, run, spells, left⟩ :=
      @tokenHere_word commands (moved scan rest number) found here read first later all
    exact ⟨.word word, behind, line, later, next run, left, word, rfl, spells, rfl⟩

/-- The last token counts as not yet read. -/
def held (scan : Scan) : Scan := { scan with held := true }

theorem hold_run (scan : Scan) : hold.run scan = .ok ((), held scan) := rfl

theorem nextToken_held (delimiter : Bool) (unheld : scan.held = false) :
    (nextToken commands delimiter).run (held scan) = .ok ((scan.last, false), scan) := by
  cases scan
  cases unheld
  rfl

/-- The token stands for itself where it is expected. -/
def Stands (expected : Expected) (token : Token) : Prop :=
  expected.delimiter = false ∧ (token = .finish ∨ ∃ read, token = .word read ∧
    (expected.reserved = true → ∀ raw ∈ read.plain?, Reserved.ofText? raw = none))

theorem token_run {expected : Expected} {found : Token} {after : Scan}
    (read : (nextToken commands false).run scan = .ok ((found, false), after))
    (unnamed : after.aliases = []) (stands : Stands expected found) :
    (token commands expected).run scan = .ok (found, after) := by
  obtain ⟨delimiter, kinds⟩ := stands
  have fuel : (remaining).run scan = .ok (scan.rest.length, scan) := rfl
  rw [← delimiter] at read
  unfold token
  rw [run_bind fuel]
  change (tokenAs commands expected (scan.rest.length + 999 + 1)).run scan = _
  rw [tokenAs, run_bind read, run_bind (get_run after)]
  rcases kinds with rfl | ⟨word, rfl, unreserved⟩
  · rfl
  · dsimp only
    cases raw_eq : word.plain? with
    | none => rfl
    | some raw =>
      have ordinary : (if expected.reserved then Reserved.ofText? raw else none) = none := by
        split
        next wanted => exact unreserved wanted raw raw_eq
        next => rfl
      have unnamed : aliasText? after raw = none := by
        rw [aliasText?, unnamed, List.lookup_nil, ite_self]
      dsimp only
      rw [ordinary, unnamed, ite_self]
      rfl

/-! ### Commands -/

theorem next_run {fuel : Nat} (expected : Expected) {found : Token} {after : Scan}
    (read : (nextToken (inner fuel) false).run scan = .ok ((found, false), after))
    (unnamed : after.aliases = []) (stands : Stands expected found) :
    (next (fuel + 1) expected).run scan = .ok (found, after) := by
  rw [next]
  exact token_run (inner fuel) read unnamed stands

theorem simple_run {scan : Scan} {fuel line : Nat} {parts : Parts} {left : List (List Item)}
    (unheld : scan.held = false) (clear : Clear scan)
    (split : splitFrom .none false scan.rest = some ⟨[], left⟩) (enough : left.length + 2 ≤ fuel)
    (begun : parts.words ≠ []) :
    ∃ found number, (simple fuel line parts).run scan =
        .ok (.simple line parts.assignments (parts.words ++ found) parts.redirections,
          held (passed scan [] number .finish)) ∧
      List.Forall₂ Spells found left := by
  -- On the words that are left. Each is a token of its own, and the end of the script, which is the
  -- last, is held for the rest of the grammar.
  induction left generalizing scan fuel parts with
  | nil =>
    obtain ⟨fuel, rfl⟩ : ∃ n, fuel = n + 1 + 1 :=
      Nat.exists_eq_add_of_le' (Nat.le_trans (Nat.le_add_left ..) enough)
    obtain ⟨token, behind, number, left, run, -, rfl, rfl, -⟩ :=
      nextToken_run (inner fuel) unheld clear split
    refine ⟨[], number, ?_, .nil⟩
    rw [simple, run_bind (next_run _ run clear.aliases ⟨rfl, .inl rfl⟩), List.append_nil]
    rfl
  | cons first later ih =>
    obtain ⟨fuel, rfl⟩ : ∃ n, fuel = n + 1 + 1 :=
      Nat.exists_eq_add_of_le' (Nat.le_trans (Nat.le_add_left ..) enough)
    obtain ⟨token, behind, number, left, run, behindWord, read, rfl, spells, rfl⟩ :=
      nextToken_run (inner fuel) unheld clear split
    have more : left.length + 2 ≤ fuel + 1 := Nat.le_of_succ_le_succ enough
    obtain ⟨found, last, rest, spelled⟩ := @ih (passed scan behind number (.word read)) (fuel + 1)
      { parts with words := parts.words ++ [read] } unheld (clear.passed behind number _) behindWord
      more (by simp)
    refine ⟨read :: found, last, ?_, .cons spells spelled⟩
    rw [simple, run_bind (next_run { aliases := parts.words.isEmpty } run clear.aliases
      ⟨rfl, .inr ⟨read, rfl, (absurd · Bool.false_ne_true)⟩⟩)]
    dsimp only
    rw [if_neg (mt List.isEmpty_iff.mp begun)]
    refine rest.trans ?_
    rw [List.append_assoc]
    rfl

theorem next_held {fuel : Nat} (expected : Expected) (unheld : scan.held = false)
    (clear : Clear scan) (stands : Stands expected scan.last) :
    (next (fuel + 1) expected).run (held scan) = .ok (scan.last, scan) :=
  next_run expected (nextToken_held (inner fuel) false unheld) clear.aliases stands

/-- With its first word held, a command is read up to the end of the script. -/
def ReadsCommand (reader : Reader Command) (scan : Scan) (word : Word) (left : List (List Item)) :
    Prop :=
  ∃ line found number, reader.run (held scan) =
      .ok (.simple line [] (word :: found) [], held (passed scan [] number .finish)) ∧
    List.Forall₂ Spells found left

section

variable {fuel : Nat} {left : List (List Item)} {first : Word} (unheld : scan.held = false)
  (clear : Clear scan) (last : scan.last = .word first)

include unheld clear last

omit unheld clear in
/-- The word is no reserved word, as the one that is expected does not have to be. -/
theorem stands_word {expected : Expected} (delimiter : expected.delimiter = false)
    (reserved : expected.reserved = false) : Stands expected scan.last :=
  ⟨delimiter, .inr ⟨first, last, fun wanted => nomatch reserved.symm.trans wanted⟩⟩

theorem command_run (unassigned : first.assignment? = none)
    (split : splitFrom .none false scan.rest = some ⟨[], left⟩) :
    ReadsCommand (command (fuel + left.length + 4) {}) scan first left := by
  obtain ⟨found, number, run, spelled⟩ := @simple_run scan (fuel + left.length + 2) scan.line
    { words := [first] } left unheld clear split (by omega) (List.cons_ne_nil _ _)
  refine ⟨scan.line, found, number, ?_, spelled⟩
  rw [command, run_bind (get_run _),
    run_bind (next_held {} unheld clear (stands_word last rfl rfl)), last]
  dsimp only
  rw [run_bind (hold_run _), run_bind (get_run _), simple,
    run_bind (next_held _ unheld clear (stands_word last rfl rfl)), last]
  dsimp only
  rw [List.isEmpty_nil, if_pos rfl, unassigned]
  exact run

end

/-- The end of the script is held behind a command. -/
theorem next_finish {fuel number : Nat} {expected : Expected} (clear : Clear scan)
    (unheld : scan.held = false) (delimiter : expected.delimiter = false) :
    (next (fuel + 1) expected).run (held (passed scan [] number .finish)) =
      .ok (.finish, passed scan [] number .finish) :=
  next_held expected unheld (clear.passed [] number .finish) ⟨delimiter, .inl rfl⟩

section

variable {fuel : Nat} {left : List (List Item)} {first : Word} (clear : Clear scan)
  (unheld : scan.held = false)

include clear unheld

theorem stages_run (reads : ReadsCommand (command (fuel + 1) {}) scan first left) :
    ReadsCommand (stages (fuel + 2) {} []) scan first left := by
  obtain ⟨line, found, number, run, spelled⟩ := reads
  refine ⟨line, found, number, ?_, spelled⟩
  rw [stages, run_bind run, run_bind (next_finish clear unheld rfl)]
  rfl

theorem pipeline_run (last : scan.last = .word first)
    (reads : ReadsCommand (stages (fuel + 1) {} []) scan first left) :
    ReadsCommand (pipeline (fuel + 2) {}) scan first left := by
  obtain ⟨line, found, number, run, spelled⟩ := reads
  refine ⟨line, found, number, ?_, spelled⟩
  rw [pipeline, run_bind (next_held {} unheld clear (stands_word last rfl rfl)), last]
  exact (run_bind (hold_run _)).trans run

theorem conjunction_run (reads : ReadsCommand (pipeline (fuel + 1) {}) scan first left) :
    ReadsCommand (conjunction (fuel + 2) none) scan first left := by
  obtain ⟨line, found, number, run, spelled⟩ := reads
  refine ⟨line, found, number, ?_, spelled⟩
  rw [conjunction, run_bind run, run_bind (next_finish clear unheld rfl)]
  rfl

end

/-! ### Lines -/

theorem plain?_unreserved {word : Word} {items : List Item} (spells : Spells word items)
    (unreserved : isReserved items = false) : ∀ raw ∈ word.plain?, Reserved.ofText? raw = none := by
  intro raw plain
  obtain ⟨-, rfl⟩ := spells
  unfold Word.plain? at plain
  split at plain
  next =>
    obtain rfl := Option.some.inj plain
    rw [List.flatMap_singleton] at unreserved
    exact Option.isNone_iff_eq_none.mp
      (Option.isSome_eq_false_iff.mp ((isReserved_unquoted _).symm.trans unreserved))
  next => cases plain

theorem assignment?_eq_none {word : Word} {items : List Item} (spells : Spells word items)
    (unassigned : assigns items = false) : word.assignment? = none := by
  obtain ⟨-, rfl⟩ := spells
  unfold Word.assignment?
  split
  next raw rest =>
    dsimp only
    split
    next value same =>
      split
      next name =>
        have front : raw.takeWhile isNameChar = raw.take (raw.takeWhile isNameChar).length :=
          List.prefix_iff_eq_take.mp <| List.takeWhile_prefix isNameChar
        have parts : raw = raw.takeWhile isNameChar ++ '=' :: value := by
          rw [← same]
          calc
            raw = raw.take (raw.takeWhile isNameChar).length ++
                raw.drop (raw.takeWhile isNameChar).length := (List.take_append_drop ..).symm
            _ = _ := by rw [← front]
        have assigning := assigns_of_isName name
          (Item.ofRaw value false ++ rest.flatMap Piece.items)
        have whole : (Piece.text raw false :: rest).flatMap Piece.items =
            unquoted (raw.takeWhile isNameChar) ++ .char '=' false ::
              (Item.ofRaw value false ++ rest.flatMap Piece.items) := by
          rw [List.flatMap_cons, Piece.items, congrArg (Item.ofRaw · false) parts]
          simp [Item.ofRaw, unquoted]
        rw [whole, assigning] at unassigned
        cases unassigned
      next => rfl
    next => rfl
  next => rfl

theorem documents_run (clear : Clear scan) : (documents commands).run scan = .ok ((), scan) := by
  obtain ⟨-, -, idle, -⟩ := clear
  cases scan
  cases idle
  rfl

theorem list_run {first : List Item} {left : List (List Item)} {fuel : Nat} (unheld : scan.held = false)
    (clear : Clear scan) (split : splitFrom .none false scan.rest = some words)
    (all : words.all = first :: left) (unreserved : isReserved first = false)
    (unassigned : assigns first = false) (enough : left.length + 8 ≤ fuel) :
    ∃ line found number, (list fuel true false none).run scan =
        .ok (some (.simple line [] found []), held (passed scan [] number .finish)) ∧
      List.Forall₂ Spells found (first :: left) := by
  obtain ⟨fuel, rfl⟩ : ∃ n, fuel = n + left.length + 8 := ⟨fuel - (left.length + 8), by omega⟩
  obtain ⟨token, behind, line, left, run, split, next⟩ :=
    nextToken_run (inner (fuel + left.length + 6)) unheld clear split
  rw [all] at next
  obtain ⟨read, rfl, spells, rfl⟩ := next
  -- The first word is only looked at here. It is held, and so it is the first that the command reads.
  have behindWord := clear.passed behind line (.word read)
  have command : ReadsCommand (command (fuel + left.length + 4) {})
      (passed scan behind line (.word read)) read left :=
    command_run unheld behindWord rfl (assignment?_eq_none spells unassigned) split
  obtain ⟨number, found, last, whole, spelled⟩ := conjunction_run behindWord unheld
    (pipeline_run behindWord unheld rfl (stages_run behindWord unheld command))
  refine ⟨number, read :: found, last, ?_, .cons spells spelled⟩
  rw [list, run_bind (next_run _ run clear.aliases ⟨rfl, .inr ⟨read, rfl, fun _ =>
    plain?_unreserved spells unreserved⟩⟩)]
  dsimp only
  rw [run_bind (hold_run _), Bool.false_and, Bool.false_and, if_neg Bool.false_ne_true, run_bind whole,
    run_bind (next_finish behindWord unheld rfl)]
  dsimp only
  rw [run_bind (documents_run _ (behindWord.passed [] last .finish))]
  rfl

/-- The whole line is read as a simple command: no assignments, no redirections, and words that have no
expansions and were written like this. -/
def ReadsLine (line : Raw) (words : List Raw) : Prop :=
  ∃ number found after,
    readLine (Scan.start line) [] = .ok (.command (.simple number [] found []), after) ∧
      after.rest = [] ∧ (∀ word ∈ found, word.all Piece.isWritten = true) ∧
      found.map Word.literal = words

/-- A line is read in one way. -/
theorem ReadsLine.unique {line : Raw} {words others : List Raw} (first : ReadsLine line words)
    (second : ReadsLine line others) : words = others := by
  obtain ⟨_, found, _, read, -, -, rfl⟩ := first
  obtain ⟨_, other, _, same, -, -, rfl⟩ := second
  cases read.symm.trans same
  rfl

theorem written_of_spells {found : List Word} {items : List (List Item)}
    (spelled : List.Forall₂ Spells found items) :
    (∀ word ∈ found, word.all Piece.isWritten = true) ∧
      found.map Word.literal = items.map Item.text := by
  induction spelled with
  | nil => exact ⟨nofun, rfl⟩
  | cons spells _ ih =>
    exact ⟨List.forall_mem_cons.mpr ⟨spells.written, ih.1⟩,
      congrArg₂ List.cons spells.literal_eq ih.2⟩

theorem readsLine_of_split {line : Raw} (split : splitFrom .none false line = some words)
    {first : List Item} {left : List (List Item)} (all : words.all = first :: left)
    (unreserved : isReserved first = false) (unassigned : assigns first = false) :
    ReadsLine line ((first :: left).map Item.text) := by
  -- Each word takes room in the line, so the fuel of a line is enough for its words.
  have short : left.length ≤ line.length := by
    have room : words.weight ≤ line.length := splitFrom_weight split
    have fits := words.length_later_le
    have some : left.length ≤ words.later.length := by
      rw [Words.all] at all
      split at all
      next => exact all ▸ Nat.le_succ _
      next => exact (List.cons.inj all).2 ▸ Nat.le_refl _
    omega
  obtain ⟨number, found, last, run, spelled⟩ := @list_run (Scan.start line) words first left
    (32 * (line.length + 4096)) rfl ⟨rfl, rfl, rfl, rfl⟩ split all unreserved unassigned (by omega)
  have once : lineOnce.run (Scan.start line) = .ok (.command (.simple number [] found []),
      held (passed (Scan.start line) [] last .finish)) := by
    have length : (remaining).run (Scan.start line) = .ok (line.length, Scan.start line) := rfl
    unfold lineOnce
    rw [run_bind length]
    exact run_bind run
  obtain ⟨written, texts⟩ := written_of_spells spelled
  refine ⟨number, found, held (passed (Scan.start line) [] last .finish), ?_, rfl, written, texts⟩
  unfold readLine
  exact congrArg (· >>= _) once

/-- The words of a line are what the shell reads. -/
theorem readsLine_of_lineWords? {line : Raw} {words : List Raw} (cut : lineWords? line = some words)
    (present : words ≠ []) : ReadsLine line words := by
  unfold lineWords? at cut
  split at cut
  next => cases cut
  split at cut
  next => cases cut
  next items all =>
    obtain ⟨safe, same⟩ := Option.ite_none_right_eq_some.mp cut
    obtain rfl := Option.some.inj same
    obtain ⟨found, split, rfl⟩ := Option.map_eq_some_iff.mp all
    cases parts : found.all with
    | nil => exact absurd (congrArg (List.map Item.text) parts) present
    | cons first left =>
      rw [parts] at safe
      simp only [Bool.and_eq_true, List.head?_cons, Option.any_some, Bool.not_eq_true',
        Bool.or_eq_false_iff] at safe
      exact readsLine_of_split split parts safe.2.1 safe.2.2

end EditorBridge.Shell.Reader
