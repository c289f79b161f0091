import EditorBridge.Overview.Fence
import EditorBridge.Proofs.Text.Cutting
import Mathlib.Data.List.TakeWhile
import Mathlib.Order.MinMax

/-!
# Fenced blocks cannot be broken out of

The fence is longer than every run of fence characters in the text, so no line of the text holds the
fence and only the last line of the block can close it. What a reader of fenced blocks finds between the
fences is therefore the text, up to a line feed at its end, whatever the text is.

## Main definitions

`LongestRun`: the length of the longest run of fence characters, said without a way to compute it.

`Encloses`: a content is the text between two fences that no line of the text holds.

`ClosingRule`: when a reader takes a line for the end of a block. All that is asked of it is that a line
without the fence closes nothing and that the bare fence does.

## Main statements

`longestRun_spec`: the cut into runs finds the longest one.

`ClosingRule.read_render`: every reader ends the block at its last line.

`render_encloses`: the block is unbreakable, its text comes back, and only the last line feed is lost.
-/

namespace EditorBridge.Fence

/-! ### The longest run -/

/-- No run of fence characters in the text is longer, and one is that long. -/
def LongestRun (text : List Char) (longest : Nat) : Prop :=
  ∀ n, List.replicate n mark <:+: text ↔ n ≤ longest

theorem le_foldl_max_iff (n start : Nat) (lengths : List Nat) :
    n ≤ lengths.foldl max start ↔ n ≤ start ∨ ∃ length ∈ lengths, n ≤ length := by
  induction lengths generalizing start with
  | nil => simp
  | cons length lengths ih =>
    rw [List.foldl_cons, ih, le_max_iff, or_assoc]
    simp

/-- A text of fence characters only starts with every shorter run of these. -/
theorem run_starts {text : List Char} {n : Nat} (marks : ∀ c ∈ text, c = mark)
    (short : n ≤ text.length) : List.replicate n mark <+: text := by
  rw [List.eq_replicate_of_mem marks, List.prefix_replicate_iff]
  simpa using short

theorem longestRun_spec (text : List Char) : LongestRun text (longestRun text) := by
  intro n
  rw [longestRun, le_foldl_max_iff]
  constructor
  · -- A run holds no other character, so one of the pieces between these holds it.
    intro run
    have whole : ∀ c ∈ List.replicate n mark, (c != mark) = false := by
      intro c member
      simp [List.eq_of_mem_replicate member]
    obtain ⟨piece, member, inside⟩ := Text.exists_mem_splitAt_infix _ run whole
    have short : n ≤ piece.length := by simpa using inside.length_le
    exact .inr ⟨_, List.mem_map_of_mem member, short⟩
  · rintro (none | ⟨_, measured, short⟩)
    · obtain rfl : n = 0 := by omega
      exact List.nil_infix
    · obtain ⟨piece, member, rfl⟩ := List.mem_map.mp measured
      have marks : ∀ c ∈ piece, c = mark := by
        intro c inside
        simpa using Text.separator_eq_false_of_mem_splitAt _ member inside
      have run : List.replicate n mark <:+: piece := (run_starts marks short).isInfix
      exact run.trans (Text.infix_of_mem_splitAt _ member)

theorem three_le_width (text : List Char) : 3 ≤ width text := le_max_left ..

/-- The text does not hold its own fence. -/
theorem not_around_infix (text : List Char) : ¬ around text <:+: text := by
  intro run
  have short := (longestRun_spec text _).mp run
  unfold width at short
  omega

/-- The fence of a text depends on the text with its last line closed. -/
theorem width_closeLine (text : List Char) : width (closeLine text) = width text := by
  unfold closeLine
  split
  next => rfl
  next =>
    have apart : ('\n' != mark) = true := by decide
    have cut : Text.splitAt (· != mark) (text ++ ['\n']) = Text.splitAt (· != mark) text ++ [[]] :=
      Text.splitAt_append_separator _ apart
    simp [width, longestRun, cut]

/-! ### The lines of a block -/

/-- Without the line feed at its end, the closed text is a part of the text. -/
theorem closeLine_eq (text : List Char) :
    ∃ front, closeLine text = front ++ ['\n'] ∧ front <+: text := by
  unfold closeLine
  split
  next closed =>
    obtain ⟨front, rfl⟩ := List.getLast?_eq_some_iff.mp closed
    exact ⟨front, rfl, List.prefix_append ..⟩
  next => exact ⟨text, rfl, List.prefix_refl _⟩

theorem lines_append_cons (front back : List Char) :
    Text.lines (front ++ '\n' :: back) = Text.lines front ++ Text.lines back :=
  Text.splitAt_append_separator _ rfl

theorem lines_around (text : List Char) : Text.lines (around text) = [around text] := by
  apply Text.splitAt_of_forall
  intro c member
  rw [List.eq_of_mem_replicate member]
  decide

/-- The content is the text, its last line closed, between two fences of `n` marks: of the lines behind
the opening fence the last one is a fence, and no other holds one. -/
structure Encloses (content text : List Char) (n : Nat) : Prop where
  /-- The fence is longer than every run in the text, and no shorter than three. -/
  width : ∃ longest, LongestRun text longest ∧ n = max 3 (1 + longest)
  /-- Behind the line feed of the last line stands nothing. -/
  lines : ∃ body, Text.lines content =
      List.replicate n mark :: (body ++ [List.replicate n mark, []]) ∧
    (∀ line ∈ body, ¬ List.replicate n mark <:+: line) ∧
    (body.map (· ++ ['\n'])).flatten = closeLine text
  /-- Between the line feed of the first line and the last line stands the text. -/
  text : content = List.replicate n mark ++ ['\n'] ++ closeLine text ++
    List.replicate n mark ++ ['\n']

theorem block_encloses (text : List Char) : Encloses (block text) text (width text) where
  width := ⟨longestRun text, longestRun_spec text, by rw [width, Nat.add_comm]⟩
  lines := by
    obtain ⟨front, closed, part⟩ := closeLine_eq text
    refine ⟨Text.lines front, ?_, fun line member held => ?_, ?_⟩
    · have shape : block text = around text ++ '\n' :: (front ++ '\n' :: (around text ++ '\n' :: [])) := by
        simp [block, closed]
      rw [shape, lines_append_cons, lines_append_cons, lines_append_cons, lines_around]
      rfl
    · -- A line that held the fence would be a part of the text that does.
      have inside : line <:+: text := (Text.infix_of_mem_splitAt _ member).trans part.isInfix
      exact not_around_infix text (held.trans inside)
    · rw [closed]
      exact Text.flatten_splitAt '\n' front
  text := by simp [block, around]

/-! ### Reading a block -/

/-- Which lines a reader takes for the end of a block whose fence has `n` marks. -/
structure ClosingRule where
  closes : Nat → List Char → Bool
  /-- A closing line holds a fence that is no shorter than the opening one. -/
  holds_fence : ∀ {n line}, closes n line = true → List.replicate n mark <:+: line
  /-- The fence closes its block. -/
  closes_fence : ∀ {n}, 3 ≤ n → closes n (List.replicate n mark) = true

namespace ClosingRule

/-- The lines of a block, and those behind the line that closes it. -/
def body? (rule : ClosingRule) (n : Nat) :
    List (List Char) → Option (List (List Char) × List (List Char))
  | [] => none
  | line :: rest =>
    if rule.closes n line then some ([], rest)
    else (rule.body? n rest).map fun (body, behind) => (line :: body, behind)

/-- The text of the block that the document starts with, and the lines behind the block. -/
def read? (rule : ClosingRule) (document : List Char) : Option (List Char × List (List Char)) :=
  match Text.lines document with
  | [] => none
  | opening :: rest =>
    if 3 ≤ opening.length ∧ opening.all (· == mark) then
      (rule.body? opening.length rest).map fun (body, behind) =>
        ((body.map (· ++ ['\n'])).flatten, behind)
    else none

variable (rule : ClosingRule)

theorem body?_append {n : Nat} {body : List (List Char)} (behind : List (List Char))
    (wide : 3 ≤ n) (free : ∀ line ∈ body, ¬ List.replicate n mark <:+: line) :
    rule.body? n (body ++ List.replicate n mark :: behind) = some (body, behind) := by
  induction body with
  | nil => simp [body?, rule.closes_fence wide]
  | cons line body ih =>
    have goesOn : rule.closes n line = false :=
      Bool.eq_false_iff.mpr fun closed => free line List.mem_cons_self (rule.holds_fence closed)
    have later := ih fun other member => free other (List.mem_cons_of_mem _ member)
    simp [body?, goesOn, later]

/-- Every reader ends the block at its last line, and finds the text there. -/
theorem read_render (text : String) :
    rule.read? (render text).toList = some (closeLine text.toList, [[]]) := by
  have wide := three_le_width text.toList
  obtain ⟨body, lines, free, whole⟩ := (block_encloses text.toList).lines
  have found := rule.body?_append [[]] wide free
  rw [render, String.toList_ofList, read?, lines]
  simp [wide, found, whole]

/-- The rule of Markdown: up to three spaces in front of the fence, blanks behind it. -/
def markdown : ClosingRule where
  closes n line :=
    let indented := line.dropWhile (· == ' ')
    decide (line.length ≤ indented.length + 3) &&
      decide (n ≤ (indented.takeWhile (· == mark)).length) &&
      (indented.dropWhile (· == mark)).all fun c => c == ' ' || c == '\t'
  holds_fence := by
    intro n line closed
    simp only [Bool.and_eq_true, decide_eq_true_eq] at closed
    have long := closed.1.2
    have marks : ∀ c ∈ (line.dropWhile (· == ' ')).takeWhile (· == mark), c = mark := by
      intro c member
      simpa using List.mem_takeWhile_imp member
    exact (run_starts marks long).isInfix.trans
      ((List.takeWhile_prefix _).isInfix.trans (List.dropWhile_suffix _).isInfix)
  closes_fence := by
    intro n wide
    obtain ⟨m, rfl⟩ : ∃ m, n = m + 1 := ⟨n - 1, by omega⟩
    have visible : (mark == ' ') = false := by decide
    simp [List.replicate_succ, visible]

end ClosingRule

/-! ### The block as an encoding -/

/-- A text in a block is enclosed by a fence that it does not hold. Every reader of blocks closes the
block at its end and finds the text there, and blocks are equal exactly when their texts are, up to a
line feed at the end of these. -/
theorem render_encloses :
    (∀ text : String, ∃ n, Encloses (render text).toList text.toList n) ∧
    (∀ (rule : ClosingRule) (text : String),
      rule.read? (render text).toList = some (closeLine text.toList, [[]])) ∧
    (∀ first second : String,
      render first = render second ↔ closeLine first.toList = closeLine second.toList) := by
  refine ⟨fun text => ⟨width text.toList, ?_⟩, ClosingRule.read_render,
    fun first second => ⟨fun same => ?_, fun same => ?_⟩⟩
  · rw [render, String.toList_ofList]
    exact block_encloses text.toList
  · -- What is read from equal blocks is equal.
    have read := ClosingRule.markdown.read_render first
    rw [same, ClosingRule.markdown.read_render second] at read
    simpa using read.symm
  · have wide : width first.toList = width second.toList := by
      rw [← width_closeLine, same, width_closeLine]
    simp [render, block, around, same, wide]

/-- A text with a fence of its own: four marks outgrow its three. -/
example : render "bad\n```\nx" = "````\nbad\n```\nx\n````\n" := by decide +kernel

end EditorBridge.Fence
