import EditorBridge.Path
import EditorBridge.Proofs.Text.Cutting

/-!
# The directory of a path

The directory is found on the text of a path, by dropping idle segments and the last one that says
something. On components this is dropping the last.

## Main statements

`Path.components_of_directory?`: the directory has all components but the last.

`Path.directory?_eq_none_iff`: relative paths and the root have no directory, and no others.
-/

namespace EditorBridge.Path

/-- The path starts at the root and goes on from there. -/
def IsBelowRoot (path : Path) : Prop := path.isAbsolute = true ∧ path.components ≠ [.root]

/-- The path leads to where the last step of the other begins. -/
def IsParent (directory path : Path) : Prop :=
  directory.isAbsolute = true ∧ directory.components = path.components.dropLast

/-! ### Absolute paths -/

theorem isAbsolute_iff (path : Path) :
    path.isAbsolute = true ↔ ∃ rest, path.text.toList = '/' :: rest := by
  rw [isAbsolute, beq_iff_eq]
  cases path.text.toList with
  | nil => simp
  | cons c rest => simp

theorem segments_of_absolute {path : Path} {rest : List Char}
    (starts : path.text.toList = '/' :: rest) :
    path.segments = [] :: Text.splitAt (· == '/') rest := by
  rw [segments, starts, Text.splitAt, if_pos (beq_self_eq_true '/')]

theorem components_of_absolute {path : Path} (absolute : path.isAbsolute = true) :
    path.components = .root :: (path.segments.drop 1).filterMap Component.ofSegment? := by
  obtain ⟨rest, starts⟩ := (isAbsolute_iff path).mp absolute
  simp only [components, segments_of_absolute starts, if_pos absolute, List.drop_one,
    List.tail_cons]

/-- The path of pieces that hold no slash. -/
theorem absolute_joinWith {pieces : List (List Char)}
    (whole : ∀ piece ∈ pieces, ∀ c ∈ piece, (c == '/') = false) :
    let path : Path := ⟨String.ofList ('/' :: Text.joinWith ['/'] pieces)⟩
    path.isAbsolute = true ∧ path.components = .root :: pieces.filterMap Component.ofSegment? := by
  intro path
  have starts : path.text.toList = '/' :: Text.joinWith ['/'] pieces := String.toList_ofList
  have absolute : path.isAbsolute = true := (isAbsolute_iff path).mpr ⟨_, starts⟩
  refine ⟨absolute, ?_⟩
  rw [components_of_absolute absolute, segments_of_absolute starts]
  refine congrArg (Component.root :: ·) ?_
  -- Without any piece the cut is one empty segment, which says nothing either.
  cases pieces with
  | nil => rfl
  | cons piece pieces =>
    have cut := Text.splitAt_joinWith (· == '/') (beq_self_eq_true '/')
      (List.cons_ne_nil piece pieces) whole
    rw [cut, List.drop_one, List.tail_cons]

/-! ### Idle segments -/

theorem ofSegment?_eq_none_iff (segment : List Char) :
    Component.ofSegment? segment = none ↔ isIdle segment = true := by
  unfold Component.ofSegment?
  split
  next idle => simp [idle]
  next busy => split <;> simp [busy]

/-- The segments at the end that are dropped say nothing. -/
theorem filterMap_dropIdleEnd (segments : List (List Char)) :
    (dropIdleEnd segments).filterMap Component.ofSegment? =
      segments.filterMap Component.ofSegment? := by
  change (segments.rdropWhile isIdle).filterMap Component.ofSegment? = _
  induction segments using List.reverseRecOn with
  | nil => rfl
  | append_singleton segments last ih =>
    by_cases idle : isIdle last = true
    · rw [List.rdropWhile_concat_pos _ _ _ idle, ih, List.filterMap_append]
      simp [(ofSegment?_eq_none_iff last).mpr idle]
    · rw [List.rdropWhile_concat_neg _ _ _ idle]

/-- What is left after dropping the idle segments at the end, if anything, ends in one that says
something. -/
theorem filterMap_dropLast_dropIdleEnd {segments : List (List Char)}
    (some : dropIdleEnd segments ≠ []) :
    (dropIdleEnd segments).dropLast.filterMap Component.ofSegment? =
      (segments.filterMap Component.ofSegment?).dropLast := by
  have busy : ¬ isIdle ((dropIdleEnd segments).getLast some) = true :=
    List.rdropWhile_last_not isIdle segments some
  have split := List.dropLast_append_getLast some
  rw [← filterMap_dropIdleEnd segments]
  generalize (dropIdleEnd segments).getLast some = last at busy split
  rw [← split, List.dropLast_concat, List.filterMap_append]
  cases said : Component.ofSegment? last with
  | none => exact absurd ((ofSegment?_eq_none_iff last).mp said) busy
  | some component => simp [said]

theorem mem_of_mem_dropIdleEnd {segments : List (List Char)} {segment : List Char}
    (member : segment ∈ dropIdleEnd segments) : segment ∈ segments :=
  (List.rdropWhile_prefix isIdle (l := segments)).subset member

/-! ### Directories -/

/-- An absolute path has no directory when all its segments are idle. -/
theorem dropIdleEnd_segments_eq_nil_iff {path : Path} (absolute : path.isAbsolute = true) :
    dropIdleEnd (path.segments.drop 1) = [] ↔ path.components = [.root] := by
  rw [components_of_absolute absolute]
  change (path.segments.drop 1).rdropWhile isIdle = [] ↔ _
  simp [List.filterMap_eq_nil_iff, ofSegment?_eq_none_iff]

theorem directory?_eq_none_iff (path : Path) :
    path.directory? = none ↔ ¬ path.IsBelowRoot := by
  unfold directory? IsBelowRoot
  by_cases absolute : path.isAbsolute = true
  · have idle := dropIdleEnd_segments_eq_nil_iff absolute
    rw [if_pos absolute]
    split
    next none => simp [idle.mp none]
    next some => simp [absolute, mt idle.mpr some]
  · rw [if_neg absolute]
    simp [absolute]

/-- The directory of a path is where its last step begins. -/
theorem components_of_directory? {path directory : Path}
    (found : path.directory? = some directory) : directory.IsParent path := by
  unfold directory? at found
  split at found
  next absolute =>
    split at found
    next => cases found
    next some =>
      obtain rfl := Option.some.inj found
      -- The pieces of the new text are segments of the old one, so they hold no slash.
      have whole : ∀ piece ∈ dropIdleEnd (dropIdleEnd (path.segments.drop 1)).dropLast,
          ∀ c ∈ piece, (c == '/') = false := by
        intro piece member c inside
        have segment := List.mem_of_mem_drop
          (mem_of_mem_dropIdleEnd (List.dropLast_subset _ (mem_of_mem_dropIdleEnd member)))
        exact Text.separator_eq_false_of_mem_splitAt (· == '/') segment inside
      obtain ⟨absoluteToo, components⟩ := absolute_joinWith whole
      refine ⟨absoluteToo, ?_⟩
      have steps := mt (dropIdleEnd_segments_eq_nil_iff absolute).mpr some
      rw [components_of_absolute absolute] at steps ⊢
      rw [components, filterMap_dropIdleEnd, filterMap_dropLast_dropIdleEnd some]
      exact (List.dropLast_cons_of_ne_nil fun none => steps (congrArg _ none)).symm
  next => cases found

end EditorBridge.Path
