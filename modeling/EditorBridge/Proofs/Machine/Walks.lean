import EditorBridge.Machine.Basic
import EditorBridge.Proofs.Text.Cutting
import Mathlib.Data.List.Infix

/-!
# Where walks end

A walk that is given no bad names ends at a place that can be reached from the root: directories lead
to it, and its names are names of entries. The path that is made of such a place leads back to it,
past all links, and a file there can be read and written by that path.

## Main definitions

`Tree.Reaches`: directories lead from the root to the place.

`Tree.Stands`: a place that is reached, and a node there from which no link leads on.

## Main statements

`Tree.stands_of_find`: a path that is found leads to such a place.

`Tree.find_ofPlace`: the path of such a place leads to it.

`Tree.writeFile_ofPlace`: writing by that path changes the content of the file there, and nothing else.
-/

namespace EditorBridge

/-- Two steps that may fail come to a value when both do. -/
theorem bind_eq_ok_iff {ε α β : Type} {first : Except ε α} {next : α → Except ε β} {value : β} :
    first >>= next = .ok value ↔ ∃ middle, first = .ok middle ∧ next middle = .ok value := by
  cases first with
  | error fault => simp [bind, Except.bind]
  | ok middle => simp [bind, Except.bind]

/-! ### Nodes -/

namespace Tree

variable {tree : Tree} {place : Place} {node : Node}

theorem hasDirectory_iff : tree.hasDirectory place = true ↔ tree.node? place = some .directory := by
  unfold hasDirectory
  split
  next here => simp [here]
  next other => simpa using other

theorem lookup_filter_ne {other : Place} (different : other ≠ place) (nodes : List (Place × Node)) :
    (nodes.filter (·.1 != place)).lookup other = nodes.lookup other := by
  induction nodes with
  | nil => rfl
  | cons entry nodes ih =>
    obtain ⟨here, node⟩ := entry
    by_cases same : here = place
    · have passed : (other == here) = false := by simpa [same] using different
      simp [List.lookup_cons, same ▸ passed, same, ih]
    · simp [List.lookup_cons, same, ih]

theorem node?_set (below : place ≠ []) (node : Node) (other : Place) :
    (tree.set place node).node? other = if other = place then some node else tree.node? other := by
  cases other with
  | nil => simp [node?, Ne.symm below]
  | cons name names =>
    by_cases same : name :: names = place
    · simp [node?, set, same]
    · have passed : (name :: names == place) = false := by simpa using same
      simp [node?, set, List.lookup_cons, passed, same, lookup_filter_ne same]

end Tree

/-! ### Names -/

/-- A name that is a step of a path and no more than that. -/
structure IsSegment (name : String) : Prop where
  busy : Path.isIdle name.toList = false
  proper : name.toList ≠ ['.', '.']
  noSlash : '/' ∉ name.toList
  noNul : '\x00' ∉ name.toList

/-- A name that an entry of a directory can have. -/
structure IsName (name : String) : Prop extends IsSegment name where
  short : (Text.encode name).length ≤ Tree.longestName

namespace Tree

/-- Directories lead from the root to the place. -/
structure Reaches (tree : Tree) (place : Place) : Prop where
  names : ∀ name ∈ place, IsName name
  parents : ∀ front back, place = front ++ back → back ≠ [] → tree.hasDirectory front = true

/-- The node stands at a place that is reached, and is not a link. -/
structure Stands (tree : Tree) (place : Place) (node : Node) : Prop extends tree.Reaches place where
  here : tree.node? place = some node
  final : ∀ target, node ≠ .link target

/-- No link leads to a path that no file can have. -/
def LinksNamed (tree : Tree) : Prop :=
  ∀ place target, tree.node? place = some (.link target) → '\x00' ∉ target.text.toList

variable {tree : Tree} {place : Place} {node : Node}

theorem stands_root (tree : Tree) : tree.Stands [] .directory where
  names := nofun
  parents _ _ split more := absurd (List.append_eq_nil_iff.mp split.symm).2 more
  here := rfl
  final := nofun

/-- The directory that an entry stands in. -/
theorem Stands.up (stands : tree.Stands place .directory) :
    tree.Stands place.dropLast .directory := by
  rcases List.eq_nil_or_concat place with rfl | ⟨front, name, rfl⟩
  · exact stands
  rw [List.concat_eq_append] at stands ⊢
  rw [List.dropLast_concat]
  exact
    { names := fun other member => stands.names other (List.mem_append_left _ member)
      parents := fun before after split _ =>
        stands.parents before (after ++ [name]) (by simp [split]) (by simp)
      here := hasDirectory_iff.mp (stands.parents front [name] rfl (by simp))
      final := nofun }

/-- An entry of a directory. -/
theorem Stands.enter (stands : tree.Stands place .directory) {name : String} (isName : IsName name)
    (here : tree.node? (place ++ [name]) = some node) (final : ∀ target, node ≠ .link target) :
    tree.Stands (place ++ [name]) node where
  names other member := by
    rcases List.mem_append.mp member with earlier | last
    · exact stands.names other earlier
    · exact List.mem_singleton.mp last ▸ isName
  parents front back split more := by
    -- What stands in front of the new name is the directory itself or leads to it.
    obtain ⟨before, last, rfl⟩ := (List.eq_nil_or_concat back).resolve_left more
    rw [List.concat_eq_append, ← List.append_assoc] at split
    obtain ⟨rfl, -⟩ := List.append_inj' split rfl
    by_cases none : before = []
    · simpa [none] using hasDirectory_iff.mpr stands.here
    · exact stands.parents front before rfl none
  here := here
  final := final

/-- A path is walked from the root or from where the walk is. -/
theorem Stands.origin (stands : tree.Stands place .directory) (path : Path) :
    tree.Stands (path.origin place) .directory := by
  unfold Path.origin
  split
  · exact tree.stands_root
  · exact stands

/-! ### Walks -/

theorem find_eq_ok_iff {directory : Place} {path : Path} :
    tree.find directory path = .ok (place, node) ↔
      tree.walk true directory path = .ok (.found place node) := by
  unfold find
  rw [bind_eq_ok_iff]
  constructor
  · rintro ⟨_ | _, walked, same⟩
    · cases same
      exact walked
    · cases same
  · intro walked
    exact ⟨_, walked, rfl⟩

end Tree

/-! ### The path of a place -/

namespace Path

theorem toList_ofPlace (place : Place) :
    (ofPlace place).text.toList = '/' :: Text.joinWith ['/'] (place.map String.toList) := by
  simp [ofPlace, Text.joinWith, List.intercalate]

theorem isAbsolute_ofPlace (place : Place) : (ofPlace place).isAbsolute = true := by
  simp [isAbsolute, toList_ofPlace]

/-- Behind the slash at its start, the path is cut into the names of the place. -/
theorem segments_ofPlace {place : Place} (some : place ≠ []) (names : ∀ name ∈ place, IsSegment name) :
    (ofPlace place).segments = [] :: place.map String.toList := by
  have whole : ∀ piece ∈ place.map String.toList, ∀ c ∈ piece, (c == '/') = false := by
    intro piece member c inside
    obtain ⟨name, present, rfl⟩ := List.mem_map.mp member
    have different : c ≠ '/' := fun same => (names name present).noSlash (same ▸ inside)
    simpa using different
  have cut := Text.splitAt_joinWith (· == '/') (beq_self_eq_true '/') (by simpa using some) whole
  rw [segments, toList_ofPlace, Text.splitAt, if_pos (beq_self_eq_true '/'), cut]

theorem steps_ofPlace {place : Place} (names : ∀ name ∈ place, IsSegment name) :
    (ofPlace place).steps = place.map .enter := by
  by_cases none : place = []
  · subst none
    rfl
  have enters : (place.map String.toList).map PathStep.ofSegment = place.map .enter := by
    rw [List.map_map]
    refine List.map_congr_left fun name member => ?_
    simp [PathStep.ofSegment, (names name member).busy, (names name member).proper]
  have some : place.map String.toList ≠ [[]] := by
    intro single
    obtain ⟨name, rfl, idle⟩ := List.map_eq_singleton_iff.mp single
    have busy := (names name List.mem_cons_self).busy
    rw [idle] at busy
    cases busy
  simp only [steps, isAbsolute_ofPlace, segments_ofPlace none names, if_true, List.drop_one,
    List.tail_cons, if_neg some, enters]

theorem ofPlace_injective {first second : Place} (namesFirst : ∀ name ∈ first, IsSegment name)
    (namesSecond : ∀ name ∈ second, IsSegment name) (same : ofPlace first = ofPlace second) :
    first = second := by
  have steps := congrArg Path.steps same
  rw [steps_ofPlace namesFirst, steps_ofPlace namesSecond] at steps
  exact (List.map_inj_right fun _ _ => PathStep.enter.inj).mp steps

theorem noNul_ofPlace {place : Place} (names : ∀ name ∈ place, IsSegment name) :
    '\x00' ∉ (ofPlace place).text.toList := by
  rw [toList_ofPlace]
  intro inside
  -- There are slashes and names, and none of these holds the NUL.
  rcases List.mem_cons.mp inside with slash | inside
  · cases slash
  rcases Text.mem_joinWith inside with slash | ⟨piece, member, inside⟩
  · cases List.mem_singleton.mp slash
  · obtain ⟨name, present, rfl⟩ := List.mem_map.mp member
    exact (names name present).noNul inside

/-- The path of an entry does not ask for a directory. -/
theorem not_endsWith_ofPlace {place : Place} (below : place ≠ [])
    (names : ∀ name ∈ place, IsSegment name) : (ofPlace place).text.endsWith "/" = false := by
  apply Bool.eq_false_iff.mpr
  intro asks
  obtain ⟨front, ends⟩ : ['/'] <:+ (ofPlace place).text.toList := by
    simpa using String.Slice.endsWith_string_iff.mp asks
  -- Behind a slash at the end there would be a last name without any character.
  have cut : (ofPlace place).segments = Text.splitAt (· == '/') front ++ [[]] := by
    rw [segments, ← ends]
    exact Text.splitAt_append_separator _ (beq_self_eq_true '/')
  rw [segments_ofPlace below names] at cut
  have last := congrArg List.getLast? cut
  have filled : place.map String.toList ≠ [] := by simpa using below
  rw [List.getLast?_cons_of_ne_nil filled, List.getLast?_append] at last
  obtain ⟨name, present, empty⟩ : ∃ name ∈ place, name.toList = [] := by
    simpa using List.mem_of_getLast? last
  have busy := (names name present).busy
  rw [empty] at busy
  contradiction

end Path

namespace Tree

variable {tree : Tree} {place : Place} {node : Node}

theorem Reaches.segments (reaches : tree.Reaches place) : ∀ name ∈ place, IsSegment name :=
  fun name member => (reaches.names name member).toIsSegment

theorem walkWith_entry {follow : Bool} {onward : Place → List PathStep → Except Fault Destination}
    {name : String} (isName : IsName name) (inside : tree.hasDirectory place = true)
    (here : tree.node? (place ++ [name]) = some node) (final : ∀ target, node ≠ .link target)
    (rest : List PathStep) :
    tree.walkWith follow onward place (.enter name :: rest) =
      tree.walkWith follow onward (place ++ [name]) rest := by
  have short : ¬ longestName < (Text.encode name).length := Nat.not_lt.mpr isName.short
  rw [walkWith]
  simp only [inside, Bool.not_true, Bool.false_eq_true, if_false, if_neg short, here]

/-- Along the directories that lead to a place the walk comes there, with every link left to follow. -/
theorem walkWith_enter {onward : Place → List PathStep → Except Fault Destination}
    {names : List String} (stands : tree.Stands (place ++ names) node) :
    tree.walkWith true onward place (names.map .enter) = .ok (.found (place ++ names) node) := by
  induction names generalizing place with
  | nil =>
    rw [List.append_nil] at stands ⊢
    simp [walkWith, stands.here]
  | cons name names ih =>
    have isName : IsName name := stands.names name (by simp)
    have inside : tree.hasDirectory place = true := stands.parents place _ rfl (by simp)
    rw [List.append_cons] at stands ⊢
    rw [List.map_cons]
    cases names with
    | nil =>
      rw [List.append_nil] at stands
      rw [walkWith_entry isName inside stands.here stands.final]
      exact ih (by simpa using stands)
    | cons next names =>
      have directory := hasDirectory_iff.mp (stands.parents (place ++ [name]) _ rfl (by simp))
      rw [walkWith_entry isName inside directory nofun]
      exact ih stands

theorem walk_ofPlace (stands : tree.Stands place node)
    (short : (Text.encode (Path.ofPlace place).text).length ≤ longestPath) (directory : Place) :
    tree.walk true directory (.ofPlace place) = .ok (.found place node) := by
  have filled : (Path.ofPlace place).text.isEmpty = false := by
    apply Bool.eq_false_iff.mpr
    intro none
    have empty := congrArg String.toList (String.isEmpty_iff.mp none)
    simp [Path.toList_ofPlace] at empty
  have origin : (Path.ofPlace place).origin directory = [] := if_pos (Path.isAbsolute_ofPlace place)
  have steps := Path.steps_ofPlace stands.segments
  rw [walk, filled, if_neg Bool.false_ne_true, if_neg (Nat.not_lt.mpr short), origin, steps]
  exact walkWith_enter stands

/-- The path of a place leads there. -/
theorem find_ofPlace (stands : tree.Stands place node)
    (short : (Text.encode (Path.ofPlace place).text).length ≤ longestPath) (directory : Place) :
    tree.find directory (.ofPlace place) = .ok (place, node) :=
  find_eq_ok_iff.mpr (walk_ofPlace stands short directory)

theorem readFile_ofPlace {content : Text.Bytes} {executable : Bool}
    (stands : tree.Stands place (.file content executable))
    (short : (Text.encode (Path.ofPlace place).text).length ≤ longestPath) (directory : Place) :
    tree.readFile directory (.ofPlace place) = .ok content := by
  rw [readFile, find_ofPlace stands short]
  rfl

/-- Only the root is the place of no entry, and it is a directory. -/
theorem Stands.below (stands : tree.Stands place node) (other : node ≠ .directory) : place ≠ [] := by
  rintro rfl
  exact other (Option.some.inj stands.here).symm

theorem openFile_ofPlace (stands : tree.Stands place node) (other : node ≠ .directory)
    (short : (Text.encode (Path.ofPlace place).text).length ≤ longestPath) (directory : Place)
    (keep : Bool) :
    tree.openFile directory (.ofPlace place) keep =
      match node with
      | .file _ executable =>
        .ok (.file place, if keep then tree else tree.set place (.file [] executable))
      | .device _ => .ok (.nowhere, tree)
      | .program _ => .error .denied
      | .directory | .link _ => .error .isDirectory := by
  have plain := Path.not_endsWith_ofPlace (stands.below other) stands.segments
  rw [openFile, walkToMake, plain, if_neg Bool.false_ne_true, walk_ofPlace stands short]
  cases node <;> rfl

/-- Writing by the path of a file gives it the content. -/
theorem writeFile_ofPlace {content : Text.Bytes} {executable : Bool}
    (stands : tree.Stands place (.file content executable))
    (short : (Text.encode (Path.ofPlace place).text).length ≤ longestPath) (directory : Place)
    (bytes : Text.Bytes) :
    ∃ written, tree.writeFile directory (.ofPlace place) bytes = .ok written ∧
      ∀ other, written.node? other =
        if other = place then some (.file bytes executable) else tree.node? other := by
  have below := stands.below nofun
  have emptied : (tree.set place (.file [] executable)).node? place = some (.file [] executable) := by
    simp [node?_set below]
  refine ⟨(tree.set place (.file [] executable)).append place bytes, ?_, fun other => ?_⟩
  · rw [writeFile, openFile_ofPlace stands nofun short]
    rfl
  · simp only [append, emptied, List.nil_append, node?_set below]
    split <;> rfl

end Tree

end EditorBridge
