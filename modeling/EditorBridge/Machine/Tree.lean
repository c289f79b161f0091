import EditorBridge.Path
import EditorBridge.Text.Utf8

/-!
# File trees

What stands where: a finite map from places to nodes. A place is the list of names that leads to
it from the root; the root is always a directory.
-/

namespace EditorBridge

open Text

/-- The names from the root to a place. -/
abbrev Place := List String

/-- What the system offers in the guise of files. -/
inductive Device where
  /-- Takes all writing and is always empty. -/
  | sink
  /-- Takes all writing and never ends. -/
  | zeroes
  /-- Takes no writing and never ends. -/
  | full
  /-- The terminal of a process, of which there is none. -/
  | terminal
  /-- What a process has open under a number. -/
  | descriptor (number : Nat)
  deriving DecidableEq, Repr

/-- What can stand at a place. -/
inductive Node where
  | directory
  | file (content : Bytes) (executable : Bool)
  /-- Leads on to the place that its target names. -/
  | link (target : Path)
  /-- A program that belongs to the system. -/
  | program (name : String)
  | device (device : Device)
  deriving DecidableEq, Repr

/-- Nodes by their place. -/
structure Tree where
  nodes : List (Place × Node)
  deriving DecidableEq, Repr

namespace Tree

/-- What stands at a place. -/
def node? (tree : Tree) : Place → Option Node
  | [] => some .directory
  | place => tree.nodes.lookup place

/-- A directory stands at the place. -/
def hasDirectory (tree : Tree) (place : Place) : Bool :=
  match tree.node? place with
  | some .directory => true
  | _ => false

/-- Puts a node at a place, in the stead of what stood there. -/
def set (tree : Tree) (place : Place) (node : Node) : Tree :=
  ⟨(place, node) :: tree.nodes.filter (·.1 != place)⟩

/-- Takes away what stands at a place. -/
def remove (tree : Tree) (place : Place) : Tree := ⟨tree.nodes.filter (·.1 != place)⟩

/-- The names in a directory. -/
def names (tree : Tree) (place : Place) : List String :=
  tree.nodes.filterMap fun entry =>
    if entry.1.dropLast == place then entry.1.getLast? else none

/-- Makes the directories that lead to a place. -/
def makeParents (tree : Tree) (place : Place) : Tree :=
  (List.range place.length).foldl
    (fun tree count =>
      let parent := place.take count
      if (tree.node? parent).isSome then tree else tree.set parent .directory)
    tree

/-- Puts a node at a place and makes the directories that lead to it. -/
def plant (tree : Tree) (place : Place) (node : Node) : Tree :=
  (tree.makeParents place).set place node

/-- The content of every file, by its place. -/
def files (tree : Tree) : List (Place × Bytes) :=
  tree.nodes.filterMap fun
    | (place, .file content _) => some (place, content)
    | _ => none

end Tree

/-- The path of a place. -/
def Path.ofPlace (place : Place) : Path := ⟨"/" ++ "/".intercalate place⟩

end EditorBridge
