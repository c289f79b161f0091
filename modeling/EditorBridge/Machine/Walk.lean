import EditorBridge.Machine.Fault
import EditorBridge.Machine.Tree

/-!
# Walking a path

A path is walked segment by segment from a starting directory. Links are followed, up to a number
of them; every segment needs a directory to stand in. The walk ends at a node, or at a vacant place
in a directory.
-/

namespace EditorBridge

/-- One step of a walk. -/
inductive PathStep where
  /-- Stays, which takes a directory. -/
  | stay
  | up
  | enter (name : String)
  deriving DecidableEq, Repr

/-- The step of a segment. -/
def PathStep.ofSegment (segment : List Char) : PathStep :=
  if Path.isIdle segment then .stay
  else if segment = ['.', '.'] then .up
  else .enter (String.ofList segment)

namespace Path

/-- The steps of a path. -/
def steps (path : Path) : List PathStep :=
  let segments := if path.isAbsolute then path.segments.drop 1 else path.segments
  if segments = [[]] then [] else segments.map PathStep.ofSegment

/-- The directory that a walk starts in. -/
def origin (path : Path) (directory : Place) : Place :=
  if path.isAbsolute then [] else directory

end Path

/-- Where a walk ends. -/
inductive Destination where
  | found (place : Place) (node : Node)
  /-- There is nothing at the place, but a directory to put it in. -/
  | vacant (place : Place)
  deriving DecidableEq, Repr

namespace Tree

/-- The most bytes in a name. -/
def longestName : Nat := 255

/-- The most bytes in a path. -/
def longestPath : Nat := 4095

/-- The most links on one walk. -/
def mostLinks : Nat := 40

/-- Walks from a place. Where a link leads on, `onward` takes over with the steps that are left; the
last step follows a link only if `follow` is on. -/
def walkWith (tree : Tree) (follow : Bool)
    (onward : Place → List PathStep → Except Fault Destination) (place : Place) :
    List PathStep → Except Fault Destination
  | [] =>
    match tree.node? place with
    | some node => .ok (.found place node)
    | none => .error .noEntry
  | step :: rest =>
    if !tree.hasDirectory place then .error .notDirectory
    else match step with
      | .stay => walkWith tree follow onward place rest
      | .up => walkWith tree follow onward place.dropLast rest
      | .enter name =>
        if longestName < (Text.encode name).length then .error .nameTooLong
        else
          let next := place ++ [name]
          match tree.node? next with
          | none => if rest.isEmpty then .ok (.vacant next) else .error .noEntry
          | some (.link target) =>
            if rest.isEmpty && !follow then .ok (.found next (.link target))
            else onward (target.origin place) (target.steps ++ rest)
          | some _ => walkWith tree follow onward next rest

/-- Walks from a place. `links` more links may be followed. -/
def walkFrom (tree : Tree) (follow : Bool) (links : Nat) :
    Place → List PathStep → Except Fault Destination :=
  match links with
  | 0 => tree.walkWith follow fun _ _ => .error .linkLoop
  | links + 1 => tree.walkWith follow (walkFrom tree follow links)

/-- Walks a path from a directory. -/
def walk (tree : Tree) (follow : Bool) (directory : Place) (path : Path) :
    Except Fault Destination :=
  if path.text.isEmpty then .error .noEntry
  else if longestPath < (Text.encode path.text).length then .error .nameTooLong
  else tree.walkFrom follow mostLinks (path.origin directory) path.steps

/-- The node that a path leads to. -/
def find (tree : Tree) (directory : Place) (path : Path) : Except Fault (Place × Node) := do
  match ← tree.walk true directory path with
  | .found place node => return (place, node)
  | .vacant _ => .error .noEntry

/-- The directory that a path leads to. -/
def findDirectory (tree : Tree) (directory : Place) (path : Path) : Except Fault Place := do
  match ← tree.find directory path with
  | (place, .directory) => return place
  | _ => .error .notDirectory

/-! ### Reading and writing -/

/-- What a system program holds when it is read as a file. -/
def programBytes : Text.Bytes := [0x7F, 0x45, 0x4C, 0x46, 0x02, 0x01, 0x01, 0x00, 0xFF]

/-- The content of the file that a path leads to. -/
def readFile (tree : Tree) (directory : Place) (path : Path) : Except Fault Text.Bytes := do
  match ← tree.find directory path with
  | (_, .file content _) => return content
  | (_, .program _) => return programBytes
  | (_, .device _) => return []
  | (_, .directory) | (_, .link _) => .error .isDirectory

/-- A path without the slashes at its end, unless there is nothing else. -/
def withoutSlashes (path : Path) : Path :=
  let short := (path.text.toList.reverse.dropWhile (· == '/')).reverse
  if short.isEmpty then path else ⟨String.ofList short⟩

/-- Walks to a file that is made when there is none. A slash at the end asks for a directory, which
is not made that way. -/
def walkToMake (tree : Tree) (directory : Place) (path : Path) : Except Fault Destination :=
  if path.text.endsWith "/" then do
    let _ ← tree.walk false directory (withoutSlashes path)
    .error .isDirectory
  else tree.walk true directory path

/-- Where writing goes. -/
inductive Outlet where
  | file (place : Place)
  | nowhere
  deriving DecidableEq, Repr

/-- Opens a file for writing and makes it when there is none. Its content is kept or emptied. -/
def openFile (tree : Tree) (directory : Place) (path : Path) (keep : Bool) :
    Except Fault (Outlet × Tree) := do
  match ← tree.walkToMake directory path with
  | .vacant place => return (.file place, tree.set place (.file [] false))
  | .found place (.file _ executable) =>
    return (.file place, if keep then tree else tree.set place (.file [] executable))
  | .found _ (.device _) => return (.nowhere, tree)
  | .found _ (.program _) => .error .denied
  | .found _ .directory | .found _ (.link _) => .error .isDirectory

/-- Adds bytes at the end of the file at a place; without a file there the bytes are lost. -/
def append (tree : Tree) (place : Place) (bytes : Text.Bytes) : Tree :=
  match tree.node? place with
  | some (.file content executable) => tree.set place (.file (content ++ bytes) executable)
  | _ => tree

/-- Gives the file that a path leads to a new content. -/
def writeFile (tree : Tree) (directory : Place) (path : Path) (bytes : Text.Bytes) :
    Except Fault Tree := do
  match ← tree.openFile directory path false with
  | (.file place, tree) => return tree.append place bytes
  | (.nowhere, tree) => return tree

end Tree

end EditorBridge
