import EditorBridge.Machine.Walk

/-!
# Launching programs

How the name of a program becomes a running system program: a name without a slash is looked for
in the search directories, and a script is run by the program that its first line names.
-/

namespace EditorBridge

open Text

/-- A system program with all its arguments, its own name first. -/
structure Launch where
  program : String
  arguments : List Bytes
  deriving DecidableEq, Repr

namespace Launch

/-- The most scripts that run one another. -/
def mostScripts : Nat := 5

/-- The bytes of a script that are looked at; zeros stand behind the end of a shorter one. -/
def headLength : Nat := 256

/-- A space or a tab. -/
def isGap (byte : UInt8) : Bool := byte == 0x20 || byte == 0x09

/-- Ends the name of an interpreter. -/
def endsName (byte : UInt8) : Bool := isGap byte || byte == 0x00

/-- The text in front of the first zero. -/
def upToZero (bytes : Bytes) : Bytes := bytes.takeWhile (· != 0x00)

/-- The first line of the head of a script, behind its mark. A line without an end has to go beyond
the name of the interpreter, and then its last byte does not count. -/
def firstLine? (head : Bytes) : Option Bytes :=
  let line := head.takeWhile fun byte => byte != 0x0A && byte != 0x00
  if head.getD line.length 0 == 0x0A then
    some (line.reverse.dropWhile isGap).reverse
  else
    let body := head.dropLast
    let name := (head.dropWhile isGap).takeWhile (!endsName ·)
    if body.all isGap || (head.dropWhile isGap).length == name.length then none
    else some (body.reverse.dropWhile isGap).reverse

/-- The interpreter that the first line of a script names, with at most one argument. -/
def interpreter? (content : Bytes) : Option (Bytes × Option Bytes) :=
  match (content ++ List.replicate headLength 0).take headLength with
  | 0x23 :: 0x21 :: head => do
    let line := (← firstLine? head).dropWhile isGap
    if line.isEmpty then none
    else
      let name := line.takeWhile (!endsName ·)
      let behind := line.drop name.length
      let hasArgument := behind.head?.any isGap
      some (name, if hasArgument then some (upToZero (behind.dropWhile isGap)) else none)
  | _ => none

/-- The node that is run by a path. A name that is empty leads to a directory. -/
def target (tree : Tree) (directory : Place) (path : Path) : Except Fault Node :=
  if path.text.isEmpty then .error .denied
  else match tree.find directory path with
    | .ok (_, .program name) => .ok (.program name)
    | .ok (_, .file content true) => .ok (.file content true)
    | .ok _ => .error .denied
    | .error fault => .error fault

/-- Finds the system program behind a node; `scripts` more scripts may stand in between. -/
def ofNode (tree : Tree) (directory : Place) (scripts : Nat) (path : Bytes) (node : Node)
    (arguments : List Bytes) : Except Fault Launch :=
  match node with
  | .program name => .ok ⟨name, arguments⟩
  | .file content _ =>
    match interpreter? content with
    | none => .error .notExecutable
    | some (name, argument) => do
      let next ← target tree directory ⟨decodeLossy name⟩
      match scripts with
      | 0 => .error .linkLoop
      | scripts + 1 =>
        ofNode tree directory scripts name next
          (name :: argument.toList ++ [path] ++ arguments.drop 1)
  | _ => .error .denied

/-- Finds the system program behind a path. -/
def ofPath (tree : Tree) (directory : Place) (path : Path) (arguments : List Bytes) :
    Except Fault Launch := do
  if path.text.isEmpty then .error .noEntry
  else ofNode tree directory mostScripts (encode path.text) (← target tree directory path) arguments

/-- Where programs are looked for when nothing else is said. -/
def usualDirectories : List String :=
  ["/usr/local/sbin", "/usr/local/bin", "/usr/sbin", "/usr/bin", "/sbin", "/bin"]

/-- Looks for a program in one directory after another. A program that may not be run counts only
when there is no other. -/
def search (tree : Tree) (directory : Place) (name : String) (arguments : List Bytes)
    (fault : Fault) : List String → Except Fault Launch
  | [] => .error fault
  | place :: rest =>
    match ofPath tree directory (Path.entry ⟨place⟩ name) arguments with
    | .error .denied => search tree directory name arguments .denied rest
    | .error .noEntry | .error .notDirectory => search tree directory name arguments fault rest
    | other => other

/-- The most bytes in one argument. -/
def longestArgument : Nat := 131071

/-- Finds the system program for a name. -/
def ofName (tree : Tree) (directory : Place) (directories : List String) (name : String)
    (arguments : List Bytes) : Except Fault Launch :=
  if name.isEmpty then .error .noEntry
  else if arguments.any fun argument => longestArgument < argument.length then
    .error .argumentsTooLong
  else if name.toList.contains '/' then ofPath tree directory ⟨name⟩ arguments
  else search tree directory name arguments .noEntry directories

end Launch

end EditorBridge
