import EditorBridge.Machine.Walk

/-!
# The machine

A file tree with a current directory and three standard streams: the whole world that a command
line works in. Reading takes text only; a file of other bytes is refused.
-/

namespace EditorBridge

/-- The files, the current directory, the input that is left, and what was printed. -/
structure Machine where
  tree : Tree
  directory : Place
  stdin : Text.Bytes
  stdout : Text.Bytes
  stderr : Text.Bytes
  deriving DecidableEq, Repr

namespace Machine

/-- The reason for refusing bytes that are no text. -/
def notText : String := "stream did not contain valid UTF-8"

/-- The reason for refusing a path that no file can have. -/
def nulInName : String := "file name contained an unexpected NUL byte"

/-- Reports a fault in words. -/
def reported {α : Type} : Except Fault α → Except String α
  | .ok value => .ok value
  | .error fault => .error fault.message

/-- Refuses a path with a NUL in it. -/
def named {α : Type} (path : Path) (operation : Except Fault α) : Except String α :=
  if path.text.toList.contains '\x00' then .error nulInName else reported operation

/-- The text that bytes stand for. -/
def asText (bytes : Text.Bytes) : Except String String :=
  match Text.decode? bytes with
  | some text => .ok text
  | none => .error notText

/-- The text of a file. -/
def readText (machine : Machine) (path : Path) : Except String String := do
  asText (← named path (machine.tree.readFile machine.directory path))

/-- The path of a file with all links followed. It can be too long where the given one is not. -/
def canonical (machine : Machine) (path : Path) : Except String Path :=
  named path do
    let (place, _) ← machine.tree.find machine.directory path
    let real := Path.ofPlace place
    if Tree.longestPath < (Text.encode real.text).length then .error .nameTooLong
    else return real

/-- The path leads to a file. -/
def isFile (machine : Machine) (path : Path) : Bool :=
  match named path (machine.tree.find machine.directory path) with
  | .ok (_, .file ..) | .ok (_, .program _) => true
  | _ => false

/-- Gives a file a new text. -/
def writeText (machine : Machine) (path : Path) (text : String) : Except String Machine :=
  (named path (machine.tree.writeFile machine.directory path (Text.encode text))).map fun tree =>
    { machine with tree := tree }

/-- Takes all the input. -/
def readInput (machine : Machine) : Except String String × Machine :=
  (asText machine.stdin, { machine with stdin := [] })

/-- Prints on the standard output. -/
def print (machine : Machine) (text : String) : Machine :=
  { machine with stdout := machine.stdout ++ Text.encode text }

/-- Prints on the error stream. -/
def printError (machine : Machine) (text : String) : Machine :=
  { machine with stderr := machine.stderr ++ Text.encode text }

end Machine

end EditorBridge
