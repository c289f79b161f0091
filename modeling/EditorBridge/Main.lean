import EditorBridge.Shell.System
import EditorBridge.Terminal.CommandLine

/-!
# The program

Runs the command line on the files around it. The files that the arguments and the settings name
are put on a machine, the command line is run on that machine, and what it printed and wrote is
carried over to the outside.
-/

namespace EditorBridge.Outside

/-- The place that a path names from a directory, links aside. -/
def placeOf (directory : Place) (path : Path) : Place :=
  path.steps.foldl
    (fun place step =>
      match step with
      | .stay => place
      | .up => place.dropLast
      | .enter name => place ++ [name])
    (path.origin directory)

/-- A file that starts like a script can be run. -/
def isScript (content : Text.Bytes) : Bool := content.take 2 == [0x23, 0x21]

/-- Puts a file or a directory of the outside on a tree; what is not there is left out. -/
def take (directory : Place) (tree : Tree) (path : Path) : IO Tree := do
  try
    let real : Path := ⟨toString (← IO.FS.realPath path.text)⟩
    let node : Node ←
      try
        let content := (← IO.FS.readBinFile path.text).toList
        pure (.file content (isScript content))
      catch _ => pure .directory
    let place := placeOf directory path
    let realPlace := placeOf [] real
    let tree := if (tree.node? realPlace).isSome then tree else tree.plant realPlace node
    return if place == realPlace || (tree.node? place).isSome then tree
      else tree.plant place (.link real)
  catch _ => return tree

/-- Reads all that is left of a stream. -/
partial def readAll (stream : IO.FS.Stream) (before : ByteArray) : IO ByteArray := do
  let block ← stream.read 65536
  if block.isEmpty then return before else readAll stream (before ++ block)

/-- The machine with the files that an operation works on. -/
def machineFor (options : TerminalOptions) (operation : Operation) : IO Machine := do
  let directory := placeOf [] ⟨toString (← IO.currentDir)⟩
  let files := operation.files.filter (· != Terminal.inputMarker)
  let settings := options.config.getD ⟨Settings.fileName⟩
  let tree ← (settings :: files).foldlM (take directory) (Tree.system.plant directory .directory)
  let stdin ← if files.length == operation.files.length then pure ByteArray.empty
    else readAll (← IO.getStdin) .empty
  let machine : Machine := ⟨tree, directory, stdin.toList, [], []⟩
  match Settings.load machine options.config (.ofPlace directory) with
  | .error _ => return machine
  | .ok settings =>
    match settings.value.interpreter? with
    | none => return machine
    | some interpreter => return { machine with tree := ← take directory tree interpreter }

/-- Carries the files that were written or removed over to the outside. -/
def carryOver (before after : Tree) : IO Unit := do
  for (place, content) in after.files do
    if before.files.lookup place != some content then
      IO.FS.writeBinFile (Path.ofPlace place).text ⟨content.toArray⟩
  for (place, _) in before.files do
    if (after.files.lookup place).isNone then
      IO.FS.removeFile (Path.ofPlace place).text

/-- Prints what was printed on a machine. -/
def carryPrint (machine : Machine) : IO Unit := do
  (← IO.getStdout).write ⟨machine.stdout.toArray⟩
  (← IO.getStderr).write ⟨machine.stderr.toArray⟩

end EditorBridge.Outside

open EditorBridge in
/-- Runs the command line. -/
def main (arguments : List String) : IO UInt32 := do
  let machine ← match CommandLine.read arguments with
    | .ok (options, operation) => Outside.machineFor options operation
    | .error _ => pure ⟨.system, [], [], [], []⟩
  let (status, after) := CommandLine.run Runner.system arguments machine
  Outside.carryOver machine.tree after.tree
  Outside.carryPrint after
  return status.toUInt32
