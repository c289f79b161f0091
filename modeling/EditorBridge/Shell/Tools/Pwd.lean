import EditorBridge.Shell.Tools.Options

/-!
# Telling the directory

The program that prints the directory it runs in.
-/

namespace EditorBridge.Shell.Tools.Pwd

/-- The options. -/
def options : List ProgramOption :=
  [{ letter := some 'L', name := "logical" }, { letter := some 'P', name := "physical" }]

/-- The path leads to a place from the root without idle segments. -/
def leadsTo (tree : Tree) (place : Place) (raw : Raw) : Bool :=
  raw.head? == some '/' &&
    (Text.splitAt (· == '/') raw).all (fun segment => segment != ['.'] && segment != ['.', '.']) &&
    match tree.findDirectory [] (path raw) with
    | .ok found => found == place
    | .error _ => false

/-- Prints the directory, with the links that the environment names when that is asked for. -/
def perform (program : Raw) (arguments : List Raw) : Act Nat :=
  withReading program options arguments fun reading => do
    let state ← get
    if !reading.operands.isEmpty then
      complain program (Raw.ofString "ignoring non-option arguments")
    let logical := (reading.given.getLast?.bind (·.option.letter)) == some 'L'
    let named := state.frame.value? (Raw.ofString "PWD")
    let physical := Raw.ofString (Path.ofPlace state.frame.directory).text
    Act.printLine <| match named.filter (leadsTo state.world.tree state.frame.directory) with
      | some named => if logical then named else physical
      | none => physical
    return 0

end EditorBridge.Shell.Tools.Pwd
