import EditorBridge.Shell.Tools.Cat
import EditorBridge.Shell.Tools.Echo
import EditorBridge.Shell.Tools.MakeDirectory
import EditorBridge.Shell.Tools.Printf
import EditorBridge.Shell.Tools.Pwd
import EditorBridge.Shell.Tools.Remove
import EditorBridge.Shell.Tools.Sleep

/-!
# Programs of the system

The programs by name, apart from those that run other programs. What a program has printed is written
at its end; a program without any output cannot fail at that.
-/

namespace EditorBridge.Shell.Tools

/-- The program of a name, given the name that it was called by and its arguments. -/
def ofName? (name : String) : Option (Raw → List Raw → Act Nat) :=
  match name with
  | "cat" => some Cat.perform
  | "echo" => some Echo.perform
  | "mkdir" => some MakeDirectory.perform
  | "printf" => some Printf.perform
  | "pwd" => some Pwd.perform
  | "rm" => some Remove.perform
  | "sleep" => some Sleep.perform
  | "true" => some fun _ _ => return 0
  | "false" => some fun _ _ => return 1
  | _ => none

/-- Runs a program to its end. -/
def run (name : String) (program : Raw) (arguments : List Raw) : Act Unit := do
  match ofName? name with
  | some perform => Act.exitWith (← finish program (← perform program arguments))
  | none => Act.exitWith 0

end EditorBridge.Shell.Tools
