import EditorBridge.Machine.Launch
import EditorBridge.Shell.Builtin.Parameters

/-!
# Starting a shell

The frame of a shell at its start, and what its arguments ask for: options, and then a script as a
text, in a file, or in the input.
-/

namespace EditorBridge.Shell.Invocation

/-- The variables that every shell has. -/
def usualVariables : List (String × String) :=
  [("IFS", " \t\n"), ("PATH", ":".intercalate Launch.usualDirectories), ("PS1", "# "),
    ("PS2", "> "), ("PS4", "+ "), ("OPTIND", "1")]

/-- The variables that a shell sets whatever it was given. -/
def fixedVariables : List String := ["IFS", "OPTIND"]

/-- The path of the directory as the environment names it, if it does. -/
def namedPath? (tree : Tree) (frame : Frame) : Option Raw := do
  let named ← frame.value? (Raw.ofString "PWD")
  if named.head? != some '/' then none
  else match tree.findDirectory [] ⟨Raw.toString named⟩ with
    | .ok place => if place == frame.directory then some named else none
    | .error _ => none

/-- The frame of a shell that takes over the variables of a frame. -/
def start (tree : Tree) (name : Raw) (given : Frame) : Frame :=
  let bare : Frame := { given with bindings := [], name := name }
  let usual := usualVariables.foldl
    (fun frame (name, value) => frame.assign (Raw.ofString name) (Raw.ofString value)) bare
  let taken := given.bindings.foldl
    (fun frame entry =>
      if !isName entry.name then frame
      else if fixedVariables.contains (String.ofList entry.name) then
        frame.bind ⟨entry.name, frame.value? entry.name, true, false⟩
      else frame.bind entry) usual
  let path := (namedPath? tree taken).getD (Raw.ofString (Path.ofPlace taken.directory).text)
  let numbered := taken.assign (Raw.ofString "PPID") (Raw.ofNat taken.parent)
  { numbered.bind ⟨Raw.ofString "PWD", some path, true, false⟩ with path := path }

/-- Where a shell finds its script. -/
inductive Source where
  | input
  /-- A file, with the parameters for the script in it. -/
  | file (path : Raw) (parameters : List Raw)
  /-- A text; the input may follow it. -/
  | text (script : Raw)
  deriving DecidableEq, Repr

/-- Reads the letters of one argument; the answer says whether a text is asked for, and what is left of
the arguments. -/
def readLetters (on : Bool) (arguments : List Raw) : Raw → Act (Bool × List Raw)
  | [] => return (false, arguments)
  | 'c' :: rest => do return (true, (← readLetters on arguments rest).2)
  | 'l' :: rest => readLetters on arguments rest
  | 'o' :: rest => do
    Builtin.turnName on arguments.head?
    readLetters on (arguments.drop 1) rest
  | letter :: rest => do
    Builtin.turnLetter on letter
    readLetters on arguments rest

/-- Reads the options in front of the arguments. The fuel is more than the number of arguments. -/
def readOptions : Nat → List Raw → Act (Bool × List Raw)
  | 0, arguments => return (false, arguments)
  | fuel + 1, arguments => do
    match arguments with
    | ['-'] :: rest | ['-', '-'] :: rest => return (false, rest)
    | ('-' :: letters) :: rest =>
      let (asks, rest) ← readLetters true rest letters
      let (asksLater, rest) ← readOptions fuel rest
      return (asks || asksLater, rest)
    | ('+' :: letters) :: rest =>
      let (asks, rest) ← readLetters false rest letters
      let (asksLater, rest) ← readOptions fuel rest
      return (asks || asksLater, rest)
    | rest => return (false, rest)

/-- Sets the name of the shell, if there is one, and its parameters. -/
def setArguments (arguments : List Raw) : Act Unit :=
  Act.modifyFrame fun frame =>
    match arguments with
    | [] => frame
    | name :: parameters => { frame with name := name, parameters := parameters }

/-- Takes over what the arguments say. -/
def read (arguments : List Raw) : Act Source := do
  let (asksText, rest) ← readOptions (arguments.length + 1) arguments
  if asksText then
    match rest with
    | [] => Act.fail (Raw.ofString "-c requires an argument")
    | script :: rest =>
      setArguments rest
      return .text script
  else if rest.isEmpty || (← Act.frame).isOn .stdin then
    Builtin.turn .stdin true
    Act.modifyFrame fun frame => { frame with parameters := rest }
    return .input
  else return .file (rest.headD []) (rest.drop 1)

end EditorBridge.Shell.Invocation
