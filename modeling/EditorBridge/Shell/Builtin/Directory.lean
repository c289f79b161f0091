import EditorBridge.Shell.Builtin.Options

/-!
# Going to directories

A shell knows its directory in two ways: as it was asked for, with the names of links in it, and as
it is. A relative path is joined to the first by its text; with `-P` the links count.
-/

namespace EditorBridge.Shell.Builtin

/-- The directory with all links followed. -/
def physicalPath (frame : Frame) : Raw := Raw.ofString (Path.ofPlace frame.directory).text

/-- Adds a segment to a path that has none to spare. -/
def addSegment (segments : List Raw) (segment : Raw) : List Raw :=
  if segment.isEmpty || segment == ['.'] then segments
  else if segment == ['.', '.'] then segments.dropLast
  else segments ++ [segment]

/-- Two slashes and no more stand at the start of a path. -/
def hasTwoSlashes : Raw → Bool
  | '/' :: '/' :: rest => rest.head? != some '/'
  | _ => false

/-- The path that a target names from a directory, without idle segments. -/
def joinedPath (directory target : Raw) : Raw :=
  let start := if target.head? == some '/' then target else directory ++ '/' :: target
  let segments := (Text.splitAt (· == '/') start).foldl addSegment []
  let origin := if target.head? == some '/' then target else directory
  let slashes := if hasTwoSlashes origin then ['/', '/'] else ['/']
  slashes ++ ['/'].intercalate segments

/-- The last of the letters `L` and `P` decides whether links count. -/
def followsLinks (options : List (Char × Raw)) : Bool := options.getLast?.any (·.1 == 'P')

/-- The name of the variable that holds the directory. -/
def directoryName : Raw := Raw.ofString "PWD"

/-- Gives an exported variable a value. -/
def assignExported (name value : Raw) : Act Unit := do
  Act.assign name value
  Act.mark name fun entry => { entry with exported := true }

/-- Goes to a directory. The answer says whether it is there. -/
def enter (physical : Bool) (target : Raw) : Act Bool := do
  let state ← get
  let frame := state.frame
  let path := if physical then target else joinedPath frame.path target
  match state.world.tree.findDirectory frame.directory ⟨Raw.toString path⟩ with
  | .error _ => return false
  | .ok place =>
    let path := if physical then Raw.ofString (Path.ofPlace place).text else path
    assignExported (Raw.ofString "OLDPWD") frame.path
    Act.modifyFrame fun frame => { frame with directory := place, path := path }
    assignExported directoryName path
    return true

/-- The target is looked for from the current directory only. -/
def isAnchored (target : Raw) : Bool :=
  match Text.splitAt (· == '/') target with
  | first :: _ => first.isEmpty || first == ['.'] || first == ['.', '.']
  | [] => true

/-- The place of a target in one of the directories that are searched, and whether it is told. -/
def searched? (state : State) (target : Raw) : Option (Raw × Bool) :=
  match state.frame.value? (Raw.ofString "CDPATH") with
  | none => none
  | some value =>
    (Frame.directoriesOf value).findSome? fun directory =>
      let path := if directory.isEmpty then target else directory ++ '/' :: target
      match state.world.tree.findDirectory state.frame.directory ⟨Raw.toString path⟩ with
      | .ok _ => some (path, !directory.isEmpty)
      | .error _ => none

/-- Goes to the directory that the arguments name. -/
def cd (arguments : List Raw) : Act Nat := do
  let (options, operands) ← options "LP" arguments
  let state ← get
  let valueOf (name : String) : Raw := (state.frame.value? (Raw.ofString name)).getD []
  let (target, told) := match operands with
    | [] => (valueOf "HOME", false)
    | ['-'] :: _ => (valueOf "OLDPWD", true)
    | target :: _ => (target, false)
  let found :=
    if !target.isEmpty && isAnchored target then (target, told)
    else
      let name := if target.isEmpty then ['.'] else target
      match searched? state name with
      | some (path, isTold) => (path, told || isTold)
      | none => (target, told)
  if ← enter (followsLinks options) (if found.1.isEmpty then ['.'] else found.1) then
    if found.2 then Act.printLine (← Act.frame).path
    return 0
  else Act.fail (Raw.ofString "can't cd to " ++ target)

/-- Prints the directory. -/
def pwd (arguments : List Raw) : Act Nat := do
  let (options, _) ← options "LP" arguments
  let frame ← Act.frame
  Act.printLine (if followsLinks options then physicalPath frame else frame.path)
  return 0

end EditorBridge.Shell.Builtin
