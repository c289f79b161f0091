import EditorBridge.Machine.Launch
import EditorBridge.Shell.Tools.Options

/-!
# Running a program in another environment

The program that changes the variables which another program gets, and runs it; without one it prints
the variables.
-/

namespace EditorBridge.Shell.Tools.Environment

/-- The options. -/
def options : List ProgramOption :=
  [{ letter := some 'i', name := "ignore-environment" }, { letter := some '0', name := "null" },
    { letter := some 'u', name := "unset", text := .always },
    { letter := some 'C', name := "chdir", text := .always },
    { letter := some 'v', name := "debug" }]

/-- Variables with their values. -/
abbrev Variables := List (Raw × Raw)

/-- The entries with a new value for one of them. -/
def assign (entries : Variables) (name value : Raw) : Variables :=
  if (entries.lookup name).isSome then
    entries.map fun entry => if entry.1 == name then (name, value) else entry
  else entries ++ [(name, value)]

/-- What the arguments ask for. -/
inductive Plan where
  /-- There is nothing more to do than to end with a status. -/
  | finish (status : Nat)
  | run (entries : Variables) (program : Raw) (arguments : List Raw)

/-- The status of a program that was called in the wrong way. -/
def misused : Nat := 125

/-- Makes the assignments in front of the program; the rest of the operands is the second part. -/
def assignments (entries : Variables) : List Raw → Variables × List Raw
  | [] => (entries, [])
  | operand :: rest =>
    let name := operand.takeWhile (· != '=')
    match operand.drop name.length with
    | _ :: value => assignments (assign entries name value) rest
    | [] => (entries, operand :: rest)

/-- Goes to a directory. The answer says whether it is there. -/
def enter (program directory : Raw) : Act Bool := do
  let state ← get
  match state.world.tree.findDirectory state.frame.directory (path directory) with
  | .ok place =>
    Act.modifyFrame fun frame => { frame with directory := place }
    return true
  | .error fault =>
    complain program (Raw.ofString "cannot change directory to " ++ quotedName directory ++
      Raw.ofString (": " ++ fault.wording))
    return false

/-- Finds out what the arguments ask for. -/
def plan (program : Raw) (entries : Variables) (arguments : List Raw) : Act Plan := do
  match reading options false arguments with
  | .error message =>
    misuse program message
    return .finish misused
  | .ok found =>
    if found.hasNamed "help" || found.hasNamed "version" then return .finish 0
    else
      let isBare := found.operands.head? == some ['-']
      let operands := if isBare then found.operands.drop 1 else found.operands
      let kept := if isBare || found.has 'i' then [] else entries
      let lost := found.given.filterMap fun given =>
        if given.option.letter == some 'u' then given.text else none
      let (entries, rest) :=
        assignments (kept.filter fun entry => !lost.contains entry.1) operands
      let directory? := (found.given.filter (·.option.letter == some 'C')).getLast?.bind Given.text
      match rest with
      | [] =>
        if directory?.isSome then
          misuse program (Raw.ofString "must specify command with --chdir (-C)")
          return .finish misused
        else
          let close := if found.has '0' then '\x00' else '\n'
          entries.forM fun (name, value) => Act.print (name ++ '=' :: value ++ [close])
          return .finish 0
      | name :: arguments =>
        if found.has '0' then
          misuse program (Raw.ofString "cannot specify --null (-0) with command")
          return .finish misused
        else
          let isThere ← match directory? with
            | some directory => enter program directory
            | none => pure true
          return if isThere then .run entries name arguments else .finish misused

/-- The directories that the program is looked for in. -/
def directories (entries : Variables) : List String :=
  match entries.lookup (Raw.ofString "PATH") with
  | some value => (Frame.directoriesOf value).map fun directory =>
    if directory.isEmpty then "." else Raw.toString directory
  | none => ["/bin", "/usr/bin"]

/-- Tells that a program cannot be run. The answer is the status. -/
def refuse (program name : Raw) (fault : Fault) : Act Nat := do
  complain program (quoted name ++ Raw.ofString (": " ++ fault.wording))
  return if fault == .noEntry then 127 else 126

end EditorBridge.Shell.Tools.Environment
