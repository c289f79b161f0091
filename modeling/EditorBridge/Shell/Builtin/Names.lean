import EditorBridge.Machine.Launch
import EditorBridge.Shell.Builtin.Options
import EditorBridge.Shell.Builtin.Quoting
import EditorBridge.Shell.Builtin.Table
import EditorBridge.Shell.Reader.Problem

/-!
# What names stand for

A name can be a reserved word, an alias, a function, a builtin or a program. Programs are looked for
in the search directories; where one was found is remembered.
-/

namespace EditorBridge.Shell.Builtin

/-! ### Looking for programs -/

/-- The path of a name in a directory. -/
def pathIn (directory name : Raw) : Raw :=
  if directory.isEmpty then name else directory ++ '/' :: name

/-- The file of a path can be run. -/
def isProgram (state : State) (path : Raw) : Except Fault Unit :=
  match state.world.tree.find state.frame.directory ⟨Raw.toString path⟩ with
  | .ok (_, .program _) | .ok (_, .file _ true) => .ok ()
  | .ok _ => .error .denied
  | .error fault => .error fault

/-- Looks for a program in some directories. The fault is that of the last entry that was there and is
no program. -/
def searchIn (state : State) (name : Raw) (fault : Fault) : List Raw → Except Fault Raw
  | [] => .error fault
  | directory :: rest =>
    match isProgram state (pathIn directory name) with
    | .ok () => .ok (pathIn directory name)
    | .error .noEntry | .error .notDirectory => searchIn state name fault rest
    | .error fault => searchIn state name fault rest

/-- The path of a program in the usual search directories. -/
def search (state : State) (name : Raw) : Except Fault Raw :=
  searchIn state name .noEntry state.frame.searchDirectories

/-- What a name stands for when it is not a reserved word or an alias. -/
inductive Meaning where
  | function (body : Command)
  | builtin
  | program (path : Raw)
  | missing (fault : Fault)

/-- What a name stands for. Functions can be passed over, and the search directories can be given. -/
def meaningOf (state : State) (functions : Bool) (directories : List Raw) (name : Raw) : Meaning :=
  match if functions then state.frame.functions.lookup name else none with
  | some body => .function body
  | none =>
    if isBuiltin name then .builtin
    else if name.contains '/' then .program name
    else match searchIn state name .noEntry directories with
      | .ok path => .program path
      | .error fault => .missing fault

/-- Remembers where a program was found. -/
def remember (name : Raw) : Act Unit :=
  Act.modifyFrame fun frame =>
    if name.contains '/' || frame.remembered.contains name then frame
    else { frame with remembered := frame.remembered ++ [name] }

/-- The directories that are searched when the usual ones do not count. -/
def standardDirectories : List Raw := Launch.usualDirectories.map Raw.ofString

/-! ### Telling what a name stands for -/

/-- An alias in the form of an assignment. -/
def aliasLine (name text : Raw) : Raw := name ++ '=' :: singleQuoted text

/-- How a name is described. -/
inductive Description where
  /-- The name is a reserved word. -/
  | reserved
  | shorthand (text : Raw)
  | found (meaning : Meaning)

/-- What is told about a name. -/
def descriptionOf (state : State) (standard : Bool) (name : Raw) : Description :=
  if (Reserved.ofText? name).isSome then .reserved
  else match state.frame.aliases.lookup name with
    | some text => .shorthand text
    | none =>
      let directories := if standard then standardDirectories else state.frame.searchDirectories
      match meaningOf state true directories name with
      | .program path =>
        if !name.contains '/' then .found (.program path)
        else match state.world.tree.find state.frame.directory ⟨Raw.toString path⟩ with
          | .ok _ => .found (.program path)
          | .error fault => .found (.missing fault)
      | meaning => .found meaning

/-- Tells in a sentence what a name stands for. -/
def tell (standard : Bool) (name : Raw) : Act Nat := do
  let state ← get
  let is (text : String) : Raw := name ++ Raw.ofString (" is " ++ text)
  let line (raw : Raw) : Act Nat := do
    Act.printLine raw
    return 0
  match descriptionOf state standard name with
  | .reserved => line (is "a shell keyword")
  | .shorthand text => line (is "an alias for " ++ text)
  | .found (.function _) => line (is "a shell function")
  | .found .builtin =>
    line (is (if isSpecial name then "a special shell builtin" else "a shell builtin"))
  | .found (.program path) =>
    let isRemembered := !standard && state.frame.remembered.contains name
    if !standard then remember name
    line (is (if isRemembered then "a tracked alias for " else "") ++ path)
  | .found (.missing _) =>
    Act.printLine (name ++ Raw.ofString ": not found")
    return 127

/-- Prints what a name stands for. -/
def show? (standard : Bool) (name : Raw) : Act Nat := do
  let line (raw : Raw) : Act Nat := do
    Act.printLine raw
    return 0
  match descriptionOf (← get) standard name with
  | .shorthand text => line (Raw.ofString "alias " ++ aliasLine name text)
  | .found (.program path) =>
    if !standard then remember name
    line path
  | .found (.missing _) => return 127
  | _ => line name

/-- Adds the bits of statuses. -/
def combined (statuses : List Nat) : Nat := statuses.foldl Nat.lor 0

/-- Tells what names stand for. -/
def type (arguments : List Raw) : Act Nat := do
  return combined (← arguments.mapM (tell false))

/-- Tells about a command as the options say. -/
def command (arguments : List Raw) : Act Nat := do
  let (options, operands) ← options "pvV" arguments
  let isAsked (letter : Char) : Bool := options.any (·.1 == letter)
  match operands with
  | name :: _ =>
    if isAsked 'V' then tell (isAsked 'p') name
    else if isAsked 'v' then show? (isAsked 'p') name
    else return 0
  | [] => return 0

/-! ### Aliases -/

/-- Prints aliases, or makes them. -/
def makeAliases (arguments : List Raw) : Act Nat := do
  match arguments with
  | [] =>
    (inRows 39 (·.1) (← Act.frame).aliases).forM fun (name, text) =>
      Act.printLine (aliasLine name text)
    return 0
  | arguments =>
    let statuses ← arguments.mapM fun argument => do
      let name := argument.take 1 ++ (argument.drop 1).takeWhile (· != '=')
      match argument.drop name.length with
      | _ :: text =>
        Act.modifyFrame fun frame =>
          { frame with
            aliases :=
              if (frame.aliases.lookup name).isSome then
                frame.aliases.map fun entry => if entry.1 == name then (name, text) else entry
              else frame.aliases ++ [(name, text)] }
        return 0
      | [] =>
        match (← Act.frame).aliases.lookup name with
        | some text =>
          Act.printLine (aliasLine name text)
          return 0
        | none =>
          Act.writeError (Raw.ofString "alias: " ++ name ++ Raw.ofString " not found\n")
          return 1
    return combined statuses

/-- Takes aliases away. -/
def dropAliases (arguments : List Raw) : Act Nat := do
  let (options, operands) ← options "a" arguments
  if !options.isEmpty then
    Act.modifyFrame fun frame => { frame with aliases := [] }
    return 0
  else
    let statuses ← operands.mapM fun name => do
      if ((← Act.frame).aliases.lookup name).isSome then
        Act.modifyFrame fun frame =>
          { frame with aliases := frame.aliases.filter (·.1 != name) }
        return 0
      else
        Act.writeError (Raw.ofString "unalias: " ++ name ++ Raw.ofString " not found\n")
        return 1
    return combined statuses

/-! ### Remembered programs -/

/-- Prints where remembered programs are, looks programs up, or forgets them all. -/
def hash (arguments : List Raw) : Act Nat := do
  let (options, operands) ← options "r" arguments
  if !options.isEmpty then
    Act.modifyFrame fun frame => { frame with remembered := [] }
    return 0
  else match operands with
    | [] =>
      let state ← get
      (inRows 31 id state.frame.remembered).forM fun name =>
        match search state name with
        | .ok path => Act.printLine path
        | .error _ => pure ()
      return 0
    | names =>
      let statuses ← names.mapM fun name => do
        let state ← get
        match meaningOf state true state.frame.searchDirectories name with
        | .missing fault =>
          let wording := match fault with
            | .noEntry => "not found"
            | fault => fault.wording
          Act.complain (name ++ Raw.ofString (": " ++ wording))
          return 1
        | .program _ =>
          remember name
          return 0
        | _ => return 0
      return combined statuses

end EditorBridge.Shell.Builtin
