import EditorBridge.Shell.Descriptor
import EditorBridge.Shell.Tools.Quoting

/-!
# Options of programs

Options stand anywhere among the operands, up to a double minus. They are letters behind a minus, or
names behind two, which may be shortened as long as they stay clear.
-/

namespace EditorBridge.Shell.Tools

/-- Whether an option has a text. -/
inductive OptionText where
  | never
  | always
  | maybe
  deriving DecidableEq, Repr

/-- An option of a program. -/
structure ProgramOption where
  letter : Option Char := none
  name : String := ""
  text : OptionText := .never
  deriving DecidableEq, Repr

/-- The options that every program has. -/
def commonOptions : List ProgramOption := [{ name := "help" }, { name := "version" }]

/-- An option that was given, with its text. -/
structure Given where
  option : ProgramOption
  text : Option Raw
  deriving DecidableEq, Repr

/-- What the arguments of a program amount to, or why they are refused. -/
structure Reading where
  given : List Given := []
  operands : List Raw := []
  deriving DecidableEq, Repr

namespace Reading

/-- The option of a letter was given. -/
def has (reading : Reading) (letter : Char) : Bool :=
  reading.given.any (·.option.letter == some letter)

/-- The option of a name was given. -/
def hasNamed (reading : Reading) (name : String) : Bool :=
  reading.given.any (·.option.name == name)

/-- The reading with an option in front. -/
def behind (option : ProgramOption) (text : Option Raw) (reading : Reading) : Reading :=
  { reading with given := ⟨option, text⟩ :: reading.given }

end Reading

/-- The option of a name that may be shortened, or the reason for refusing it. -/
def optionNamed (options : List ProgramOption) (name : Raw) : Except Raw ProgramOption :=
  let long := options.filter fun option => !option.name.isEmpty
  match long.find? fun option => option.name == String.ofList name with
  | some option => .ok option
  | none =>
    match long.filter fun option => name.isPrefixOf option.name.toList with
    | [option] => .ok option
    | [] => .error (Raw.ofString "unrecognized option '--" ++ name ++ ['\''])
    | many => .error (Raw.ofString "option '--" ++ name ++
        Raw.ofString "' is ambiguous; possibilities:" ++
        Raw.ofString (String.join (many.map fun option => " '--" ++ option.name ++ "'")))

/-- Reads the letters of one argument. The arguments behind it may lend it a text. -/
def readLetters (options : List ProgramOption) (arguments : List Raw) :
    Raw → Except Raw (List Given × List Raw)
  | [] => .ok ([], arguments)
  | c :: rest =>
    match options.find? fun option => option.letter == some c with
    | none => .error (Raw.ofString "invalid option -- '" ++ [c, '\''])
    | some option =>
      match option.text, rest, arguments with
      | .always, [], [] =>
        .error (Raw.ofString "option requires an argument -- '" ++ [c, '\''])
      | .always, [], text :: arguments => .ok ([⟨option, some text⟩], arguments)
      | .always, text, arguments => .ok ([⟨option, some text⟩], arguments)
      | _, rest, _ => do
        let (others, arguments) ← readLetters options arguments rest
        return (⟨option, none⟩ :: others, arguments)

/-- Reads an argument with the name of an option. The arguments behind it may lend it a text. -/
def readNamed (options : List ProgramOption) (arguments : List Raw) (body : Raw) :
    Except Raw (Given × List Raw) := do
  let name := body.takeWhile (· != '=')
  let option ← optionNamed options name
  let full := Raw.ofString option.name
  match body.drop name.length, option.text, arguments with
  | _ :: _, .never, _ =>
    .error (Raw.ofString "option '--" ++ full ++ Raw.ofString "' doesn't allow an argument")
  | _ :: text, _, arguments => return (⟨option, some text⟩, arguments)
  | [], .always, [] =>
    .error (Raw.ofString "option '--" ++ full ++ Raw.ofString "' requires an argument")
  | [], .always, text :: arguments => return (⟨option, some text⟩, arguments)
  | [], _, arguments => return (⟨option, none⟩, arguments)

/-- Reads the arguments of a program. `mixed` says that options may stand behind operands. The fuel is
more than the number of arguments. -/
def readArguments (options : List ProgramOption) (mixed : Bool) :
    Nat → List Raw → Except Raw Reading
  | 0, arguments => .ok { operands := arguments }
  | fuel + 1, arguments => do
    match arguments with
    | [] => return {}
    | ['-', '-'] :: rest => return { operands := rest }
    | ('-' :: '-' :: body) :: rest =>
      let (given, rest) ← readNamed options rest body
      let others ← readArguments options mixed fuel rest
      return { others with given := given :: others.given }
    | ('-' :: c :: letters) :: rest =>
      let (given, rest) ← readLetters options rest (c :: letters)
      let others ← readArguments options mixed fuel rest
      return { others with given := given ++ others.given }
    | operand :: rest =>
      if mixed then
        let others ← readArguments options mixed fuel rest
        return { others with operands := operand :: others.operands }
      else return { operands := operand :: rest }

/-- What the arguments of a program amount to. -/
def reading (options : List ProgramOption) (mixed : Bool) (arguments : List Raw) :
    Except Raw Reading :=
  readArguments (options ++ commonOptions) mixed (arguments.length + 1) arguments

/-! ### Messages -/

/-- Writes a message of a program on the error stream, behind what has been printed. -/
def complain (program message : Raw) : Act Unit := do
  let _ ← Act.flush
  Act.writeError (program ++ Raw.ofString ": " ++ message ++ ['\n'])

/-- Where to find help. -/
def tryHelp (program : Raw) : Act Unit :=
  Act.writeError (Raw.ofString "Try '" ++ program ++
    Raw.ofString " --help' for more information.\n")

/-- Complains, and tells where to find help. -/
def misuse (program message : Raw) : Act Unit := do
  complain program message
  tryHelp program

/-- Complains that an operand is missing. -/
def missingOperand (program : Raw) : Act Nat := do
  misuse program (Raw.ofString "missing operand")
  return 1

/-- Ends a program: what it has printed has to be written. -/
def finish (program : Raw) (status : Nat) : Act Nat := do
  match ← Act.flush with
  | none => return status
  | some fault =>
    Act.writeError (program ++ Raw.ofString (": write error: " ++ fault.wording ++ "\n"))
    return 1

/-- Does something with the arguments of a program when they are well formed. -/
def withReading (program : Raw) (options : List ProgramOption) (arguments : List Raw)
    (act : Reading → Act Nat) : Act Nat := do
  match reading options true arguments with
  | .error message =>
    misuse program message
    return 1
  | .ok found => if found.hasNamed "help" || found.hasNamed "version" then return 0 else act found

/-- The path that an operand spells. -/
def path (operand : Raw) : Path := ⟨Raw.toString operand⟩

/-- Zero when all went well, else one. -/
def statusOf (results : List Bool) : Nat := if results.all id then 0 else 1

end EditorBridge.Shell.Tools
