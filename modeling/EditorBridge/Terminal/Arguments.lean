import EditorBridge.Terminal.Operation

/-!
# Reading the command line

The arguments are read from first to last on two levels: options of the program, the name of a
subcommand, and the options and operands of the subcommand. The settings file and the consent can
be given once on each level. The first argument that cannot be accepted decides, and a call for
help or for the version counts where it stands.
-/

namespace EditorBridge.CommandLine

/-- Why reading stops before there is an operation. -/
inductive Interruption where
  | usage
  | help
  | version
  deriving DecidableEq, Repr

/-- What was given on one level. -/
structure Given where
  config : Option String := none
  yes : Bool := false
  operands : List String := []
  deriving DecidableEq, Repr

/-- The level an argument stands on. -/
inductive Level where
  | program
  | subcommand
  deriving DecidableEq, Repr

namespace Given

/-- Takes the settings file, once and not empty. -/
def setConfig (given : Given) (value : String) : Except Interruption Given :=
  if given.config.isSome || value.isEmpty then .error .usage
  else .ok { given with config := some value }

/-- Takes the consent, once. -/
def setYes (given : Given) : Except Interruption Given :=
  if given.yes then .error .usage else .ok { given with yes := true }

/-- Adds an operand. -/
def add (given : Given) (operand : String) : Given :=
  { given with operands := given.operands ++ [operand] }

end Given

/-- An argument that reads as an option: a dash with something behind it. -/
def isOption (argument : String) : Bool :=
  match argument.toList with
  | '-' :: _ :: _ => true
  | _ => false

/-- What is given so far, and whether the next argument is the settings file. -/
abbrev Progress := Given × Bool

/-- Reads the letters behind a single dash. -/
def letters (level : Level) (given : Given) : List Char → Except Interruption Progress
  | [] => .ok (given, false)
  | 'y' :: rest => do letters level (← given.setYes) rest
  | ['c'] => .ok (given, true)
  | 'c' :: '=' :: value => (given.setConfig (String.ofList value)).map (·, false)
  | 'c' :: value => (given.setConfig (String.ofList value)).map (·, false)
  | 'h' :: _ => .error .help
  | 'V' :: _ => .error (if level = .program then .version else .usage)
  | _ => .error .usage

/-- Reads the word behind two dashes. -/
def word (level : Level) (given : Given) (option : String) : Except Interruption Progress :=
  match option with
  | "config" => .ok (given, true)
  | "yes" => given.setYes.map (·, false)
  | "help" => .error .help
  | "version" => .error (if level = .program then .version else .usage)
  | option =>
    match Text.dropStart? "config=".toList option.toList with
    | some value => (given.setConfig (String.ofList value)).map (·, false)
    | none => .error .usage

/-- Reads an option. -/
def option (level : Level) (given : Given) (argument : String) : Except Interruption Progress :=
  match argument.toList with
  | '-' :: '-' :: rest => word level given (String.ofList rest)
  | _ :: rest => letters level given rest
  | [] => .error .usage

/-! ### Subcommands -/

/-- The subcommands. -/
inductive Subcommand where
  | format
  | formatAll
  | save
  | overview
  | check
  | install
  deriving DecidableEq, Repr

namespace Subcommand

/-- The subcommand of a name or a short name. -/
def ofName? : String → Option Subcommand
  | "format" | "f" => some .format
  | "format-all" | "fa" => some .formatAll
  | "save" => some .save
  | "overview" | "o" => some .overview
  | "check" => some .check
  | "install" => some .install
  | _ => none

/-- One more operand can follow so many. -/
def takesMore (subcommand : Subcommand) (count : Nat) : Bool :=
  match subcommand with
  | .format | .save | .overview => count < 1
  | .formatAll => true
  | .check | .install => false

/-- An operand can be empty. -/
def takesEmpty : Subcommand → Bool
  | .overview => true
  | _ => false

/-- The operation with its operands. -/
def operation? (subcommand : Subcommand) (operands : List String) : Option Operation :=
  match subcommand, operands with
  | .format, [file] => some (.formatFile ⟨file⟩)
  | .formatAll, file :: files => some (.formatFiles ((file :: files).map Path.mk) [])
  | .save, [file] => some (.fileSaved ⟨file⟩)
  | .overview, [target] => some (.overview target)
  | .check, [] => some .checkInstall
  | .install, [] => some .installTool
  | _, _ => none

/-- Takes an operand. -/
def take (subcommand : Subcommand) (given : Given) (operand : String) :
    Except Interruption Given :=
  if subcommand.takesMore given.operands.length && (subcommand.takesEmpty || !operand.isEmpty) then
    .ok (given.add operand)
  else .error .usage

/-- Takes all arguments as operands. -/
def takeAll (subcommand : Subcommand) (given : Given) : List String → Except Interruption Given
  | [] => .ok given
  | operand :: rest => do takeAll subcommand (← subcommand.take given operand) rest

/-- Reads the arguments of a subcommand. -/
def read (subcommand : Subcommand) (given : Given) : List String → Except Interruption Given
  | [] => .ok given
  | "--" :: rest => subcommand.takeAll given rest
  | argument :: rest =>
    if isOption argument then
      match option .subcommand given argument with
      | .error interruption => .error interruption
      | .ok (given, false) => read subcommand given rest
      | .ok (given, true) =>
        match rest with
        | [] => .error .usage
        | value :: rest =>
          if isOption value then .error .usage
          else match given.setConfig value with
            | .error interruption => .error interruption
            | .ok given => read subcommand given rest
    else match subcommand.take given argument with
      | .error interruption => .error interruption
      | .ok given => read subcommand given rest

end Subcommand

/-! ### The whole line -/

/-- Help on a subcommand that exists, or on the program. -/
def help : List String → Interruption
  | [] => .help
  | [name] => if (Subcommand.ofName? name).isSome || name == "help" then .help else .usage
  | _ => .usage

/-- Options that were given on both levels: the inner settings file goes before the outer one. -/
def optionsOf (outer inner : Given) : TerminalOptions where
  config := (inner.config.or outer.config).map Path.mk
  assumeYes := outer.yes || inner.yes

/-- Reads a subcommand and what follows it. -/
def readSubcommand (outer : Given) (name : String) (arguments : List String) :
    Except Interruption (TerminalOptions × Operation) :=
  if name = "help" then .error (help arguments)
  else match Subcommand.ofName? name with
    | none => .error .usage
    | some subcommand => do
      let inner ← subcommand.read {} arguments
      match subcommand.operation? inner.operands with
      | some operation => return (optionsOf outer inner, operation)
      | none => .error .usage

/-- Reads the arguments of the program. -/
def readFrom (given : Given) : List String →
    Except Interruption (TerminalOptions × Operation)
  | [] | "--" :: _ => .error .usage
  | argument :: rest =>
    if isOption argument then
      match option .program given argument with
      | .error interruption => .error interruption
      | .ok (given, false) => readFrom given rest
      | .ok (given, true) =>
        match rest with
        | [] => .error .usage
        | value :: rest =>
          if isOption value then .error .usage
          else match given.setConfig value with
            | .error interruption => .error interruption
            | .ok given => readFrom given rest
    else readSubcommand given argument rest

/-- Reads a command line. -/
def read (arguments : List String) : Except Interruption (TerminalOptions × Operation) :=
  readFrom {} arguments

end EditorBridge.CommandLine
