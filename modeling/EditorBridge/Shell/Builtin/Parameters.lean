import EditorBridge.Shell.Builtin.Options
import EditorBridge.Shell.Builtin.Quoting
import EditorBridge.Shell.Field

/-!
# Options, parameters and variables

The builtins that turn options of the shell on and off, change its parameters, mark variables, and
read lines and options into variables.
-/

namespace EditorBridge.Shell.Builtin

/-! ### Options of the shell -/

/-- Turns options on or off. -/
def turn (switch : Switch) (on : Bool) : Act Unit := Act.modifyFrame fun frame => frame.turn switch on

/-- Prints which options are on, as a table or as commands. -/
def printSwitches (asTable : Bool) : Act Unit := do
  let frame ← Act.frame
  if asTable then Act.printLine (Raw.ofString "Current option settings")
  Switch.table.forM fun (switch, name, _) => do
    let on := frame.isOn switch
    let raw := Raw.ofString name
    if asTable then
      Act.printLine (raw ++ List.replicate (16 - raw.length) ' ' ++
        Raw.ofString (if on then "on" else "off"))
    else Act.printLine (Raw.ofString (if on then "set -o " else "set +o ") ++ raw)

/-- Turns the option of a letter on or off. -/
def turnLetter (on : Bool) (letter : Char) : Act Unit := do
  match Switch.ofLetter? letter with
  | some switch =>
    turn switch on
    if on && switch == .vi then turn .emacs false
    if on && switch == .emacs then turn .vi false
  | none => Act.fail (Raw.ofString "Illegal option -" ++ [letter])

/-- Turns the option of a name on or off, or prints them all when there is no name. -/
def turnName (on : Bool) (name : Option Raw) : Act Unit := do
  match name with
  | none => printSwitches on
  | some name =>
    match Switch.ofName? name with
    | some switch => turn switch on
    | none => Act.fail (Raw.ofString "Illegal option -o " ++ name)

/-- Reads the letters of one argument; the answer is what is left of the arguments. -/
def turnLetters (on : Bool) (arguments : List Raw) : Raw → Act (List Raw)
  | [] => return arguments
  | 'o' :: rest => do
    turnName on arguments.head?
    turnLetters on (arguments.drop 1) rest
  | letter :: rest => do
    turnLetter on letter
    turnLetters on arguments rest

/-- Reads the options in front of the arguments. The answer is what is left, and whether it is to
become the parameters. The fuel is more than the number of arguments. -/
def readSwitches : Nat → List Raw → Act (List Raw × Bool)
  | 0, arguments => return (arguments, !arguments.isEmpty)
  | fuel + 1, arguments => do
    match arguments with
    | ['-'] :: rest =>
      turn .xtrace false
      turn .verbose false
      return (rest, !rest.isEmpty)
    | ['-', '-'] :: rest => return (rest, true)
    | ('-' :: letters) :: rest => readSwitches fuel (← turnLetters true rest letters)
    | ('+' :: letters) :: rest => readSwitches fuel (← turnLetters false rest letters)
    | rest => return (rest, !rest.isEmpty)

/-- Gives the shell new parameters. -/
def setParameters (parameters : List Raw) : Act Unit :=
  Act.modifyFrame fun frame =>
    { frame with parameters := parameters, optionIndex := 1, optionOffset := none }

/-- Sets options and parameters, or prints the variables. -/
def set (arguments : List Raw) : Act Nat := do
  match arguments with
  | [] =>
    (← Act.frame).sorted.forM fun entry =>
      match entry.value with
      | some value => Act.printLine (entry.name ++ '=' :: singleQuoted value)
      | none => pure ()
  | arguments =>
    let (rest, isNew) ← readSwitches (arguments.length + 1) arguments
    if isNew then setParameters rest
  return 0

/-- Drops parameters at the front. -/
def shift (arguments : List Raw) : Act Nat := do
  let count ← match arguments with
    | [] => pure 1
    | argument :: _ => Act.number argument
  let parameters := (← Act.frame).parameters
  if parameters.length < count then Act.fail (Raw.ofString "can't shift that many")
  else
    setParameters (parameters.drop count)
    return 0

/-! ### Marks of variables -/

/-- Splits an argument at its first equals sign. -/
def assignmentOf (argument : Raw) : Raw × Option Raw :=
  let name := argument.takeWhile (· != '=')
  (name, (argument.drop name.length).tail?)

/-- Marks variables, or prints those that have a mark. -/
def markAll (command : String) (isMarked : Variable → Bool) (change : Variable → Variable)
    (arguments : List Raw) : Act Nat := do
  let (options, operands) ← options "p" arguments
  if options.isEmpty && !operands.isEmpty then
    operands.forM fun argument => do
      let (name, value) := assignmentOf argument
      if value.isSome || ((← Act.frame).binding? name).isNone then Act.checkName name
      match value with
      | some value => Act.assign name value
      | none => pure ()
      Act.mark name change
  else
    (← Act.frame).sorted.forM fun entry =>
      if isMarked entry then
        let value := match entry.value with
          | some value => '=' :: singleQuoted value
          | none => []
        Act.printLine (Raw.ofString command ++ ' ' :: entry.name ++ value)
      else pure ()
  return 0

/-- Hands variables on to programs. -/
def exportAll : List Raw → Act Nat :=
  markAll "export" Variable.exported fun entry => { entry with exported := true }

/-- Lets variables keep their values. -/
def fixAll : List Raw → Act Nat :=
  markAll "readonly" Variable.fixed fun entry => { entry with fixed := true }

/-- Makes variables of the present call. -/
def makeLocal (arguments : List Raw) : Act Nat := do
  if (← Act.frame).scopes.isEmpty then Act.fail (Raw.ofString "not in a function")
  arguments.forM fun argument => do
    let (name, value) := assignmentOf argument
    if name != ['-'] then
      Act.checkName name
      Act.localize name
      match value with
      | some value => Act.assign name value
      | none => pure ()
  return 0

/-- Takes variables or functions away. -/
def unset (arguments : List Raw) : Act Nat := do
  let (options, names) ← options "vf" arguments
  if options.getLast?.any (·.1 == 'f') then
    Act.modifyFrame fun frame =>
      { frame with functions := frame.functions.filter fun entry => !names.contains entry.1 }
  else names.forM Act.unassign
  return 0

/-! ### Reading lines -/

/-- Reads a line of the input as stretches; a backslash joins lines, and keeps the character behind it
from separating fields, unless the line is read as it stands. -/
def readStretches (plain : Bool) : Act (Except Fault (List Stretch × Bool)) :=
  Act.stepping
    (fun (found : List Stretch) => do
      match ← Act.readLine 0 with
      | .error fault => return .inr (.error fault)
      | .ok (line, isWhole) =>
        let line := line.filter (· != '\x00')
        if plain then return .inr (.ok (found ++ [⟨Item.ofRaw line false, .atSeparators⟩], isWhole))
        else
          let (stretches, isJoined) := escapedStretches line.length line []
          let found := found ++ stretches
          if isJoined && isWhole then return .inl found else return .inr (.ok (found, isWhole)))
    Act.mostRounds []
where
  /-- The stretches of a line with its backslashes read; the second part says that the line goes on.
  The fuel is the length of the line, and `before` is the text in front, backwards. -/
  escapedStretches : Nat → Raw → Raw → List Stretch × Bool
    | _, [], before => ([⟨Item.ofRaw before.reverse false, .atSeparators⟩], false)
    | 0, _, before => ([⟨Item.ofRaw before.reverse false, .atSeparators⟩], false)
    | fuel + 1, c :: rest, before =>
      if c != '\\' then escapedStretches fuel rest (c :: before)
      else
        let first : Stretch := ⟨Item.ofRaw before.reverse false, .atSeparators⟩
        match rest with
        | [] => ([first], true)
        | d :: rest =>
          let (others, goesOn) := escapedStretches fuel rest []
          (first :: ⟨[.char d true], .never⟩ :: others, goesOn)

/-- Gives variables the fields in their order; variables without a field become empty. -/
def distribute : List Raw → List Raw → Act Unit
  | [], _ => pure ()
  | name :: names, fields => do
    Act.checkName name
    Act.assign name (fields.headD [])
    distribute names (fields.drop 1)

/-- Reads a line of the input into variables. -/
def read (arguments : List Raw) : Act Nat := do
  let (options, names) ← options "p:r" arguments
  if names.isEmpty then Act.fail (Raw.ofString "arg count")
  let plain := options.any (·.1 == 'r')
  let (stretches, isWhole) ← do
    match ← readStretches plain with
    | .ok found => pure found
    | .error _ => pure ([], false)
  let frame ← Act.frame
  distribute names
    ((Field.cut frame.separators (some names.length) stretches).map Item.text)
  return if isWhole then 0 else 1

/-! ### Reading options -/

/-- What is found at the place where options are read. -/
inductive Found where
  | finish
  /-- A letter; `rest` is what follows it in its parameter. -/
  | letter (c : Char) (rest : Raw)

/-- Looks for the next letter. The second part is the number of parameters that have been entered. -/
def nextLetter (words : List Raw) (index : Nat) (offset : Option Nat) : Found × Nat :=
  let current := match offset with
    | some offset =>
      if index ≤ 1 then []
      else
        let word := words.getD (index - 2) []
        if word.length < offset then [] else word.drop offset
    | none => []
  match current with
  | c :: rest => (.letter c rest, index - 1)
  | [] =>
    match words[index - 1]? with
    | some ['-', '-'] => (.finish, index)
    | some ('-' :: c :: rest) => (.letter c rest, index)
    | _ => (.finish, index - 1)

/-- Reads the next option of the parameters into a variable. -/
def getopts (arguments : List Raw) : Act Nat := do
  match arguments with
  | description :: name :: given =>
    let frame ← Act.frame
    let words := if given.isEmpty then frame.parameters else given
    let isBehind := words.length + 1 < frame.optionIndex
    let index := if isBehind then 1 else frame.optionIndex
    let offset := if isBehind then none else frame.optionOffset
    let textName := Raw.ofString "OPTARG"
    let isQuiet := description.head? == some ':'
    let (found, entered) := nextLetter words index offset
    let settle (letter : Char) (entered : Nat) (rest : Option Raw) (status : Nat) : Act Nat := do
      Act.modifyFrame fun frame => frame.assign Act.optionIndexName (Raw.ofNat (entered + 1))
      Act.checkName name
      Act.assign name [letter]
      Act.modifyFrame fun frame =>
        { frame with
          optionIndex := entered + 1
          optionOffset := rest.map fun rest => (words.getD (entered - 1) []).length - rest.length }
      return status
    match found with
    | .finish => settle '?' entered none 1
    | .letter c rest =>
      match letterIn (if isQuiet then description.drop 1 else description) c with
      | .unknown =>
        if isQuiet then Act.assign textName [c]
        else
          Act.writeError (Raw.ofString "Illegal option -" ++ [c, '\n'])
          Act.unassign textName
        settle '?' entered (some rest) 0
      | .alone =>
        Act.assign textName []
        settle c entered (some rest) 0
      | .withText =>
        match rest, words[entered]? with
        | [], none =>
          if isQuiet then
            Act.assign textName [c]
            settle ':' entered (some []) 0
          else
            Act.writeError (Raw.ofString "No arg for -" ++ [c] ++ Raw.ofString " option\n")
            Act.unassign textName
            settle '?' entered (some []) 0
        | [], some text =>
          Act.assign textName text
          settle c (entered + 1) none 0
        | rest, _ =>
          Act.assign textName rest
          settle c entered none 0
  | _ => Act.fail (Raw.ofString "Usage: getopts optstring var [arg]")

end EditorBridge.Shell.Builtin
