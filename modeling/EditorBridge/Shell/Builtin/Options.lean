import EditorBridge.Shell.Variables

/-!
# Options of builtins

The letters behind a minus in front of the arguments of a builtin. A letter can ask for a text, which
is the rest of its argument or the next one. A letter that there is not makes the builtin fail.
-/

namespace EditorBridge.Shell.Builtin

/-- What a letter of an option may be. -/
inductive Letter where
  | unknown
  | alone
  | withText
  deriving DecidableEq, Repr

/-- What the description of options says about a letter; a colon follows the letters with a text. -/
def letterIn (description : Raw) (c : Char) : Letter :=
  match description.dropWhile (· != c) with
  | _ :: ':' :: _ => if c == ':' then .unknown else .withText
  | _ :: _ => if c == ':' then .unknown else .alone
  | [] => .unknown

/-- The letters in one argument, each with its text, and the arguments behind it. -/
def lettersOf (description : Raw) (arguments : List Raw) :
    Raw → Act (List (Char × Raw) × List Raw)
  | [] => return ([], arguments)
  | c :: rest => do
    match letterIn description c with
    | .unknown => Act.fail (Raw.ofString "Illegal option -" ++ [c])
    | .alone =>
      let (found, arguments) ← lettersOf description arguments rest
      return ((c, []) :: found, arguments)
    | .withText =>
      match rest, arguments with
      | [], [] => Act.fail (Raw.ofString "No arg for -" ++ [c] ++ Raw.ofString " option")
      | [], text :: arguments => return ([(c, text)], arguments)
      | text, arguments => return ([(c, text)], arguments)

/-- The options in front of the arguments, and the arguments behind them. The fuel is more than the
number of arguments. -/
def optionsWithin (description : Raw) : Nat → List Raw → Act (List (Char × Raw) × List Raw)
  | 0, arguments => return ([], arguments)
  | fuel + 1, arguments =>
    match arguments with
    | ['-', '-'] :: rest => return ([], rest)
    | ('-' :: c :: letters) :: rest => do
      let (first, rest) ← lettersOf description rest (c :: letters)
      let (others, rest) ← optionsWithin description fuel rest
      return (first ++ others, rest)
    | arguments => return ([], arguments)

/-- The options in front of the arguments, and the arguments behind them. -/
def options (description : String) (arguments : List Raw) : Act (List (Char × Raw) × List Raw) :=
  optionsWithin description.toList (arguments.length + 1) arguments

/-- The arguments behind the options, of which there are none. -/
def operands (arguments : List Raw) : Act (List Raw) := do
  return (← options "" arguments).2

end EditorBridge.Shell.Builtin
