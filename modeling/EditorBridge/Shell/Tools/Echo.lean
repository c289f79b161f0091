import EditorBridge.Shell.Tools.Options

/-!
# Echoing

The program that prints its arguments on a line. Options in front of them leave out the line end, or
make backslashes count.
-/

namespace EditorBridge.Shell.Tools.Echo

open Printing

/-- How the arguments are printed. -/
structure Style where
  escapes : Bool := false
  newline : Bool := true
  deriving DecidableEq, Repr

/-- The style with the letters of an option. -/
def Style.add (style : Style) (letters : Raw) : Style :=
  letters.foldl
    (fun style letter =>
      match letter with
      | 'n' => { style with newline := false }
      | 'e' => { style with escapes := true }
      | _ => { style with escapes := false })
    style

/-- Reads the options in front of the arguments. -/
def optionsOf (style : Style) : List Raw → Style × List Raw
  | ('-' :: c :: letters) :: rest =>
    if (c :: letters).all fun letter => "neE".contains letter then
      optionsOf (style.add (c :: letters)) rest
    else (style, ('-' :: c :: letters) :: rest)
  | rest => (style, rest)

/-- Reads the escapes of an argument. The second part says whether output goes on. The fuel is the
length of the text. -/
def unescape : Nat → Raw → Raw × Bool
  | 0, _ | _, [] => ([], true)
  | _ + 1, ['\\'] => (['\\'], true)
  | fuel + 1, '\\' :: c :: rest =>
    let behind (text rest : Raw) : Raw × Bool :=
      let (after, more) := unescape fuel rest
      (text ++ after, more)
    if c == 'c' then ([], false)
    else if c == 'x' then
      let digits := digitsAt 16 2 rest
      if digits.isEmpty then behind ['\\', 'x'] rest
      else behind [byte (valueOf 16 digits)] (rest.drop digits.length)
    else if isOctal c then
      let body := if c == '0' then rest else c :: rest
      let digits := digitsAt 8 3 body
      behind [byte (valueOf 8 digits)] (body.drop digits.length)
    else match escape? c with
      | some d => behind [d] rest
      | none => behind ['\\', c] rest
  | fuel + 1, c :: rest =>
    let (after, more) := unescape fuel rest
    (c :: after, more)

/-- The line of some arguments with their escapes read. -/
def escaped (newline : Bool) : List Raw → Raw
  | [] => if newline then ['\n'] else []
  | argument :: rest =>
    let (text, more) := unescape argument.length argument
    if !more then text
    else text ++ (if rest.isEmpty then [] else [' ']) ++ escaped newline rest

/-- Prints the arguments. -/
def perform (_program : Raw) (arguments : List Raw) : Act Nat := do
  let isHelp := match arguments with
    | [argument] => argument == Raw.ofString "--help" || argument == Raw.ofString "--version"
    | _ => false
  if isHelp then return 0
  else
    let (style, rest) := optionsOf {} arguments
    Act.print <|
      if style.escapes then escaped style.newline rest
      else [' '].intercalate rest ++ if style.newline then ['\n'] else []
    return 0

end EditorBridge.Shell.Tools.Echo
