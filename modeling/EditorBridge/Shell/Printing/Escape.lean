import EditorBridge.Shell.Numeral

/-!
# Escapes

What stands behind a backslash in texts that are printed: a letter for a control character, or the
number of a byte.
-/

namespace EditorBridge.Shell.Printing

/-- An octal digit. -/
def isOctal (c : Char) : Bool := isDigitOf 8 c

/-- The character of a number, of which one byte counts. -/
def byte (n : Nat) : Char := Char.ofNat (n % 256)

/-- The character of a letter behind a backslash. -/
def escape? : Char → Option Char
  | 'a' => some '\x07'
  | 'b' => some '\x08'
  | 'e' => some '\x1B'
  | 'f' => some '\x0C'
  | 'n' => some '\n'
  | 'r' => some '\r'
  | 't' => some '\t'
  | 'v' => some '\x0B'
  | '\\' => some '\\'
  | _ => none

/-- The digits of a base at the start of a text, at most as many as are given. -/
def digitsAt (base count : Nat) (raw : Raw) : Raw := (raw.take count).takeWhile (isDigitOf base)

/-- What the text behind a backslash stands for, and what follows it. Octal numbers have at most
three digits. -/
def afterBackslash (raw : Raw) : Raw × Raw :=
  match raw with
  | [] => (['\\'], [])
  | c :: rest =>
    if isOctal c then
      let digits := digitsAt 8 3 raw
      ([byte (valueOf 8 digits)], raw.drop digits.length)
    else match escape? c with
      | some d => ([d], rest)
      | none => (['\\', c], rest)

/-- Reads the escapes of an argument, in which a zero goes before octal numbers and `\c` ends all
output. The second part says whether output goes on. The fuel is the length of the text. -/
def unescape : Nat → Raw → Raw × Bool
  | 0, _ | _, [] => ([], true)
  | _ + 1, '\\' :: 'c' :: _ => ([], false)
  | fuel + 1, '\\' :: '0' :: rest =>
    let digits := digitsAt 8 3 rest
    let (after, more) := unescape fuel (rest.drop digits.length)
    (byte (valueOf 8 digits) :: after, more)
  | fuel + 1, '\\' :: rest =>
    let (found, rest) := afterBackslash rest
    let (after, more) := unescape fuel rest
    (found ++ after, more)
  | fuel + 1, c :: rest =>
    let (after, more) := unescape fuel rest
    (c :: after, more)

/-- The line of some arguments with their escapes read. -/
def escapedLine (newline : Bool) (arguments : List Raw) : Raw :=
  let line := [' '].intercalate arguments
  let (text, more) := unescape line.length line
  if newline && more then text ++ ['\n'] else text

end EditorBridge.Shell.Printing
