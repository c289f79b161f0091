import EditorBridge.Decimal.Places
import EditorBridge.Shell.Printing.Escape

/-!
# Names in messages

How the messages of programs show the names of files, so that a shell would read them back, and other
texts. Unprintable bytes are shown by a letter or by their number.
-/

namespace EditorBridge.Shell.Tools

/-- A character that is shown as it stands. -/
def isPrintable (c : Char) : Bool := ' ' ≤ c && c ≤ '~'

/-- The escape of a character: a letter, or three octal digits. -/
def escapeOf (c : Char) : Raw :=
  let letter? := "abfnrtv".toList.find? fun letter => Printing.escape? letter == some c
  match letter? with
  | some letter => ['\\', letter]
  | none => '\\' :: Decimal.padLeft 3 (digitsOf 8 c.toNat)

/-- A text between plain quotes. -/
def quoted (raw : Raw) : Raw :=
  '\'' :: (raw.flatMap fun c =>
    if c == '\'' || c == '\\' then ['\\', c] else if isPrintable c then [c] else escapeOf c) ++ ['\'']

/-- A character that a shell reads as itself, wherever it stands. -/
def isHarmless (c : Char) : Bool := isNameChar c || "%+,-./:@]".contains c

/-- A character that means something at the start of a word only. -/
def isInitial (c : Char) : Bool := c == '#' || c == '~'

/-- A brace; it means something when it stands alone. -/
def isBrace (c : Char) : Bool := c == '\x7b' || c == '\x7d'

/-- The character at a place in a text makes quotes necessary. -/
def needsQuotes (raw : Raw) (place : Nat) (c : Char) : Bool :=
  if isHarmless c then c == ':'
  else if isInitial c then place == 0
  else if isBrace c then raw.length == 1
  else true

/-- The character at a place in a text may stand between double quotes. -/
def suitsDoubleQuotes (raw : Raw) (place : Nat) (c : Char) : Bool :=
  isHarmless c || c == ' ' || c == '\'' || (isInitial c && place == 0) ||
    (isBrace c && raw.length == 1)

/-- A text between single quotes. `isEscaped` says that escapes have just been written. -/
def quotedBody (isEscaped : Bool) : Raw → Raw
  | [] => ['\'']
  | c :: rest =>
    if c == '\'' then '\'' :: '\\' :: '\'' :: '\'' :: quotedBody false rest
    else if isPrintable c then
      (if isEscaped then ['\'', '\''] else []) ++ c :: quotedBody false rest
    else (if isEscaped then [] else ['\'', '$', '\'']) ++ escapeOf c ++ quotedBody true rest

/-- The name of a file in quotes. -/
def quotedName (raw : Raw) : Raw :=
  if raw.contains '\'' && raw.zipIdx.all fun (c, place) => suitsDoubleQuotes raw place c then
    '"' :: raw ++ ['"']
  else '\'' :: quotedBody false raw

/-- The name of a file, in quotes only where that is necessary. -/
def shownName (raw : Raw) : Raw :=
  if raw.isEmpty || raw.zipIdx.any fun (c, place) => needsQuotes raw place c then quotedName raw
  else raw

end EditorBridge.Shell.Tools
