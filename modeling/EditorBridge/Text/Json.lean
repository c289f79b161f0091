import EditorBridge.Text.Quoted

/-!
# JSON lines

Values written on one line without blanks. Text is written between double quotes: quotes,
backslashes and control characters are escaped, everything else stands for itself.
-/

namespace EditorBridge.Text.Json

/-- The absent value. -/
def null : String := "null"

/-- The four digits of a control character's number. -/
def fourDigits (n : Nat) : List Char :=
  ['0', '0', hexDigit (n / 16 % 16), hexDigit (n % 16)]

/-- A character as it stands between the quotes. -/
def textChar (c : Char) : List Char :=
  match c with
  | '"' => ['\\', '"']
  | '\\' => ['\\', '\\']
  | '\x08' => ['\\', 'b']
  | '\t' => ['\\', 't']
  | '\n' => ['\\', 'n']
  | '\x0C' => ['\\', 'f']
  | '\r' => ['\\', 'r']
  | c => if c.toNat < 0x20 then '\\' :: 'u' :: fourDigits c.toNat else [c]

/-- A text value. -/
def text (value : String) : String :=
  String.ofList ('"' :: value.toList.flatMap textChar ++ ['"'])

/-- A text value that may be absent. -/
def text? : Option String → String
  | some value => text value
  | none => null

/-- A list of written values. -/
def list (values : List String) : String := "[" ++ ",".intercalate values ++ "]"

/-- An object of names and written values. -/
def object (fields : List (String × String)) : String :=
  "\x7b" ++ ",".intercalate (fields.map fun (name, value) => text name ++ ":" ++ value) ++ "\x7d"

end EditorBridge.Text.Json
