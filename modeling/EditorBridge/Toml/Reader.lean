import EditorBridge.Toml.Table
import EditorBridge.Toml.Number

/-!
# Reading a settings document

The text is read statement by statement: a blank or commented line, a value under a dotted key, or
a header. The statements are then assembled into one table. `none` stands for a text that is no
document.
-/

namespace EditorBridge.Toml

/-! ### Between the values -/

/-- Drops the blanks at the front. -/
def skipSpace (text : List Char) : List Char := text.dropWhile isSpace

/-- Passes a comment, if one starts here, up to the end of its line. -/
def skipComment : List Char → List Char
  | '#' :: rest => rest.dropWhile isPlain
  | text => text

/-- Passes the end of a line. -/
def lineEnd? : List Char → Option (List Char)
  | [] => some []
  | '\n' :: rest => some rest
  | '\r' :: '\n' :: rest => some rest
  | _ => none

/-- Passes blanks, a comment and the end of the line. -/
def restOfLine? (text : List Char) : Option (List Char) :=
  lineEnd? (skipComment (skipSpace text))

/-- Passes blanks, line breaks and comments inside an array. -/
def skipLines? (text : List Char) : Option (List Char) :=
  match skipSpace text with
  | '\n' :: rest => if rest.length < text.length then skipLines? rest else none
  | '\r' :: '\n' :: rest => if rest.length < text.length then skipLines? rest else none
  | '\r' :: _ => none
  | '#' :: rest =>
    match rest.dropWhile isPlain with
    | '\n' :: rest => if rest.length < text.length then skipLines? rest else none
    | '\r' :: '\n' :: rest => if rest.length < text.length then skipLines? rest else none
    | _ => none
  | rest => some rest
termination_by text.length

/-! ### Keys -/

/-- A character of a key without quotes. -/
def isBare (c : Char) : Bool := c.isAlphanum || c == '_' || c == '-'

/-- Reads one part of a key. -/
def keyPart (text : List Char) : Option (String × List Char) :=
  match text with
  | '"' :: _ | '\'' :: _ => lineString text
  | _ =>
    let name := text.takeWhile isBare
    if name.isEmpty then none else some (String.ofList name, text.dropWhile isBare)

/-- The number of parts from which on a key is refused, and of values within each other. -/
def nestingLimit : Nat := 80

/-- Reads a dotted key with the blanks around its parts. -/
def dottedKey (text : List Char) : Option (List String × List Char) :=
  match keyPart (skipSpace text) with
  | none => none
  | some (part, rest) =>
    match skipSpace rest with
    | '.' :: rest =>
      if rest.length < text.length then
        (dottedKey rest).map fun (parts, rest) => (part :: parts, rest)
      else none
    | rest => some ([part], rest)
termination_by text.length

/-- Reads a dotted key as the path to a table and a name in it. -/
def keyPath (text : List Char) : Option ((List String × String) × List Char) := do
  let (parts, rest) ← dottedKey text
  let key ← parts.getLast?
  if parts.length < nestingLimit then return ((parts.dropLast, key), rest) else none

/-! ### Values -/

/-- Reads the items of an array and its closing bracket. -/
def arrayItems (item : Reader Value) (text : List Char) : Option (List Value × List Char) :=
  match skipLines? text with
  | none => none
  | some (']' :: rest) => some ([], rest)
  | some start =>
    match item start with
    | none => none
    | some (value, rest) =>
      match skipLines? rest with
      | some (',' :: rest) =>
        if rest.length < text.length then
          (arrayItems item rest).map fun (values, rest) => (value :: values, rest)
        else none
      | some (']' :: rest) => some ([value], rest)
      | _ => none
termination_by text.length

/-- Reads a key, the equals sign and a value. -/
def pair (value : Reader Value) (text : List Char) : Option (Pair × List Char) := do
  let ((path, key), rest) ← keyPath text
  let (value, rest) ← value (skipSpace (← expect '=' rest))
  return (⟨path, key, value⟩, rest)

/-- Reads the pairs of an inline table, of which there is at least one, and its closing brace. -/
def inlinePairs (value : Reader Value) (text : List Char) : Option (List Pair × List Char) :=
  match pair value text with
  | none => none
  | some (first, rest) =>
    match skipSpace rest with
    | ',' :: rest =>
      if rest.length < text.length then
        (inlinePairs value rest).map fun (pairs, rest) => (first :: pairs, rest)
      else none
    | '\x7d' :: rest => some ([first], rest)
    | _ => none
termination_by text.length

/-- Reads an inline table behind its opening brace. -/
def inlineTable (value : Reader Value) (text : List Char) : Option (Value × List Char) :=
  match skipSpace text with
  | '\x7d' :: rest => some (.table [], rest)
  | start => do
    let (pairs, rest) ← inlinePairs value start
    return (.table (← tableOf? pairs), rest)

/-- Reads a value without others inside. -/
def scalar (text : List Char) : Option (Value × List Char) :=
  match text with
  | '"' :: _ | '\'' :: _ => (anyString text).map fun (text, rest) => (.string text, rest)
  | 't' :: 'r' :: 'u' :: 'e' :: rest => some (.boolean true, rest)
  | 'f' :: 'a' :: 'l' :: 's' :: 'e' :: rest => some (.boolean false, rest)
  | _ => momentOrNumber text

/-- Reads a value with at most `depth` others around it. -/
def value : (depth : Nat) → Reader Value
  | 0, text => scalar text
  | depth + 1, text =>
    match text with
    | '[' :: rest => (arrayItems (value depth) rest).map fun (items, rest) => (.array items, rest)
    | '\x7b' :: rest => inlineTable (value depth) rest
    | _ => scalar text

/-- Reads any value. -/
def anyValue : Reader Value := value (nestingLimit - 1)

/-! ### Statements -/

/-- What one line of a document says, several lines when a value spans them. -/
inductive Statement where
  | blank
  | pair (pair : Pair)
  | header (path : List String) (key : String) (isElement : Bool)

/-- Reads a header up to the end of its line. -/
def header (isElement : Bool) (text : List Char) : Option (Statement × List Char) := do
  let ((path, key), rest) ← keyPath text
  let rest ← expect ']' rest
  let rest ← if isElement then expect ']' rest else some rest
  return (.header path key isElement, ← restOfLine? rest)

/-- Reads a statement up to the end of its line. -/
def statement (text : List Char) : Option (Statement × List Char) :=
  match skipSpace text with
  | '[' :: '[' :: rest => header true rest
  | '[' :: rest => header false rest
  | start =>
    match restOfLine? start with
    | some rest => some (.blank, rest)
    | none => do
      let (found, rest) ← pair anyValue start
      return (.pair found, ← restOfLine? rest)

/-- Reads statements to the end. -/
def statements (text : List Char) : Option (List Statement) :=
  if text.isEmpty then some []
  else
    match statement text with
    | none => none
    | some (first, rest) =>
      if rest.length < text.length then (statements rest).map (first :: ·) else none
termination_by text.length

/-- The pairs before the first header, and each header with the pairs below it. -/
def group : List Statement → List Pair × List Section
  | [] => ([], [])
  | .blank :: rest => group rest
  | .pair pair :: rest =>
    let (pairs, sections) := group rest
    (pair :: pairs, sections)
  | .header path key isElement :: rest =>
    let (pairs, sections) := group rest
    ([], ⟨path, key, isElement, pairs⟩ :: sections)

/-- Drops a byte order mark. -/
def dropMark : List Char → List Char
  | '\uFEFF' :: rest => rest
  | text => text

/-- The table that a document says. -/
def read? (text : String) : Option Table := do
  let (pairs, sections) := group (← statements (dropMark text.toList))
  documentTable? pairs sections

end EditorBridge.Toml
