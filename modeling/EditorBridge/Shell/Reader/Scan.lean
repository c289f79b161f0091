import EditorBridge.Shell.Reader.Problem

/-!
# Scanning a script

The place in a script that has been read up to, and the steps from one character to the next. A
backslash in front of a line end joins two lines, so that both characters are passed over.
-/

namespace EditorBridge.Shell

/-- A text that stands in the script behind the line that asks for it. -/
structure AwaitedDocument where
  index : Nat
  delimiter : Raw
  /-- Nothing in the text is expanded. -/
  quoted : Bool
  stripTabs : Bool
  deriving DecidableEq, Repr

/-- An alias whose text is being read. -/
structure ActiveAlias where
  name : Raw
  /-- The length of what follows its text. -/
  remaining : Nat
  /-- The word behind it may be an alias as well. -/
  goesOn : Bool
  deriving DecidableEq, Repr

/-- How far a script has been read. -/
structure Scan where
  rest : Raw
  line : Nat
  /-- The last token that was read. -/
  last : Token
  /-- The last token counts as not yet read. -/
  held : Bool
  aliases : List (Raw × Raw)
  active : List ActiveAlias
  /-- The texts that stand behind the next line end. -/
  awaited : List AwaitedDocument
  /-- The number of texts that were asked for. -/
  asked : Nat
  /-- The texts that were found, by number. -/
  found : List (Nat × Word)
  /-- The texts that are known from an earlier reading. -/
  known : List (Nat × Word)

/-- A script that has not been read. -/
def Scan.start (script : Raw) : Scan where
  rest := script
  line := 1
  last := .finish
  held := false
  aliases := []
  active := []
  awaited := []
  asked := 0
  found := []
  known := []

/-- Reads from a script. -/
abbrev Reader := StateT Scan (Except Refusal)

namespace Reader

/-- Refuses the script on the line that has been read up to. -/
def refuse {α : Type} (problem : Problem) : Reader α := do throw ⟨problem, (← get).line⟩

/-- Passes over joined line ends; the first part is their number. -/
def dropJoins : Raw → Nat × Raw
  | '\\' :: '\n' :: rest =>
    let (count, rest) := dropJoins rest
    (count + 1, rest)
  | raw => (0, raw)

/-- The next character. -/
def peek : Reader (Option Char) := do
  let scan ← get
  match scan.rest with
  | '\\' :: '\n' :: _ =>
    let (count, rest) := dropJoins scan.rest
    set { scan with rest := rest, line := scan.line + count }
    return rest.head?
  | rest => return rest.head?

/-- Passes over the next character as it stands. -/
def skip : Reader Unit :=
  modify fun scan =>
    match scan.rest with
    | [] => scan
    | c :: rest => { scan with rest := rest, line := if c == '\n' then scan.line + 1 else scan.line }

/-- Takes the next character. -/
def take : Reader (Option Char) := do
  let c ← peek
  skip
  return c

/-- Takes the next character as it stands, even in front of a line end. -/
def takeAny : Reader (Option Char) := do
  let c := (← get).rest.head?
  skip
  return c

/-- Puts a character back. -/
def putBack (c : Char) : Reader Unit :=
  modify fun scan =>
    { scan with rest := c :: scan.rest, line := if c == '\n' then scan.line - 1 else scan.line }

/-- Takes the next character if it is the one that is wanted. -/
def takeIf (wanted : Char) : Reader Bool := do
  if (← peek) == some wanted then
    skip
    return true
  else return false

/-- Takes characters as long as they pass; the fuel is their greatest number. -/
def takeWhile (passes : Char → Bool) : Nat → Reader Raw
  | 0 => return []
  | fuel + 1 => do
    match ← peek with
    | some c =>
      if passes c then
        skip
        return c :: (← takeWhile passes fuel)
      else return []
    | none => return []

/-- The number of characters that are left. -/
def remaining : Reader Nat := return (← get).rest.length

/-- Reads another text in the stead of the script, and then goes on with the script. -/
def within {α : Type} (text : Raw) (reader : Reader α) : Reader α := do
  let outer ← get
  set { outer with rest := text, line := 1, held := false, active := [] }
  let result ← reader
  modify fun inner =>
    { inner with rest := outer.rest, line := outer.line, held := false, active := outer.active }
  return result

/-- Reads a part of the script whose texts stand in it. -/
def withOwnDocuments {α : Type} (reader : Reader α) : Reader α := do
  let outer := (← get).awaited
  modify fun scan => { scan with awaited := [] }
  let result ← reader
  modify fun scan => { scan with awaited := outer }
  return result

end Reader

end EditorBridge.Shell
