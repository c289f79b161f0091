import EditorBridge.Shell.Reader.Word

/-!
# Reading tokens

A script as words, operators, redirections and line ends. What a word counts as depends on its place:
where a command can start it may be a reserved word, or an alias, whose text is read in its stead.
-/

namespace EditorBridge.Shell.Reader

/-- What a token may be at its place, besides a word or an operator. -/
structure Expected where
  /-- Line ends in front of it do not count. -/
  newlines : Bool := false
  reserved : Bool := false
  aliases : Bool := false
  /-- It is the delimiter of a text in the script. -/
  delimiter : Bool := false

/-- Where a command starts on the same line. -/
def Expected.command : Expected := { reserved := true, aliases := true }

/-- Where a command starts on this or a later line. -/
def Expected.laterCommand : Expected := { newlines := true, reserved := true, aliases := true }

/-- Drops blanks, joined lines and a comment; the first part is the number of joined lines. -/
def dropBlanks : Raw → Nat × Raw
  | ' ' :: rest => dropBlanks rest
  | '\t' :: rest => dropBlanks rest
  | '\\' :: '\n' :: rest =>
    let (count, rest) := dropBlanks rest
    (count + 1, rest)
  | '#' :: rest => (0, rest.dropWhile (· != '\n'))
  | rest => (0, rest)

/-- Passes over blanks. -/
def skipBlanks : Reader Unit :=
  modify fun scan =>
    let (count, rest) := dropBlanks scan.rest
    { scan with rest := rest, line := scan.line + count }

/-- Forgets the aliases whose texts have been read; the answer says whether the next word may be an
alias because of one of them. -/
def leaveAliases : Reader Bool := do
  let scan ← get
  let length := scan.rest.length
  let ended (one : ActiveAlias) : Bool := decide (length ≤ one.remaining)
  set { scan with active := scan.active.filter (!ended ·) }
  return scan.active.any fun one => ended one && one.goesOn

/-- Reads the operator of a redirection, of which the next character is the first one. -/
def redirectionToken (descriptor : Option Nat) : Reader Token := do
  if ← takeIf '>' then
    let opening ←
      if ← takeIf '>' then pure (Opening.file .append)
      else if ← takeIf '|' then pure (.file .clobber)
      else if ← takeIf '&' then pure .duplicate
      else pure (.file .output)
    return .redirect (descriptor.getD 1) opening
  else
    skip
    let opening ←
      if ← takeIf '<' then pure (Opening.document (← takeIf '-'))
      else if ← takeIf '&' then pure .duplicate
      else if ← takeIf '>' then pure (.file .both)
      else pure (.file .input)
    return .redirect (descriptor.getD 0) opening

/-- Reads a word, or a redirection when the word is the number of its descriptor. -/
def wordToken (commands : Commands) (delimiter : Bool) : Reader Token := do
  let word ← if delimiter then delimiterWord commands else word commands
  let c ← peek
  if c == some '<' || c == some '>' then
    match word with
    | [] => redirectionToken none
    | [.text [digit] false] =>
      if Decimal.isDigit digit then redirectionToken (some (Decimal.digitValue digit))
      else return .word word
    | word => return .word word
  else return .word word

/-- Reads the token at this place. -/
def tokenHere (commands : Commands) (delimiter : Bool) : Reader Token := do
  let either (second : Char) (double single : Operator) : Reader Token := do
    skip
    return .operator (if ← takeIf second then double else single)
  match ← peek with
  | none => return .finish
  | some '\n' =>
    skip
    return .newline
  | some '&' => either '&' .bothOf .ampersand
  | some '|' => either '|' .eitherOf .bar
  | some ';' => either ';' .doubleSemicolon .semicolon
  | some '(' =>
    skip
    return .operator .openParenthesis
  | some ')' =>
    skip
    return .operator .closeParenthesis
  | some _ => wordToken commands delimiter

/-- Reads the next token, or the one that was held; the second part says whether a word may be an
alias behind the text of another. -/
def nextToken (commands : Commands) (delimiter : Bool) : Reader (Token × Bool) := do
  let scan ← get
  if scan.held then
    set { scan with held := false }
    return (scan.last, false)
  else
    skipBlanks
    let mayBeAlias ← leaveAliases
    let token ← tokenHere commands delimiter
    modify fun scan => { scan with last := token }
    return (token, mayBeAlias)

/-- Holds the last token. -/
def hold : Reader Unit := modify fun scan => { scan with held := true }

/-- Reads the texts that stand behind a line end. -/
def documents (commands : Commands) : Reader Unit := do
  let awaited := (← get).awaited
  modify fun scan => { scan with awaited := [] }
  awaited.forM fun one => do
    let body ← document commands one
    modify fun scan => { scan with found := (one.index, body) :: scan.found }

/-- The text of an alias, unless it is being read. -/
def aliasText? (scan : Scan) (name : Raw) : Option Raw :=
  if scan.active.any (·.name == name) then none else scan.aliases.lookup name

/-- Puts the text of an alias in front of the script. -/
def enterAlias (name text : Raw) : Reader Unit :=
  modify fun scan =>
    let goesOn := text.getLast?.any fun c => c == ' ' || c == '\t'
    { scan with
      rest := text ++ scan.rest
      active := ⟨name, scan.rest.length, goesOn⟩ :: scan.active }

/-- Reads a token as what it is at its place. The fuel is more than the number of tokens. -/
def tokenAs (commands : Commands) (expected : Expected) : Nat → Reader Token
  | 0 => return .finish
  | fuel + 1 => do
    let (token, mayBeAlias) ← nextToken commands expected.delimiter
    let scan ← get
    match token with
    | .newline =>
      if expected.newlines then
        documents commands
        tokenAs commands expected fuel
      else return token
    | .word word =>
      match word.plain? with
      | none => return token
      | some raw =>
        match if expected.reserved then Reserved.ofText? raw else none with
        | some reserved =>
          modify fun scan => { scan with last := .reserved reserved }
          return .reserved reserved
        | none =>
          match if expected.aliases || mayBeAlias then aliasText? scan raw else none with
          | some text =>
            enterAlias raw text
            tokenAs commands expected fuel
          | none => return token
    | token => return token

/-- The most alias texts in front of one token. -/
def mostAliases : Nat := 1000

/-- Reads a token as what it is at its place. -/
def token (commands : Commands) (expected : Expected) : Reader Token := do
  tokenAs commands expected ((← remaining) + mostAliases)

/-- Refuses the last token; another one was wanted. -/
def unexpected {α : Type} (wanted : Option Token) : Reader α := do
  refuse (.unexpected (← get).last.describe (wanted.map Token.describe))

end EditorBridge.Shell.Reader
