import EditorBridge.Shell.Reader.Scan

/-!
# Reading words

A word goes up to a blank or an operator. Quotes take away the special meaning of characters, and a
dollar sign or a backquote starts an expansion, inside which words, commands and expressions are read
by their own rules. A text that stands in the script is read like a word between double quotes.
-/

namespace EditorBridge.Shell.Reader

/-- What ends a text. -/
inductive Ending where
  /-- A blank, a line end or an operator. -/
  | boundary
  | quote
  | brace
  | parentheses
  /-- The delimiter of a text in the script. -/
  | delimiter
  deriving DecidableEq, Repr

/-- How characters count in a text. -/
structure Setting where
  ending : Ending
  /-- Characters count as between double quotes. -/
  quoted : Bool := false
  /-- The braces of an expansion are open around the text. -/
  braced : Bool := false
  /-- Dollar signs and backquotes count as themselves. -/
  plain : Bool := false
  /-- The text in the script that this is a part of. -/
  document : Option AwaitedDocument := none
  deriving DecidableEq, Repr

/-- Reads the commands of an expansion: up to the closing parenthesis, or all there are. -/
structure Commands where
  parenthesized : Reader Command
  whole : Reader Command

/-- A character that ends a word. -/
def isBoundary (c : Char) : Bool :=
  c == ' ' || c == '\t' || c == '\n' || c == ';' || c == '&' || c == '|' || c == '<' ||
    c == '>' || c == '(' || c == ')'

/-- A parameter that is named by a character of its own. -/
def isSpecialName (c : Char) : Bool :=
  c == '@' || c == '*' || c == '#' || c == '?' || c == '-' || c == '$' || c == '!' ||
    Decimal.isDigit c

/-! ### Pieces that have been read, the last one first, each text backwards -/

/-- Adds a character. -/
def addChar (c : Char) (quoted : Bool) : Word → Word
  | .text raw other :: rest =>
    if quoted == other then .text (c :: raw) quoted :: rest
    else .text [c] quoted :: .text raw other :: rest
  | word => .text [c] quoted :: word

/-- Adds characters. -/
def addText (raw : Raw) (quoted : Bool) (word : Word) : Word :=
  raw.foldl (fun word c => addChar c quoted word) word

/-- Adds finished pieces. -/
def addPieces (pieces : Word) (word : Word) : Word :=
  pieces.foldl
    (fun word piece =>
      match piece with
      | .text raw quoted => addText raw quoted word
      | piece => piece :: word)
    word

/-- The pieces in their order. -/
def finished (word : Word) : Word :=
  (word.map fun
    | .text raw quoted => .text raw.reverse quoted
    | piece => piece).reverse

/-- What quotes leave: a mark and what stood between them. The parameters alone make as many words as
there are, even none. -/
def quotedPieces (inner : Word) : Word :=
  match inner with
  | [.parameter ['@'] .plain true] => inner
  | inner => .mark :: inner

/-! ### Texts in the script -/

/-- The text behind the delimiter line, if the delimiter stands here. -/
def behindDelimiter? (document : AwaitedDocument) (raw : Raw) : Option Raw :=
  let body := if document.stripTabs then raw.dropWhile (· == '\t') else raw
  if document.delimiter.isPrefixOf body then
    match body.drop document.delimiter.length with
    | [] => some []
    | '\n' :: rest => some rest
    | _ => none
  else none

/-- At the start of a line, passes over the delimiter of the text, or over tabs that do not count.
The answer says whether the text is at its end. -/
def atDelimiter (setting : Setting) : Reader Bool := do
  match setting.document with
  | none => return false
  | some document =>
    let scan ← get
    match behindDelimiter? document scan.rest with
    | some rest =>
      set { scan with rest := rest, line := scan.line + 1 }
      return true
    | none =>
      if document.stripTabs then
        set { scan with rest := scan.rest.dropWhile (· == '\t') }
      return false

/-- The end of the script, or of the text in it, inside something that is not closed. -/
def endHere (setting : Setting) (word : Word) : Reader Word :=
  match setting.ending with
  | .boundary | .delimiter => return finished word
  | .parentheses => refuse .missingParentheses
  | .quote | .brace =>
    if setting.quoted && setting.document.isNone then refuse .unterminatedQuote
    else refuse .missingBrace

/-- The lines up to the delimiter. -/
def documentLines (document : AwaitedDocument) : Nat → Raw → Reader Raw
  | 0, found => return found
  | fuel + 1, found => do
    if ← atDelimiter { ending := .delimiter, document := some document } then return found
    else
      let scan ← get
      let line := scan.rest.takeWhile (· != '\n')
      match scan.rest.drop line.length with
      | [] =>
        set { scan with rest := [] }
        return found ++ line
      | _ :: rest =>
        set { scan with rest := rest, line := scan.line + 1 }
        documentLines document fuel (found ++ line ++ ['\n'])

/-! ### Expansions -/

/-- The rest of a name in front of which characters were taken. -/
def nameRest : Reader Raw := do takeWhile isNameChar (← remaining)

/-- The first character behind the name of a parameter says how it is used; the word of that use is
still to be read. -/
inductive UseStart where
  | done (use : Use)
  | word (unquotes : Bool) (use : Word → Use)

/-- The fallback of a character. -/
def fallback? : Char → Option Fallback
  | '-' => some .substitute
  | '=' => some .assign
  | '?' => some .refuse
  | '+' => some .replace
  | _ => none

/-- Reads how a parameter is used, behind its name. -/
def useStart : Reader UseStart := do
  let unknown : UseStart := .word false fun _ => .unknown
  let ofFallback (emptyToo : Bool) : Option Char → UseStart
    | some '\x7d' => .done .plain
    | some c =>
      match fallback? c with
      | some action => .word false (.fallback emptyToo action)
      | none => unknown
    | none => unknown
  match ← take with
  | some ':' => return ofFallback true (← take)
  | some '%' => return .word true (.strip true (← takeIf '%'))
  | some '#' => return .word true (.strip false (← takeIf '#'))
  | c => return ofFallback false c

/-- Goes on behind a name whose length is asked for. -/
def lengthStart : Reader UseStart := do
  match ← peek with
  | some '\x7d' => return .word false fun _ => .length
  | _ => return .word false fun _ => .unknown

/-- Reads the name of a parameter behind an opening brace, and how it is used. -/
def bracedStart : Reader (Raw × UseStart) := do
  let unknown : UseStart := .word false fun _ => .unknown
  let named (c : Char) : Reader Raw := do
    if isNameStart c then return c :: (← nameRest)
    else return c :: (← takeWhile Decimal.isDigit (← remaining))
  match ← take with
  | none => return ([], unknown)
  | some '\x7d' =>
    putBack '\x7d'
    return ([], unknown)
  | some '#' =>
    match ← take with
    | none => return (['#'], unknown)
    | some c =>
      if isNameStart c || Decimal.isDigit c then
        let name ← named c
        return (name, ← lengthStart)
      else if c == '\x7d' then return (['#'], .done .plain)
      else if (← peek) == some '\x7d' then
        if isSpecialName c then return ([c], ← lengthStart) else return ([], unknown)
      else
        putBack c
        return (['#'], ← useStart)
  | some c =>
    if isNameStart c || Decimal.isDigit c then
      let name ← named c
      return (name, ← useStart)
    else if isSpecialName c then return ([c], ← useStart)
    else return ([], unknown)

/-- The script up to the backquote that closes. The fuel is more than its length. -/
def backquoted (quoted : Bool) : Nat → Raw → Reader Raw
  | 0, _ => refuse .unterminatedBackquote
  | fuel + 1, found => do
    match ← take with
    | none => refuse .unterminatedBackquote
    | some '\x60' => return found.reverse
    | some '\\' =>
      match ← takeAny with
      | none => refuse .unterminatedBackquote
      | some c =>
        if c == '\\' || c == '\x60' || c == '$' || (quoted && c == '"') then
          backquoted quoted fuel (c :: found)
        else backquoted quoted fuel (c :: '\\' :: found)
    | some c => backquoted quoted fuel (c :: found)

/-! ### The pieces of a word -/

/-- The piece behind a dollar sign; the pieces inside braces and parentheses are read by `inner`. -/
def dollar (commands : Commands) (setting : Setting) (inner : Setting → Reader Word) :
    Reader Word := do
  let quoted := setting.quoted
  match ← peek with
  | some '(' =>
    skip
    if ← takeIf '(' then
      let source ← inner { setting with ending := .parentheses, quoted := true, braced := false }
      return [.arithmetic source quoted]
    else return [.command (← withOwnDocuments commands.parenthesized) quoted]
  | some '\x7b' =>
    skip
    let (name, start) ← bracedStart
    match start with
    | .done use => return [.parameter name use quoted]
    | .word unquotes use =>
      let word ← inner
        { setting with ending := .brace, braced := true, quoted := quoted && !unquotes }
      return [.parameter name (use word) quoted]
  | some c =>
    if isNameStart c then return [.parameter (← nameRest) .plain quoted]
    else if isSpecialName c then
      skip
      return [.parameter [c] .plain quoted]
    else return [.text ['$'] quoted]
  | none => return [.text ['$'] quoted]

/-- The pieces behind a backslash. -/
def escaped (setting : Setting) : Reader Word := do
  match ← takeAny with
  | none => return [.text ['\\'] true]
  | some c =>
    let counts := c == '\\' || c == '\x60' || c == '$' ||
      (c == '"' && (setting.document.isNone || setting.braced)) || (c == '\x7d' && setting.braced)
    return [.text (if setting.quoted && !counts then ['\\', c] else [c]) true]

/-- Reads the pieces of a text up to its end. The fuel is more than the length of the text, and
`depth` parentheses are open inside an expression. -/
def pieces (commands : Commands) : Nat → Setting → (depth : Nat) → Word → Reader Word
  | 0, setting, _, word => endHere setting word
  | fuel + 1, setting, depth, word => do
    let goOn (word : Word) : Reader Word := pieces commands fuel setting depth word
    match ← peek with
    | none => endHere setting word
    | some '\n' =>
      if setting.ending = .boundary then return finished word
      else
        skip
        let word := addChar '\n' setting.quoted word
        if ← atDelimiter setting then endHere setting word else goOn word
    | some '\\' =>
      skip
      goOn (addPieces (← escaped setting) word)
    | some '$' =>
      skip
      if setting.plain then goOn (addChar '$' false word)
      else
        goOn (addPieces
          (← dollar commands setting fun inner => pieces commands fuel inner 0 []) word)
    | some '\x60' =>
      skip
      if setting.plain then goOn (addChar '\x60' true word)
      else
        let script ← backquoted setting.quoted (← remaining).succ []
        let body ← within script (withOwnDocuments commands.whole)
        goOn (.command body setting.quoted :: word)
    | some '"' =>
      skip
      match setting.ending with
      | .quote => return finished word
      | .delimiter | .parentheses => goOn (addChar '"' setting.quoted word)
      | .boundary | .brace =>
        let inner ← pieces commands fuel { setting with ending := .quote, quoted := true } 0 []
        if setting.document.isSome then goOn (addPieces inner word)
        else goOn (addPieces (quotedPieces inner) word)
    | some '\'' =>
      skip
      if setting.quoted then goOn (addChar '\'' true word)
      else
        let scan ← get
        let inner := scan.rest.takeWhile (· != '\'')
        let line := scan.line + inner.count '\n'
        match scan.rest.drop inner.length with
        | [] => throw ⟨.unterminatedQuote, line⟩
        | _ :: rest =>
          set { scan with rest := rest, line := line }
          goOn (addText inner true (.mark :: word))
    | some '\x7d' =>
      skip
      if setting.ending = .brace then return finished word
      else goOn (addChar '\x7d' setting.quoted word)
    | some '(' =>
      if setting.ending = .parentheses then
        skip
        pieces commands fuel setting (depth + 1) (addChar '(' true word)
      else if setting.ending = .boundary then return finished word
      else
        skip
        goOn (addChar '(' setting.quoted word)
    | some ')' =>
      if setting.ending = .parentheses then
        skip
        if depth = 0 then
          if ← takeIf ')' then return finished word else goOn (addChar ')' true word)
        else pieces commands fuel setting (depth - 1) (addChar ')' true word)
      else if setting.ending = .boundary then return finished word
      else
        skip
        goOn (addChar ')' setting.quoted word)
    | some c =>
      if setting.ending = .boundary && isBoundary c then return finished word
      else
        skip
        goOn (addChar c setting.quoted word)

/-- Reads a word. -/
def word (commands : Commands) : Reader Word := do
  pieces commands (← remaining).succ { ending := .boundary } 0 []

/-- Reads a word in which nothing is expanded. -/
def delimiterWord (commands : Commands) : Reader Word := do
  pieces commands (← remaining).succ { ending := .boundary, plain := true } 0 []

/-- Reads a text that stands in the script. -/
def document (commands : Commands) (awaited : AwaitedDocument) : Reader Word := do
  let fuel := (← remaining).succ
  if awaited.quoted then
    return [.text (← documentLines awaited fuel []) true]
  else
    let setting : Setting := { ending := .delimiter, quoted := true, document := some awaited }
    if ← atDelimiter setting then return [] else pieces commands fuel setting 0 []

end EditorBridge.Shell.Reader
