import EditorBridge.Shell.Reader.Token

/-!
# The grammar of the shell

Reads commands by recursive descent, with one token held back. A script is read one line of commands
at a time, so that a fault in a later line does not keep the earlier ones from running. Every call
uses up one unit of fuel; a few units for each character are enough. A line with texts behind it is
read twice: the first reading finds the texts, and the second puts them where they are asked for.
-/

namespace EditorBridge.Shell.Reader

/-- The commands of a list that may be empty. -/
def whole (found : Option Command) : Command := found.getD .nothing

/-- Reads the commands of an expansion, given how to read a list of commands. -/
def commandsBy (list : Reader (Option Command)) (close : Reader Unit)
    (texts : Reader Unit) : Commands where
  parenthesized := do
    let found ← list
    close
    texts
    return whole found
  whole := do
    let found ← list
    texts
    return whole found

/-- The special builtins, whose names no function can have. -/
def specialNames : List String :=
  [":", ".", "break", "continue", "eval", "exec", "exit", "export", "local", "readonly", "return",
    "set", "shift", "times", "trap", "unset"]

/-- The name can be that of a function. -/
def isFunctionName (name : Raw) : Bool :=
  isName name && !specialNames.contains (String.ofList name)

/-- Asks for a text that stands behind the line; the answer is the text, once it is known. -/
def awaitDocument (delimiter : Word) (stripTabs : Bool) : Reader Word := do
  let scan ← get
  let awaited : AwaitedDocument :=
    ⟨scan.asked, delimiter.literal, delimiter.isQuoted, stripTabs⟩
  set { scan with asked := scan.asked + 1, awaited := scan.awaited ++ [awaited] }
  return (scan.known.lookup scan.asked).getD []

/-- The word that the token of a pattern stands for. -/
def patternWord : Token → Word
  | .word found => found
  | .reserved found => [.text (Raw.ofString found.text) false]
  | _ => []

/-- The parts of a simple command. -/
structure Parts where
  assignments : List (Raw × Word) := []
  words : List Word := []
  redirections : List Redirection := []

/-- The name of the function that the words define when an opening parenthesis follows them. -/
def Parts.onlyWord? (parts : Parts) : Option Word :=
  match parts.assignments, parts.words, parts.redirections with
  | [], [word], [] => some word
  | _, _, _ => none

/-- Puts a command behind others. -/
def behind (before : Option Command) (command : Command) : Command :=
  match before with
  | none => command
  | some before => .sequence before command

mutual

/-- Reads the commands of expansions. -/
def inner : Nat → Commands
  | 0 => ⟨refuse .missingParentheses, refuse .missingParentheses⟩
  | fuel + 1 =>
    commandsBy (list fuel false true none) (expectOperator fuel .closeParenthesis)
      fun scan => documents (inner fuel) scan

/-- Reads a token as what it is at its place. -/
def next : Nat → Expected → Reader Token
  | 0, _ => return .finish
  | fuel + 1, expected => token (inner fuel) expected

/-- Passes over an operator that has to stand here. -/
def expectOperator : Nat → Operator → Reader Unit
  | 0, _ => pure ()
  | fuel + 1, operator => do
    if !(← next fuel {}).isOperator operator then unexpected (some (.operator operator))

/-- Passes over a reserved word that has to stand here. -/
def expectReserved : Nat → Reserved → Reader Unit
  | 0, _ => pure ()
  | fuel + 1, reserved => do
    if !(← next fuel {}).isReserved reserved then unexpected (some (.reserved reserved))

/-- Reads commands with line ends and semicolons between them. -/
def list : Nat → (oneLine mayEnd : Bool) → Option Command → Reader (Option Command)
  | 0, _, _, _ => unexpected none
  | fuel + 1, oneLine, mayEnd, before => do
    let start ← next fuel { newlines := !oneLine, reserved := true, aliases := true }
    match start with
    | .newline =>
      documents (inner fuel)
      return before
    | .finish =>
      documents (inner fuel)
      hold
      return before
    | start =>
      hold
      if mayEnd && !oneLine && start.endsList then return before
      else
        let command ← conjunction fuel none
        let separator ← next fuel {}
        let command := if separator.isOperator .ampersand then .background command else command
        let all := behind before command
        match separator with
        | .finish =>
          documents (inner fuel)
          hold
          return some all
        | .newline =>
          hold
          list fuel oneLine true (some all)
        | .operator .ampersand | .operator .semicolon => list fuel oneLine true (some all)
        | _ =>
          if oneLine then unexpected none
          else
            hold
            return some all

/-- Reads pipelines with `&&` and `||` between them, behind the part that has been read. -/
def conjunction : Nat → Option Command → Reader Command
  | 0, _ => unexpected none
  | fuel + 1, before => do
    let first ← match before with
      | some first => pure first
      | none => pipeline fuel {}
    let operator ← next fuel {}
    if operator.isOperator .bothOf then
      conjunction fuel (some (.bothOf first (← pipeline fuel .laterCommand)))
    else if operator.isOperator .eitherOf then
      conjunction fuel (some (.eitherOf first (← pipeline fuel .laterCommand)))
    else
      hold
      return first

/-- Reads commands with bars between them, behind an exclamation mark or not. -/
def pipeline : Nat → Expected → Reader Command
  | 0, _ => unexpected none
  | fuel + 1, expected => do
    if (← next fuel expected).isReserved .negation then
      return .negation (← stages fuel .command [])
    else
      hold
      stages fuel {} []

/-- Reads commands with bars between them, behind those that have been read. -/
def stages : Nat → Expected → List Command → Reader Command
  | 0, _, _ => unexpected none
  | fuel + 1, expected, before => do
    let all := before ++ [← command fuel expected]
    if (← next fuel {}).isOperator .bar then stages fuel .laterCommand all
    else
      hold
      match all with
      | [only] => return only
      | all => return .pipeline all

/-- Reads a command. -/
def command : Nat → Expected → Reader Command
  | 0, _ => unexpected none
  | fuel + 1, expected => do
    let line := (← get).line
    match ← next fuel expected with
    | .reserved .ifTest =>
      let body ← choice fuel
      expectReserved fuel .endIf
      withRedirections fuel line body
    | .reserved .whileTest => withRedirections fuel line (← repetition fuel false)
    | .reserved .untilTest => withRedirections fuel line (← repetition fuel true)
    | .reserved .forEach => withRedirections fuel line (← each fuel line)
    | .reserved .caseOf => withRedirections fuel line (← selection fuel line)
    | .operator .openParenthesis =>
      let body ← list fuel false false none
      expectOperator fuel .closeParenthesis
      return .subshell line (whole body) (← redirections fuel .command)
    | .reserved .openBrace =>
      let body ← list fuel false false none
      expectReserved fuel .closeBrace
      withRedirections fuel line (whole body)
    | .word _ | .redirect .. =>
      hold
      simple fuel (← get).line {}
    | _ => unexpected none

/-- Reads the redirections behind a command. -/
def withRedirections : Nat → Nat → Command → Reader Command
  | 0, _, _ => unexpected none
  | fuel + 1, line, body => do
    match ← redirections fuel .command with
    | [] => return body
    | found => return .redirected line body found

/-- Reads redirections. -/
def redirections : Nat → Expected → Reader (List Redirection)
  | 0, _ => return []
  | fuel + 1, expected => do
    match ← next fuel expected with
    | .redirect descriptor opening =>
      let first ← redirection fuel descriptor opening
      return first :: (← redirections fuel {})
    | _ =>
      hold
      return []

/-- Reads the target of a redirection. -/
def redirection : Nat → Nat → Opening → Reader Redirection
  | 0, _, _ => unexpected none
  | fuel + 1, descriptor, opening => do
    let delimiter := match opening with
      | .document _ => true
      | _ => false
    match ← next fuel { delimiter := delimiter } with
    | .word target =>
      match opening with
      | .file direction => return .file descriptor direction target
      | .duplicate => return .duplicate descriptor target
      | .document stripTabs => return .document descriptor (← awaitDocument target stripTabs)
    | _ => unexpected none

/-- Reads a simple command, or the definition of a function, behind the parts that have been read. -/
def simple : Nat → Nat → Parts → Reader Command
  | 0, _, _ => unexpected none
  | fuel + 1, line, parts => do
    match ← next fuel { aliases := parts.words.isEmpty } with
    | .word word =>
      match if parts.words.isEmpty then word.assignment? else none with
      | some entry =>
        simple fuel line { parts with assignments := parts.assignments ++ [entry] }
      | none => simple fuel line { parts with words := parts.words ++ [word] }
    | .redirect descriptor opening =>
      let one ← redirection fuel descriptor opening
      simple fuel line { parts with redirections := parts.redirections ++ [one] }
    | last =>
      match if last.isOperator .openParenthesis then parts.onlyWord? else none with
      | some word =>
        expectOperator fuel .closeParenthesis
        match word.plain?.filter isFunctionName with
        | some name => return .definition name (← command fuel .laterCommand)
        | none => refuse .badFunctionName
      | none =>
        hold
        return .simple line parts.assignments parts.words parts.redirections

/-- Reads what follows `if`, up to the end of its last part. -/
def choice : Nat → Reader Command
  | 0 => unexpected none
  | fuel + 1 => do
    let test ← list fuel false false none
    expectReserved fuel .thenBody
    let yes ← list fuel false false none
    match ← next fuel {} with
    | .reserved .elseIf => return .choice (whole test) (whole yes) (← choice fuel)
    | .reserved .otherwise =>
      let no ← list fuel false false none
      return .choice (whole test) (whole yes) (whole no)
    | _ =>
      hold
      return .choice (whole test) (whole yes) .nothing

/-- Reads what follows `while` or `until`. -/
def repetition : Nat → Bool → Reader Command
  | 0, _ => unexpected none
  | fuel + 1, untilDone => do
    let test ← list fuel false false none
    expectReserved fuel .doBody
    let body ← list fuel false false none
    expectReserved fuel .done
    return .loop untilDone (whole test) (whole body)

/-- Reads words up to another token. -/
def wordList : Nat → Reader (List Word)
  | 0 => return []
  | fuel + 1 => do
    match ← next fuel {} with
    | .word word => return word :: (← wordList fuel)
    | _ => return []

/-- Reads what follows `for`. -/
def each : Nat → Nat → Reader Command
  | 0, _ => unexpected none
  | fuel + 1, line => do
    let name ← match ← next fuel {} with
      | .word word =>
        match word.plain?.filter isName with
        | some name => pure name
        | none => refuse .badLoopName
      | _ => refuse .badLoopName
    let words ←
      if (← next fuel .laterCommand).isReserved .inWords then do
        let words ← wordList fuel
        match (← get).last with
        | .newline | .operator .semicolon => pure words
        | _ => unexpected none
      else do
        if !(← get).last.isOperator .semicolon then hold
        pure [Word.parameters]
    if !(← next fuel .laterCommand).isReserved .doBody then
      unexpected (some (.reserved .doBody))
    let body ← list fuel false false none
    expectReserved fuel .done
    return .each line name words (whole body)

/-- Reads what follows `case`. -/
def selection : Nat → Nat → Reader Command
  | 0, _ => unexpected none
  | fuel + 1, line => do
    match ← next fuel {} with
    | .word subject =>
      if !(← next fuel .laterCommand).isReserved .inWords then
        unexpected (some (.reserved .inWords))
      return .selection line subject (← arms fuel)
    | _ => unexpected (some (.word []))

/-- Reads the arms of a `case` up to `esac`. -/
def arms : Nat → Reader (List (List Word × Command))
  | 0 => unexpected none
  | fuel + 1 => do
    let start ← next fuel { newlines := true, reserved := true }
    if start.isReserved .endCase then return []
    else
      let start ← if start.isOperator .openParenthesis then next fuel {} else pure start
      let words ← patterns fuel start
      let body ← list fuel false true none
      match ← next fuel { newlines := true, reserved := true } with
      | .reserved .endCase => return [(words, whole body)]
      | .operator .doubleSemicolon => return (words, whole body) :: (← arms fuel)
      | _ => unexpected (some (.operator .doubleSemicolon))

/-- Reads the patterns of an arm from the first one up to the closing parenthesis. -/
def patterns : Nat → Token → Reader (List Word)
  | 0, _ => unexpected none
  | fuel + 1, start => do
    match ← next fuel {} with
    | .operator .bar => return patternWord start :: (← patterns fuel (← next fuel {}))
    | .operator .closeParenthesis => return [patternWord start]
    | _ => unexpected (some (.operator .closeParenthesis))

end

/-- What stands in the next line of a script. -/
inductive Line where
  | finish
  | blank
  | command (command : Command)

/-- Reads the next line of a script. -/
def lineOnce : Reader Line := do
  let fuel := 32 * ((← remaining) + 4096)
  match ← list fuel true false none with
  | some command => return .command command
  | none => return if (← get).held then .finish else .blank

/-- Reads the next line of a script, in which the aliases count. -/
def readLine (scan : Scan) (aliases : List (Raw × Raw)) : Except Refusal (Line × Scan) := do
  let start := { scan with held := false, awaited := [], asked := 0, found := [], known := []
                           aliases := aliases }
  let (line, after) ← lineOnce.run start
  if after.found.isEmpty then return (line, after)
  else lineOnce.run { start with known := after.found }

/-- Reads a text in which all but expansions stands for itself. -/
def readText (text : Raw) : Except Refusal Word := do
  let fuel := 32 * (text.length + 4096)
  let reader := pieces (inner fuel) (text.length + 1) { ending := .delimiter, quoted := true } 0 []
  return (← reader.run (Scan.start text)).1

end EditorBridge.Shell.Reader
