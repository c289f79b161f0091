import EditorBridge.Shell.Syntax

/-!
# Problems of a script

Why a script cannot be read, and the tokens that messages name.
-/

namespace EditorBridge.Shell

/-- The words with a meaning of their own. -/
inductive Reserved where
  | negation | caseOf | doBody | done | elseIf | otherwise | endCase | endIf | forEach | ifTest
  | inWords | thenBody | untilTest | whileTest | openBrace | closeBrace
  deriving DecidableEq, Repr

namespace Reserved

/-- Every reserved word. -/
def all : List Reserved :=
  [.negation, .caseOf, .doBody, .done, .elseIf, .otherwise, .endCase, .endIf, .forEach, .ifTest,
    .inWords, .thenBody, .untilTest, .whileTest, .openBrace, .closeBrace]

/-- The spelling of a reserved word. -/
def text : Reserved → String
  | .negation => "!"
  | .caseOf => "case"
  | .doBody => "do"
  | .done => "done"
  | .elseIf => "elif"
  | .otherwise => "else"
  | .endCase => "esac"
  | .endIf => "fi"
  | .forEach => "for"
  | .ifTest => "if"
  | .inWords => "in"
  | .thenBody => "then"
  | .untilTest => "until"
  | .whileTest => "while"
  | .openBrace => "\x7b"
  | .closeBrace => "\x7d"

/-- The reserved word that a text spells. -/
def ofText? (raw : Raw) : Option Reserved :=
  all.find? fun word => word.text == String.ofList raw

end Reserved

/-- The operators between words. -/
inductive Operator where
  | semicolon | ampersand | bothOf | eitherOf | bar | openParenthesis | closeParenthesis
  | doubleSemicolon
  deriving DecidableEq, Repr

/-- The spelling of an operator. -/
def Operator.text : Operator → String
  | .semicolon => ";"
  | .ampersand => "&"
  | .bothOf => "&&"
  | .eitherOf => "||"
  | .bar => "|"
  | .openParenthesis => "("
  | .closeParenthesis => ")"
  | .doubleSemicolon => ";;"

/-- What a redirection operator starts. -/
inductive Opening where
  | file (direction : Direction)
  | duplicate
  /-- A text in the script, without the tabs at the start of its lines if told so. -/
  | document (stripTabs : Bool)
  deriving DecidableEq, Repr

/-- A token. -/
inductive Token where
  | finish
  | newline
  | operator (operator : Operator)
  | redirect (descriptor : Nat) (opening : Opening)
  | reserved (word : Reserved)
  | word (word : Word)

namespace Token

/-- The token as messages name it. -/
def describe : Token → String
  | .finish => "end of file"
  | .newline => "newline"
  | .operator found => "\"" ++ found.text ++ "\""
  | .redirect .. => "redirection"
  | .reserved found => "\"" ++ found.text ++ "\""
  | .word _ => "word"

/-- The token is the operator. -/
def isOperator (wanted : Operator) : Token → Bool
  | .operator found => found == wanted
  | _ => false

/-- The token is the reserved word. -/
def isReserved (wanted : Reserved) : Token → Bool
  | .reserved found => found == wanted
  | _ => false

/-- The token ends a list of commands. -/
def endsList : Token → Bool
  | .finish => true
  | .operator .closeParenthesis | .operator .doubleSemicolon => true
  | .reserved found =>
    [Reserved.doBody, .done, .elseIf, .otherwise, .endCase, .endIf, .thenBody, .closeBrace].contains
      found
  | _ => false

end Token

/-- Why a script cannot be read. -/
inductive Problem where
  | unterminatedQuote
  | unterminatedBackquote
  | missingBrace
  | missingParentheses
  | badLoopName
  | badFunctionName
  /-- A token that cannot stand where it does, and the one that was wanted there. -/
  | unexpected (found : String) (wanted : Option String)
  deriving DecidableEq, Repr

/-- The wording of a problem. -/
def Problem.message (problem : Problem) : String :=
  "Syntax error: " ++ match problem with
  | .unterminatedQuote => "Unterminated quoted string"
  | .unterminatedBackquote => "EOF in backquote substitution"
  | .missingBrace => "Missing '\x7d'"
  | .missingParentheses => "Missing '))'"
  | .badLoopName => "Bad for loop variable"
  | .badFunctionName => "Bad function name"
  | .unexpected found none => found ++ " unexpected"
  | .unexpected found (some wanted) => found ++ " unexpected (expecting " ++ wanted ++ ")"

/-- A problem and the line that it is reported on. -/
structure Refusal where
  problem : Problem
  line : Nat
  deriving DecidableEq, Repr

end EditorBridge.Shell
