import EditorBridge.Decimal.Digits
import EditorBridge.Tool.Options

/-!
# The command line of the tool
-/

namespace EditorBridge

/-- What the tool reads: a file, or source text passed as the argument itself. -/
inductive Target where
  | file (path : Path)
  | inline (text : String)
  deriving DecidableEq, Repr

namespace Target

/-- The argument that stands for the target. -/
def argument : Target → String
  | .file path => path.text
  | .inline text => text

/-- The file, if the target is one. -/
def path? : Target → Option Path
  | .file path => some path
  | .inline _ => none

/-- The target of a document: its file, or its text when it is untitled. -/
def ofDocument (document : Document) : Target :=
  match document.path with
  | some path => .file path
  | none => .inline document.text

end Target

/-- The argument, when it is enabled. -/
def enabledArgument (enabled : Bool) (argument : String) : List String :=
  if enabled then [argument] else []

/-- The file that the tool is asked to write itself. -/
def CleanOptions.writtenFile? (options : CleanOptions) (target : Target) : Option Path :=
  if options.outputInPlace then target.path? else none

/-- The arguments for cleaning a target. -/
def cleanArguments (target : Target) (options : CleanOptions) : List String :=
  let output := match options.writtenFile? target with
    | some path => ["--output", path.text]
    | none => []
  ["clean", target.argument] ++ output ++
    ["--indent", Decimal.natText options.indent, "--flag-prefix", options.flagPrefix] ++
    enabledArgument options.excludeSelf "--noself" ++
    enabledArgument options.safe "--safe" ++
    enabledArgument options.useBlack "--use-black"

/-- The arguments for the overview of a source file. -/
def overviewArguments (source : Path) (options : OverviewOptions) : List String :=
  ["overview", source.text] ++
    enabledArgument options.includePrivate "--include-private" ++
    enabledArgument options.safe "--safe"

end EditorBridge
