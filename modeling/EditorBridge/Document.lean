import EditorBridge.Decimal.Binary64
import EditorBridge.Path

/-!
# Documents
-/

namespace EditorBridge

/-- A snapshot of an open buffer. An untitled buffer has no path. -/
structure Document where
  path : Option Path
  text : String
  languageId : String
  tabSize : Option Binary64
  deriving DecidableEq, Repr

namespace Document

/-- The name shown in messages. -/
def displayName (document : Document) : String :=
  match document.path with
  | some path => path.baseName
  | none => "untitled"

/-- The directory that the tool runs in: that of the backing file, when its path is absolute. -/
def workingDirectory? (document : Document) : Option Path := document.path.bind Path.directory?

end Document

end EditorBridge
