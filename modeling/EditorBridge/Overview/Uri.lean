import EditorBridge.Error
import EditorBridge.Path

/-!
# Overview URIs

The overview of a source file is a document of its own, addressed by a scheme, the path of the
source and an extension that makes it a Markdown document. The encoding adds both ends and changes
nothing between them.
-/

namespace EditorBridge

/-- The address of the overview of a source file. -/
structure OverviewUri where
  source : Path
  deriving DecidableEq, Repr

namespace OverviewUri

/-- The scheme of overview documents. -/
def scheme : String := "docbridge-overview"

/-- What stands in front of the path. -/
def opening : List Char := (scheme ++ ":").toList

/-- What stands behind the path. -/
def ending : List Char := ".md".toList

/-- The text of the address. -/
def text (uri : OverviewUri) : String :=
  String.ofList (opening ++ uri.source.text.toList ++ ending)

/-- Reads an address; the path between its ends must not be empty. -/
def parse (text : String) : Except Error OverviewUri :=
  match (Text.dropStart? opening text.toList).bind (Text.dropEnding? ending) with
  | none | some [] => .error (.invalidOverviewUri text)
  | some source => .ok ⟨⟨String.ofList source⟩⟩

/-- Both addresses name the overview of the same path. -/
def same (left right : OverviewUri) : Bool := left.source.same right.source

end OverviewUri

end EditorBridge
