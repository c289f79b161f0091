import EditorBridge.Text.Blank

/-!
# Paths

A path is its text. Its components are what the text says about the file tree: repeated and
trailing slashes and inner `.` segments say nothing, `..` is kept. Two paths are the same when
their components are.
-/

namespace EditorBridge

/-- A path as it was written. -/
structure Path where
  text : String
  deriving DecidableEq, Repr, Inhabited

namespace Path

/-- What one segment of a path stands for. -/
inductive Component where
  | root
  | current
  | parent
  | name (text : String)
  deriving DecidableEq, Repr

/-- The pieces between slashes. -/
def segments (path : Path) : List (List Char) := Text.splitAt (· == '/') path.text.toList

/-- The path starts at the root. -/
def isAbsolute (path : Path) : Bool := path.text.toList.head? == some '/'

/-- A segment that says nothing inside a path. -/
def isIdle (segment : List Char) : Bool := segment == [] || segment == ['.']

/-- The component of an inner segment. -/
def Component.ofSegment? (segment : List Char) : Option Component :=
  if isIdle segment then none
  else if segment = ['.', '.'] then some .parent
  else some (.name (String.ofList segment))

/-- The components; a `.` counts only at the start of a relative path. -/
def components (path : Path) : List Component :=
  match path.segments with
  | [] => []
  | first :: rest =>
    let inner := rest.filterMap Component.ofSegment?
    if path.isAbsolute then .root :: inner
    else if first = ['.'] then .current :: inner
    else (Component.ofSegment? first).toList ++ inner

/-- Both texts name the same way through the file tree. -/
def same (left right : Path) : Bool := left.components == right.components

/-! ### Parts of a path -/

/-- Drops the idle segments at the end. -/
def dropIdleEnd (segments : List (List Char)) : List (List Char) :=
  (segments.reverse.dropWhile isIdle).reverse

/-- The directory that holds the entry an absolute path names, as the front part of the same text;
the root and relative paths have none. -/
def directory? (path : Path) : Option Path :=
  if path.isAbsolute then
    match dropIdleEnd (path.segments.drop 1) with
    | [] => none
    | body =>
      some ⟨String.ofList ('/' :: Text.joinWith ['/'] (dropIdleEnd body.dropLast))⟩
  else none

/-- The name of the entry, when the path ends in one. -/
def fileName? (path : Path) : Option String :=
  match path.components.getLast? with
  | some (.name text) => some text
  | _ => none

/-- What follows the last dot of the file name, when a dot stands behind its first character. -/
def extension? (path : Path) : Option String := do
  let name ← path.fileName?
  let reversed := name.toList.reverse
  let stem := (reversed.dropWhile (· != '.')).drop 1
  if stem.isEmpty then none
  else return String.ofList (reversed.takeWhile (· != '.')).reverse

/-- The last piece of the text between slashes or backslashes. -/
def baseName (path : Path) : String :=
  String.ofList
    ((path.text.toList.reverse.takeWhile (fun c => c != '/' && c != '\\')).reverse)

/-- The entry called `name` in a directory. -/
def entry (directory : Path) (name : String) : Path :=
  let chars := directory.text.toList
  if chars.isEmpty || chars.getLast? == some '/' then ⟨directory.text ++ name⟩
  else ⟨directory.text ++ "/" ++ name⟩

end Path

end EditorBridge
