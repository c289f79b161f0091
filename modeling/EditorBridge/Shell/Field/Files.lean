import EditorBridge.Machine.Walk
import EditorBridge.Shell.Pattern

/-!
# The files that a pattern stands for

A pattern with slashes is walked from left to right: a segment that is a pattern stands for the names
in a directory that it accepts, any other segment for itself. A name that starts with a dot has to be
asked for with one.
-/

namespace EditorBridge.Shell.Files

/-- The bracket in front of the text is closed within its segment. -/
def closesBracket : Raw → Bool
  | [] => false
  | '\\' :: rest => closesBehind rest
  | rest => closesBehind rest
where
  /-- Looks at the character behind the one at the start. -/
  closesBehind : Raw → Bool
    | [] => false
    | _ :: ']' :: _ => true
    | _ :: '\\' :: rest => closesBehind rest
    | _ :: rest => closesBehind rest

/-- The segment stands for names that it accepts. -/
def isActive : Raw → Bool
  | [] => false
  | '*' :: _ | '?' :: _ => true
  | '\\' :: _ :: rest => isActive rest
  | '[' :: rest =>
    closesBracket (if rest.head? == some '!' then rest.drop 1 else rest) || isActive rest
  | _ :: rest => isActive rest

/-- The text that a segment spells. -/
def literal : Raw → Raw
  | '\\' :: c :: rest => c :: literal rest
  | c :: rest => c :: literal rest
  | [] => []

/-- The segments of a pattern; a slash may stand behind a backslash. -/
def segments : Raw → List Raw
  | [] => [[]]
  | '/' :: rest | '\\' :: '/' :: rest => [] :: segments rest
  | '\\' :: c :: rest =>
    match segments rest with
    | piece :: pieces => ('\\' :: c :: piece) :: pieces
    | [] => [['\\', c]]
  | c :: rest =>
    match segments rest with
    | piece :: pieces => (c :: piece) :: pieces
    | [] => [[c]]

/-- The names in a directory, with those of itself and the directory above. -/
def entryNames (tree : Tree) (place : Place) : List Raw :=
  ['.'] :: ['.', '.'] :: (tree.names place).map Raw.ofString

/-- The names in a directory that a segment stands for. -/
def accepted (tree : Tree) (directory : Place) (path segment : Raw) : List Raw :=
  match tree.findDirectory directory ⟨if path.isEmpty then "." else Raw.toString path⟩ with
  | .error _ => []
  | .ok place =>
    let pattern := Pattern.ofSpelling segment
    let mayHide := (literal segment).head? == some '.'
    (entryNames tree place).filter fun name =>
      (mayHide || name.head? != some '.') && pattern.accepts name

/-- Something stands where the path leads to, be it a link. -/
def exists? (tree : Tree) (directory : Place) (path : Raw) : Bool :=
  match tree.walk false directory ⟨Raw.toString path⟩ with
  | .ok (.found ..) => true
  | _ => false

/-- The paths that segments stand for behind the path that has been written. -/
def behind (tree : Tree) (directory : Place) (written : Raw) : List Raw → List Raw
  | [] => []
  | segment :: rest =>
    if isActive segment then
      let names := accepted tree directory written segment
      if rest.isEmpty then names.map (written ++ ·)
      else names.flatMap fun name => behind tree directory (written ++ name ++ ['/']) rest
    else
      let written := written ++ literal segment
      if rest.isEmpty then if exists? tree directory written then [written] else []
      else behind tree directory (written ++ ['/']) rest

/-- The files that a pattern stands for, in the order of their bytes. -/
def ofPattern (tree : Tree) (directory : Place) (source : Raw) : List Raw :=
  let pieces := segments source
  if !pieces.any isActive then []
  else (behind tree directory [] pieces).mergeSort fun first second =>
    decide (String.ofList first ≤ String.ofList second)

end EditorBridge.Shell.Files
