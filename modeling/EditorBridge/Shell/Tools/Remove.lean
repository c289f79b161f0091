import EditorBridge.Shell.Tools.Options

/-!
# Removing files

The program that takes files away, and with the right option whole directories. It can ask before
each step; an answer counts as a yes when it starts with that letter.
-/

namespace EditorBridge.Shell.Tools.Remove

/-- When the user is asked. -/
inductive Asking where
  | never
  /-- Before many files or a whole directory. -/
  | once
  | always
  deriving DecidableEq, Repr

/-- The options. -/
def options : List ProgramOption :=
  [{ letter := some 'f', name := "force" }, { letter := some 'i' }, { letter := some 'I' },
    { name := "interactive", text := .maybe }, { name := "one-file-system" },
    { name := "no-preserve-root" }, { name := "preserve-root", text := .maybe },
    { letter := some 'r', name := "recursive" }, { letter := some 'R' },
    { letter := some 'd', name := "dir" }, { letter := some 'v', name := "verbose" }]

/-- The words that say when the user is asked. -/
def askingWords : List (String × Asking) :=
  [("never", .never), ("no", .never), ("none", .never), ("once", .once), ("always", .always),
    ("yes", .always)]

/-- The words as messages show them. -/
def askingHelp : String :=
  "Valid arguments are:\n  - 'never', 'no', 'none'\n  - 'once'\n  - 'always', 'yes'\n"

/-- What a word says about asking; it may be shortened as long as it stays clear. -/
def askingOf (word : Raw) : Except Raw Asking :=
  let refuse (reason : String) : Except Raw Asking :=
    .error (Raw.ofString (reason ++ " argument ") ++ quoted word ++
      Raw.ofString " for '--interactive'")
  match askingWords.lookup (String.ofList word) with
  | some asking => .ok asking
  | none =>
    match askingWords.filter fun entry => word.isPrefixOf entry.1.toList with
    | [] => refuse "invalid"
    | (_, asking) :: others =>
      if others.all (·.2 == asking) then .ok asking else refuse "ambiguous"

/-- What the options ask for. -/
structure Wish where
  asking : Asking := .never
  /-- A file that is not there is passed over. -/
  passesMissing : Bool := false
  recursive : Bool := false
  /-- Empty directories are taken away as well. -/
  takesEmpty : Bool := false
  tells : Bool := false
  /-- The root directory stays. -/
  keepsRoot : Bool := true
  deriving DecidableEq, Repr

/-- The wish with one more option. -/
def Wish.add (wish : Wish) (given : Given) : Except Raw Wish :=
  match given.option.letter, given.option.name with
  | some 'f', _ => .ok { wish with asking := .never, passesMissing := true }
  | some 'i', _ => .ok { wish with asking := .always, passesMissing := false }
  | some 'I', _ => .ok { wish with asking := .once, passesMissing := false }
  | some 'd', _ => .ok { wish with takesEmpty := true }
  | some 'v', _ => .ok { wish with tells := true }
  | some _, _ => .ok { wish with recursive := true }
  | none, "interactive" =>
    match given.text with
    | none => .ok { wish with asking := .always, passesMissing := false }
    | some word => do
      let asking ← askingOf word
      return { wish with
        asking := asking, passesMissing := asking == .never && wish.passesMissing }
  | none, "no-preserve-root" => .ok { wish with keepsRoot := false }
  | none, _ => .ok wish

/-- What has become of an entry. -/
inductive Result where
  | done
  /-- It could not be taken away, which was told. -/
  | failed
  | declined
  deriving DecidableEq, Repr

/-! ### Asking -/

/-- Asks the user. -/
def ask (program question : Raw) : Act Bool := do
  let _ ← Act.flush
  Act.writeError (program ++ Raw.ofString ": " ++ question ++ Raw.ofString "? ")
  match ← Act.readLine 0 with
  | .ok (answer, _) => return answer.head? == some 'y' || answer.head? == some 'Y'
  | .error _ => return false

/-- What an entry is called in a question. -/
def kindOf : Node → String
  | .directory => "directory"
  | .file [] _ => "regular empty file"
  | .file .. | .program _ => "regular file"
  | .link _ => "symbolic link"
  | .device _ => "character special file"

/-! ### Removing -/

/-- Complains that an entry cannot be taken away. -/
def refuse (program name : Raw) (fault : Fault) : Act Result := do
  complain program (Raw.ofString "cannot remove " ++ quotedName name ++
    Raw.ofString (": " ++ fault.wording))
  return .failed

/-- The path without the slashes at its end leads to a link. -/
def isLink (name : Raw) : Act Bool := do
  let state ← get
  match state.world.tree.walk false state.frame.directory (Tree.withoutSlashes (path name)) with
  | .ok (.found _ (.link _)) => return true
  | _ => return false

/-- What stands at the end of a path; links are not followed there, unless a slash asks for a
directory. -/
def entryAt (name : Raw) : Act (Except Fault (Place × Node)) := do
  let state ← get
  match state.world.tree.walk false state.frame.directory (path name) with
  | .ok (.found place node) => return .ok (place, node)
  | .ok (.vacant _) => return .error .noEntry
  | .error .noEntry => return .error (if ← isLink name then .notDirectory else .noEntry)
  | .error fault => return .error fault

/-- Takes away an entry that is no directory, or an empty one. -/
def excise (program : Raw) (wish : Wish) (name : Raw) (place : Place) (isDirectory : Bool) :
    Act Result := do
  let tree := (← Act.world).tree
  if isDirectory && name.getLast? == some '/' && (← isLink name) then
    if wish.passesMissing then return .done else refuse program name .notDirectory
  else if isDirectory && !(tree.names place).isEmpty then refuse program name .directoryNotEmpty
  else
    Act.modifyWorld fun world => world.removeNode place
    if wish.tells then
      Act.printLine (Raw.ofString (if isDirectory then "removed directory " else "removed ") ++
        quotedName name)
    return .done

/-- The path ends in a dot or two. -/
def endsInDots (name : Raw) : Bool :=
  let last := (Text.splitAt (· == '/') (Raw.ofString (Tree.withoutSlashes (path name)).text)).getLast?
  last == some ['.'] || last == some ['.', '.']

/-- The reason to leave a directory alone that was named, if there is one; it has been told. -/
def isSpared (program : Raw) (wish : Wish) (name : Raw) (place : Place) : Act Bool := do
  if endsInDots name then
    complain program (Raw.ofString "refusing to remove '.' or '..' directory: skipping " ++
      quotedName name)
    return true
  else if place.isEmpty && wish.keepsRoot then
    let same := if name == ['/'] then [] else Raw.ofString " (same as '/')"
    complain program (Raw.ofString "it is dangerous to operate recursively on " ++
      quotedName name ++ same)
    complain program (Raw.ofString "use --no-preserve-root to override this failsafe")
    return true
  else return false

/-- The path of an entry in a directory. -/
def below (directory : Raw) (entry : String) : Raw :=
  if directory.getLast? == some '/' then directory ++ Raw.ofString entry
  else directory ++ '/' :: Raw.ofString entry

/-- Takes away what a path leads to, if the user agrees. The fuel is more than the depth of the
tree. -/
def remove (program : Raw) (wish : Wish) : Nat → (isOperand : Bool) → Raw → Act Result
  | 0, _, name => refuse program name .linkLoop
  | fuel + 1, isOperand, name => do
    match ← entryAt name with
    | .error fault =>
      if wish.passesMissing && (fault == .noEntry || fault == .notDirectory) then return .done
      else refuse program name fault
    | .ok (place, .directory) =>
      let names := (← Act.world).tree.names place
      if !wish.recursive && !(wish.takesEmpty && names.isEmpty) then
        refuse program name (if wish.takesEmpty then .directoryNotEmpty else .isDirectory)
      else if ← (if isOperand then isSpared program wish name place else pure false) then
        return .failed
      else
        let question := if names.isEmpty then "remove directory " else "descend into directory "
        let enters ← if wish.asking == .always then
            ask program (Raw.ofString question ++ quotedName name)
          else pure true
        if !enters then return .declined
        else
          let results ← names.mapM fun entry => do
            let isDirectory := match (← Act.world).tree.node? (place ++ [entry]) with
              | some .directory => true
              | _ => false
            let result ← remove program wish fuel false (below name entry)
            return (isDirectory, result)
          let hasTrouble := results.any fun (isDirectory, result) =>
            result == .failed || (isDirectory && result == .declined)
          if hasTrouble then
            return if results.any (·.2 == .failed) then .failed else .declined
          else
            let agrees ← if wish.asking == .always && !names.isEmpty then
                ask program (Raw.ofString "remove directory " ++ quotedName name)
              else pure true
            if agrees then excise program wish name place true else return .declined
    | .ok (place, node) =>
      let agrees ← if wish.asking == .always then
          ask program (Raw.ofString ("remove " ++ kindOf node ++ " ") ++ quotedName name)
        else pure true
      if agrees then excise program wish name place false else return .declined

/-! ### The program -/

/-- A path with at most one slash at its end, unless it is nothing but two. -/
def withOneSlash (operand : Raw) : Raw :=
  let short := (operand.reverse.dropWhile (· == '/')).reverse
  if operand.length ≤ 2 || operand.length ≤ short.length + 1 then operand else short ++ ['/']

/-- The question that is asked once before everything. -/
def question (wish : Wish) (count : Nat) : Raw :=
  Raw.ofString ("remove " ++ Decimal.natText count ++
    (if count = 1 then " argument" else " arguments") ++
    (if wish.recursive then " recursively" else ""))

/-- Tells how to name a file that looks like an option. -/
def hintAtHyphen (program : Raw) (arguments : List Raw) : Act Unit := do
  let found ← arguments.filterM fun argument => do
    if argument.head? == some '-' && argument != ['-'] then return (← entryAt argument).toBool
    else return false
  match found with
  | name :: _ =>
    Act.writeError (Raw.ofString "Try '" ++ program ++ Raw.ofString " ./" ++ shownName name ++
      Raw.ofString "' to remove the file " ++ quotedName name ++ Raw.ofString ".\n")
  | [] => pure ()

/-- Some argument shortens the name of the option that gives up the root directory. -/
def shortensRootOption (arguments : List Raw) : Bool :=
  (arguments.takeWhile (· != ['-', '-'])).any fun argument =>
    Raw.ofString "--n" == argument.take 3 && argument != Raw.ofString "--no-preserve-root" &&
      argument.isPrefixOf (Raw.ofString "--no-preserve-root")

/-- Takes files away. -/
def perform (program : Raw) (arguments : List Raw) : Act Nat := do
  match reading options true arguments with
  | .error message =>
    complain program message
    hintAtHyphen program arguments
    tryHelp program
    return 1
  | .ok found =>
    if found.hasNamed "help" || found.hasNamed "version" then return 0
    else if shortensRootOption arguments then
      complain program
        (Raw.ofString "you may not abbreviate the --no-preserve-root option")
      return 1
    else match found.given.foldlM Wish.add ({} : Wish) with
      | .error message =>
        complain program message
        Act.writeError (Raw.ofString askingHelp)
        tryHelp program
        return 1
      | .ok wish =>
        let count := found.operands.length
        if count = 0 then
          if wish.passesMissing then return 0 else missingOperand program
        else
          let goesOn ← if wish.asking == .once && (wish.recursive || 3 < count) then
              ask program (question wish count)
            else pure true
          if goesOn then
            let depth := (← Act.world).tree.nodes.length + 2
            let results ← found.operands.mapM fun operand =>
              remove program wish depth true (withOneSlash operand)
            return if results.contains .failed then 1 else 0
          else return 0

end EditorBridge.Shell.Tools.Remove
