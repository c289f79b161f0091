import EditorBridge.Shell.Builtin.Names
import EditorBridge.Shell.Expansion

/-!
# Callees

What a simple command calls. Its words are expanded up to the first field, which names what is called;
`command` in front of a name passes over functions. Words behind the name of a builtin that takes
assignments are expanded as such.
-/

namespace EditorBridge.Shell

/-- What a simple command calls, as far as it is known. -/
structure Callee where
  /-- The name and the arguments that have been expanded. -/
  fields : List Raw
  /-- The words that are left. -/
  words : List Word
  meaning : Builtin.Meaning
  /-- The first builtin in the call is special. -/
  special : Bool
  /-- Functions count. -/
  functions : Bool
  /-- Programs are looked for in the standard directories only. -/
  standard : Bool

namespace Callee

/-- A call of nothing. -/
def nothing : Callee where
  fields := []
  words := []
  meaning := .builtin
  special := false
  functions := true
  standard := false

/-- The name of what is called. -/
def name (callee : Callee) : Raw := callee.fields.headD []

/-- The directories that programs are looked for in. -/
def directories (callee : Callee) (frame : Frame) : List Raw :=
  if callee.standard then Builtin.standardDirectories else frame.searchDirectories

/-- Expands words up to the first that gives fields. -/
def fill (substitute : Command → Act Raw) : List Word → Act (List Raw × List Word)
  | [] => return ([], [])
  | word :: rest => do
    match ← Expansion.fields substitute word with
    | [] => fill substitute rest
    | fields => return (fields, rest)

/-- What stands behind `command`. -/
structure Behind where
  /-- A call follows. -/
  isCall : Bool
  /-- The options in front of it. -/
  options : List Raw
  fields : List Raw
  words : List Word
  standard : Bool

/-- Reads the options behind `command`, of which there are `options` in front. The fuel is more than
the number of fields and words. -/
def behindCommand (substitute : Command → Act Raw) :
    Nat → Bool → List Raw → List Raw → List Word → Act Behind
  | 0, standard, options, fields, words => return ⟨false, options, fields, words, standard⟩
  | fuel + 1, standard, options, fields, words => do
    let (fields, words) ← if fields.isEmpty then fill substitute words else pure (fields, words)
    match fields with
    | [] => return ⟨false, options, [], words, standard⟩
    | ['-', '-'] :: rest =>
      let (rest, words) ← if rest.isEmpty then fill substitute words else pure (rest, words)
      return ⟨!rest.isEmpty, options ++ [['-', '-']], rest, words, standard⟩
    | ('-' :: c :: letters) :: rest =>
      if (c :: letters).all (· == 'p') then
        behindCommand substitute fuel true (options ++ ['-' :: c :: letters]) rest words
      else return ⟨false, options, ('-' :: c :: letters) :: rest, words, standard⟩
    | fields => return ⟨true, options, fields, words, standard⟩

/-- The name of the builtin that passes over functions. -/
def commandName : Raw := Raw.ofString "command"

/-- Finds out what the first field names. `isFirst` says that no builtin stands in front of it. The
fuel is more than the number of fields and words. -/
def locate (substitute : Command → Act Raw) : Nat → Bool → Callee → Act Callee
  | 0, _, callee => return callee
  | fuel + 1, isFirst, callee => do
    let state ← get
    let name := callee.name
    let meaning :=
      Builtin.meaningOf state callee.functions (callee.directories state.frame) name
    let special := if isFirst then
        match meaning with
        | .builtin => Builtin.isSpecial name
        | _ => false
      else callee.special
    let callee := { callee with meaning := meaning, special := special }
    match meaning with
    | .builtin =>
      if name == commandName then
        let behind ← behindCommand substitute fuel callee.standard [] (callee.fields.drop 1) callee.words
        if behind.isCall then
          locate substitute fuel false { callee with
            fields := behind.fields, words := behind.words, functions := false
            standard := behind.standard }
        else return { callee with
          fields := name :: behind.options ++ behind.fields, words := behind.words }
      else return callee
    | _ => return callee

/-- The field of a word that assigns. -/
def assignmentField (substitute : Command → Act Raw) (name : Raw) (word : Word) : Act Raw := do
  return name ++ '=' :: (← Expansion.value substitute word)

/-- The fields of a word behind the name of what is called. -/
def argument (substitute : Command → Act Raw) (assigns : Bool) (word : Word) : Act (List Raw) := do
  match if assigns then word.assignment? else none with
  | some (name, value) => return [← assignmentField substitute name value]
  | none => Expansion.fields substitute word

/-- What words call, with all of them expanded. -/
def ofWords (substitute : Command → Act Raw) (words : List Word) : Act Callee := do
  match ← fill substitute words with
  | ([], _) => return nothing
  | (fields, words) =>
    let callee ← locate substitute (words.length + fields.length + 2) true
      { nothing with fields := fields, words := words }
    let assigns := match callee.meaning with
      | .builtin => Builtin.isIn Builtin.assigning callee.name
      | _ => false
    let others ← callee.words.mapM (argument substitute assigns)
    return { callee with fields := callee.fields ++ others.flatten, words := [] }

/-- The assignments in front of the call last only as long as it does. -/
def keepsAssignments (callee : Callee) : Bool := callee.fields.isEmpty || callee.special

/-- The call leads to a builtin. -/
def isBuiltin (callee : Callee) : Bool :=
  match callee.meaning with
  | .builtin => true
  | _ => false

/-- The call is of the builtin that runs a program in the stead of the shell. -/
def isExec (callee : Callee) : Bool := callee.isBuiltin && callee.name == Raw.ofString "exec"

end Callee

end EditorBridge.Shell
