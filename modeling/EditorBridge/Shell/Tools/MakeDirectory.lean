import EditorBridge.Shell.Tools.Options

/-!
# Making directories

The program that makes directories, and with the right option also those that lead to them.
-/

namespace EditorBridge.Shell.Tools.MakeDirectory

/-- The options. -/
def options : List ProgramOption :=
  [{ letter := some 'm', name := "mode", text := .always }, { letter := some 'p', name := "parents" },
    { letter := some 'v', name := "verbose" }, { letter := some 'Z' },
    { name := "context", text := .maybe }]

/-! ### Modes -/

/-- The text changes permissions: who, what is done, and which permissions, several times. The fuel is
the length of the text. -/
def isAction : Nat → Raw → Bool
  | _, [] => true
  | 0, _ => false
  | fuel + 1, c :: rest =>
    (c == '+' || c == '-' || c == '=') &&
      let copied := rest.takeWhile fun c => "ugo".contains c
      if copied.length == 1 then isAction fuel (rest.drop 1)
      else isAction fuel (rest.dropWhile fun c => "rwxXst".contains c)

/-- The text says which permissions a directory gets. -/
def isMode (mode : Raw) : Bool :=
  if mode.head?.any Decimal.isDigit then
    mode.all (isDigitOf 8) && valueOf 8 mode ≤ valueOf 8 (Raw.ofString "7777")
  else
    !mode.isEmpty && (Text.splitAt (· == ',') mode).all fun clause =>
      let action := clause.dropWhile fun c => "ugoa".contains c
      !action.isEmpty && isAction action.length action

/-! ### Making -/

/-- Makes a directory. -/
def make (name : Raw) : Act (Option Fault) := do
  let state ← get
  match state.world.tree.walk false state.frame.directory (Tree.withoutSlashes (path name)) with
  | .error fault => return some fault
  | .ok (.found ..) => return some .entryExists
  | .ok (.vacant place) =>
    Act.modifyWorld fun world => { world with tree := world.tree.set place .directory }
    return none

/-- A path leads to a directory. -/
def findDirectory (name : Raw) : Act (Except Fault Place) := do
  let state ← get
  return state.world.tree.findDirectory state.frame.directory (path name)

/-- Tells that a directory was made. -/
def announce (program name : Raw) : Act Unit :=
  Act.printLine (program ++ Raw.ofString ": created directory " ++ quotedName name)

/-- A segment of a path, with the text from the start up to its end. -/
structure Segment where
  name : Raw
  upTo : Raw
  deriving DecidableEq, Repr

/-- The segments that other segments follow, each with the text up to its end; `before` is the text
that has been passed, backwards, and `name` the segment that is being read, backwards. -/
def leading (before name : Raw) : Raw → List Segment
  | [] => []
  | '/' :: rest =>
    let others := leading ('/' :: before) [] rest
    if name.isEmpty || rest.all (· == '/') then others
    else ⟨name.reverse, before.reverse⟩ :: others
  | c :: rest => leading (c :: before) (c :: name) rest

/-- Makes the directories that lead to a path. The answer is the text up to the one that cannot be
made, and the reason. -/
def makeLeading (program : Raw) (tells : Bool) : List Segment → Act (Option (Raw × Fault))
  | [] => return none
  | segment :: rest => do
    if segment.name == ['.'] then makeLeading program tells rest
    else
      let fault ← if segment.name == ['.', '.'] then pure none
        else do
          let fault ← make segment.upTo
          if fault.isNone && tells then announce program segment.upTo
          pure fault
      match ← findDirectory segment.upTo with
      | .ok _ => makeLeading program tells rest
      | .error .noEntry => return some (segment.upTo, fault.getD .noEntry)
      | .error reason => return some (segment.upTo, reason)

/-- Makes the directory of an operand. The answer says whether it is there in the end. -/
def makeOperand (program : Raw) (parents tells : Bool) (name : Raw) : Act Bool := do
  let refuse (shown : Raw) (fault : Fault) : Act Bool := do
    complain program (Raw.ofString "cannot create directory " ++ quoted shown ++
      Raw.ofString (": " ++ fault.wording))
    return false
  let trouble ← if parents then makeLeading program tells (leading [] [] name) else pure none
  match trouble with
  | some (shown, fault) => refuse shown fault
  | none =>
    match ← make name with
    | none =>
      if tells then announce program name
      return true
    | some fault =>
      let isThere := (← findDirectory name).toBool
      if parents && fault != .noEntry && isThere then return true else refuse name fault

/-- Makes directories. -/
def perform (program : Raw) (arguments : List Raw) : Act Nat :=
  withReading program options arguments fun reading => do
    if reading.operands.isEmpty then missingOperand program
    else
      let mode? := (reading.given.filter (·.option.name == "mode")).getLast?.bind Given.text
      match mode?.filter (!isMode ·) with
      | some mode =>
        complain program (Raw.ofString "invalid mode " ++ quoted mode)
        return 1
      | none =>
        let parents := reading.has 'p'
        let tells := reading.has 'v'
        return statusOf (← reading.operands.mapM (makeOperand program parents tells))

end EditorBridge.Shell.Tools.MakeDirectory
