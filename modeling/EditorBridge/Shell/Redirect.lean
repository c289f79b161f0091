import EditorBridge.Shell.Expansion

/-!
# Redirections

Opening the files of redirections and putting the descriptors back afterwards. What a descriptor
stood for before is kept under a spare number, which programs do not get. All targets are expanded
before the first one is opened.
-/

namespace EditorBridge.Shell.Redirect

/-- The first of the spare numbers. -/
def firstSpare : Nat := 10

/-- A redirection whose target has been expanded. -/
inductive Ready where
  | file (direction : Direction) (path : Raw)
  | copy (source : Nat)
  | close
  /-- A text in the script, which is expanded when it is opened. -/
  | document (body : Word)

/-- What a descriptor becomes the same as. -/
def sourceOf (target : Raw) : Act Ready := do
  match target with
  | ['-'] => return .close
  | [c] =>
    if Decimal.isDigit c then return .copy (Decimal.digitValue c)
    else Act.fail (Raw.ofString "Syntax error: Bad fd number")
  | _ => Act.fail (Raw.ofString "Syntax error: Bad fd number")

/-- Expands the target of a redirection. -/
def ready (substitute : Command → Act Raw) : Redirection → Act (Nat × Ready)
  | .file descriptor direction target => do
    return (descriptor, .file direction (← Expansion.text substitute target))
  | .duplicate descriptor target => do
    return (descriptor, ← sourceOf (← Expansion.text substitute target))
  | .document descriptor body => return (descriptor, .document body)

/-! ### Opening -/

/-- How a file is opened, and whether it counts as made in messages. -/
def mannerOf : Direction → Manner × Bool
  | .input => (.reading, false)
  | .output | .clobber => (.writing, true)
  | .append => (.appending, true)
  | .both => (.both, true)

/-- Refuses to open a file. -/
def refuse {α : Type} (makes : Bool) (path : Raw) (fault : Fault) : Act α :=
  let wording := match fault with
    | .noEntry | .notDirectory => if makes then "Directory nonexistent" else "No such file"
    | fault => fault.wording
  Act.fail (Raw.ofString (if makes then "cannot create " else "cannot open ") ++ path ++
    Raw.ofString (": " ++ wording))

/-- Opens a file in a manner. -/
def openIn (manner : Manner) (makes : Bool) (path : Raw) : Act Nat := do
  match ← Act.openPath manner path with
  | .ok index => return index
  | .error fault => refuse makes path fault

/-- Opens a file. An existing file is not written over where that is forbidden. -/
def openFile (direction : Direction) (path : Raw) : Act Nat := do
  let (manner, makes) := mannerOf direction
  let state ← get
  if direction == .output && state.frame.isOn .noclobber then
    match state.world.tree.find state.frame.directory ⟨Raw.toString path⟩ with
    | .ok (_, .file ..) | .ok (_, .program _) => refuse true path .entryExists
    | .ok _ => openIn { writable := true } false path
    | .error _ => openIn manner makes path
  else openIn manner makes path

/-- Opens a text. -/
def openText (raw : Raw) : Act Nat := do
  let pipe ← modifyGet fun state =>
    let (pipe, world) := state.world.addPipe ((Pipe.empty false).add raw)
    (pipe, { state with world := world })
  Act.openChannel .reading (.outlet pipe)

/-- The open file that a redirection leads to; none for a descriptor that is closed. -/
def target (substitute : Command → Act Raw) : Ready → Act (Option Nat)
  | .file direction path => return some (← openFile direction path)
  | .close => return none
  | .document body => return some (← openText (← Expansion.text substitute body))
  | .copy source => do
    match (← Act.frame).descriptors.lookup source with
    | some index =>
      Act.modifyWorld fun world => world.share [index]
      return some index
    | none => Act.failAbout (Raw.ofNat source) Fault.badDescriptor.wording

/-- Opens a redirection. -/
def openOne (substitute : Command → Act Raw) (descriptor : Nat) (ready : Ready) : Act Unit := do
  let isIdle := match ready with
    | .copy source => source == descriptor
    | _ => false
  if !isIdle then Act.assignDescriptor descriptor (← target substitute ready)

/-- Opens redirections for good. -/
def openForGood (substitute : Command → Act Raw) (redirections : List Redirection) : Act Unit := do
  (← redirections.mapM (ready substitute)).forM fun (descriptor, ready) =>
    openOne substitute descriptor ready

/-! ### Putting back -/

/-- What descriptors stood for: the spare number of each, or none if it was closed. -/
abbrev Saved := List (Nat × Option Nat)

/-- The first spare number that stands for nothing. -/
def spareNumber : Act Nat := do
  let taken := (← Act.frame).descriptors.map (·.1)
  let spare := (List.range (taken.length + 1)).map (firstSpare + ·)
  return (spare.find? fun number => !taken.contains number).getD firstSpare

/-- Keeps what a descriptor stands for, unless that has been done. -/
def save (descriptor : Nat) (saved : Saved) : Act Saved := do
  if (saved.lookup descriptor).isSome then return saved
  else
    match (← Act.frame).descriptors.lookup descriptor with
    | none => return (descriptor, none) :: saved
    | some index =>
      let number ← spareNumber
      Act.modifyWorld fun world => world.share [index]
      Act.assignDescriptor number (some index)
      return (descriptor, some number) :: saved

/-- Puts a descriptor back, or lets it be and forgets what it stood for. -/
def putBack (forGood : Bool) (descriptor : Nat) (spare : Option Nat) : Act Unit := do
  match spare with
  | none => if !forGood then Act.assignDescriptor descriptor none
  | some number =>
    if forGood then Act.assignDescriptor number none
    else Act.assignDescriptor descriptor (← Act.replace number none)

/-- Opens redirections one after the other up to one that fails. -/
def openAll (substitute : Command → Act Raw) :
    List (Nat × Ready) → Saved → Act (Saved × Bool)
  | [], saved => return (saved, true)
  | (descriptor, ready) :: rest, saved => do
    let saved ← save descriptor saved
    let isOpen ← Act.catching
      (do
        openOne substitute descriptor ready
        return true)
      fun flow => if flow == .fails then pure false else throw flow
    if isOpen then openAll substitute rest saved else return (saved, false)

/-- The descriptor of the error stream as it was before the redirections. -/
def errorBefore (saved : Saved) : Nat := ((saved.lookup 2).bind id).getD 2

/-- Does something with redirections open, and puts the descriptors back unless they are meant for
good. When opening fails, `failed` is done. -/
def within (substitute : Command → Act Raw) (forGood : Bool) (redirections : List Redirection)
    (failed : Act Unit) (act : (errorDescriptor : Nat) → Act Unit) : Act Unit := do
  let ready ← redirections.mapM (ready substitute)
  let (saved, isOpen) ← openAll substitute ready []
  Act.ending (if isOpen then act (errorBefore saved) else failed)
    (saved.forM fun (descriptor, spare) => putBack forGood descriptor spare)

end EditorBridge.Shell.Redirect
