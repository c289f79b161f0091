import EditorBridge.Shell.Act

/-!
# Descriptors

The numbers that a process reads from and writes to. Each stands for an open file; a pipe with
nothing in it is waited for as long as someone can write to it, and writing to a pipe that nobody
reads ends a process that does not care about the signal it gets.
-/

namespace EditorBridge.Shell

/-- How a file is opened. -/
structure Manner where
  readable : Bool := false
  writable : Bool := false
  /-- The file is made when there is none. -/
  makes : Bool := false
  /-- The file loses its content. -/
  empties : Bool := false
  appends : Bool := false
  deriving DecidableEq, Repr

namespace Manner

/-- For reading. -/
def reading : Manner := { readable := true }

/-- For writing from the start. -/
def writing : Manner := { writable := true, makes := true, empties := true }

/-- For writing behind the end. -/
def appending : Manner := { writable := true, makes := true, appends := true }

/-- For reading and writing. -/
def both : Manner := { readable := true, writable := true, makes := true }

end Manner

namespace Act

/-! ### Opening -/

/-- The number of the open file that a descriptor stands for, and the file. -/
def openFile? (descriptor : Nat) : Act (Option (Nat × OpenFile)) := do
  let state ← get
  return do
    let index ← state.frame.descriptors.lookup descriptor
    let file ← state.world.files.lookup index
    return (index, file)

/-- Opens a channel. -/
def openChannel (manner : Manner) (channel : Channel) : Act Nat :=
  modifyGet fun state =>
    let (index, world) := state.world.addFile
      ⟨channel, 0, manner.appends, manner.readable, manner.writable, 1⟩
    (index, { state with world := world })

/-- Empties the file at a place when it is opened that way. -/
def openPlace (manner : Manner) (place : Place) : Act Nat := do
  if manner.empties then
    modifyWorld fun world =>
      match world.tree.node? place with
      | some (.file _ executable) =>
        { world with tree := world.tree.set place (.file [] executable) }
      | _ => world
  openChannel manner (.file place)

/-- Opens once more what a descriptor stands for. -/
def reopen (manner : Manner) (descriptor : Nat) : Act (Except Fault Nat) := do
  match ← openFile? descriptor with
  | none => return .error .noEntry
  | some (_, file) =>
    match file.channel with
    | .file place => return .ok (← openPlace manner place)
    | .outlet pipe | .inlet pipe =>
      return .ok (← openChannel manner (if manner.writable then .inlet pipe else .outlet pipe))
    | channel => return .ok (← openChannel manner channel)

/-- Opens a file. -/
def openPath (manner : Manner) (path : Raw) : Act (Except Fault Nat) := do
  let state ← get
  let target : Path := ⟨Raw.toString path⟩
  let found := if manner.makes then state.world.tree.walkToMake state.frame.directory target
    else state.world.tree.walk true state.frame.directory target
  match found with
  | .error fault => return .error fault
  | .ok (.vacant place) =>
    if manner.makes then
      modifyWorld fun world => { world with tree := world.tree.set place (.file [] false) }
      return .ok (← openChannel manner (.file place))
    else return .error .noEntry
  | .ok (.found place (.file ..)) => return .ok (← openPlace manner place)
  | .ok (.found _ .directory) | .ok (.found _ (.link _)) =>
    if manner.writable then return .error .isDirectory
    else return .ok (← openChannel manner .directory)
  | .ok (.found _ (.program _)) =>
    if manner.writable then return .error .denied
    else return .ok (← openChannel manner .program)
  | .ok (.found _ (.device .terminal)) => return .error .noDevice
  | .ok (.found _ (.device (.descriptor number))) => reopen manner number
  | .ok (.found _ (.device device)) => return .ok (← openChannel manner (.device device))

/-- Closes an open file. -/
def closeFile (index : Nat) : Act Unit := modifyWorld fun world => world.release [index]

/-- Lets a descriptor stand for an open file, or for none. What it stood for before is given as the
answer and stays open. -/
def replace (descriptor : Nat) (index : Option Nat) : Act (Option Nat) :=
  modifyGet fun state =>
    let before := state.frame.descriptors.lookup descriptor
    let others := state.frame.descriptors.filter (·.1 != descriptor)
    let descriptors := match index with
      | some index => (descriptor, index) :: others
      | none => others
    (before, { state with frame := { state.frame with descriptors := descriptors } })

/-- Lets a descriptor stand for an open file, or for none, and closes what it stood for. -/
def assignDescriptor (descriptor : Nat) (index : Option Nat) : Act Unit := do
  match ← replace descriptor index with
  | some before => closeFile before
  | none => pure ()

/-- Closes all descriptors. -/
def closeAll : Act Unit := do
  let descriptors := (← frame).descriptors
  modifyFrame fun frame => { frame with descriptors := [] }
  modifyWorld fun world => world.release (descriptors.map (·.2))

/-! ### Writing -/

/-- The content with some bytes put in at a place in it. -/
def overwrite (content : Text.Bytes) (offset : Nat) (bytes : Text.Bytes) : Text.Bytes :=
  content.take offset ++ List.replicate (offset - content.length) 0 ++ bytes ++
    content.drop (offset + bytes.length)

/-- Waits until a pipe takes more. -/
def awaitSpace (pipe : Nat) : Act Unit :=
  stepping
    (fun () => do
      checkAlive
      let world ← world
      if (world.pipe pipe).isFull && world.hasReader pipe then
        await (.space pipe)
        return .inl ()
      else return .inr ())
    mostRounds ()

/-- Writes to an open file. -/
def writeFile (index : Nat) (raw : Raw) : Act (Option Fault) := do
  match (← world).files.lookup index with
  | none => return some .badDescriptor
  | some file =>
    if !file.writable then return some .badDescriptor
    else match file.channel with
      | .file place =>
        let bytes := raw.toBytes
        match (← world).tree.node? place with
        | some (.file content executable) =>
          let offset := if file.appends then content.length else file.offset
          modifyWorld fun world =>
            { world with
              tree := world.tree.set place (.file (overwrite content offset bytes) executable) }
          modifyWorld fun world =>
            world.modifyFile index fun file => { file with offset := offset + bytes.length }
        | _ => pure ()
        return none
      | .loose content =>
        let offset := if file.appends then content.length else file.offset
        modifyWorld fun world => world.modifyFile index fun file =>
          { file with
            channel := .loose (overwrite content offset raw.toBytes)
            offset := offset + raw.length }
        return none
      | .inlet pipe | .outlet pipe =>
        awaitSpace pipe
        if (← world).hasReader pipe then
          modifyWorld fun world => world.modifyPipe pipe (·.add raw)
          return none
        else
          let process := (← frame).process
          modifyWorld fun world => world.deliver process 13
          checkAlive
          return some .brokenPipe
      | .device .full => return some .noSpace
      | .device _ | .directory | .program => return none

/-- Writes to a descriptor. -/
def write (descriptor : Nat) (raw : Raw) : Act (Option Fault) := do
  if raw.isEmpty then return none
  else match (← frame).descriptors.lookup descriptor with
    | some index => writeFile index raw
    | none => return some .badDescriptor

/-- Writes to the error stream, as far as that is possible. -/
def writeError (raw : Raw) : Act Unit := do
  let _ ← write 2 raw

/-! ### Reading -/

/-- Waits until there is something in a pipe, or nobody who could write to it. -/
def awaitSupply (pipe : Nat) : Act Unit :=
  stepping
    (fun () => do
      checkAlive
      let world ← world
      if (world.pipe pipe).size == 0 && world.hasWriter pipe then
        await (.supply pipe)
        return .inl ()
      else return .inr ())
    mostRounds ()

/-- How much of an endless file is read at a time. -/
def endlessLength : Nat := 4096

/-- What can be read from a descriptor; nothing at the end of a file. -/
def ahead (descriptor : Nat) : Act (Except Fault Raw) := do
  match ← openFile? descriptor with
  | none => return .error .badDescriptor
  | some (_, file) =>
    if !file.readable then return .error .badDescriptor
    else match file.channel with
      | .file place =>
        match (← world).tree.node? place with
        | some (.file content _) => return .ok (Raw.ofBytes (content.drop file.offset))
        | _ => return .ok []
      | .loose content => return .ok (Raw.ofBytes (content.drop file.offset))
      | .outlet pipe | .inlet pipe =>
        awaitSupply pipe
        return .ok ((← world).pipe pipe).content
      | .directory => return .error .isDirectory
      | .program => return .ok (Raw.ofBytes (Tree.programBytes.drop file.offset))
      | .device .zeroes | .device .full => return .ok (List.replicate endlessLength '\x00')
      | .device _ => return .ok []

/-- Counts characters of what could be read as read. -/
def advance (descriptor count : Nat) : Act Unit := do
  match ← openFile? descriptor with
  | none => pure ()
  | some (index, file) =>
    match file.channel with
    | .outlet pipe | .inlet pipe =>
      modifyWorld fun world => world.modifyPipe pipe fun pipe => (pipe.take (some count)).2
    | _ =>
      modifyWorld fun world =>
        world.modifyFile index fun file => { file with offset := file.offset + count }

/-- Reads what there is. -/
def readChunk (descriptor : Nat) : Act (Except Fault Raw) := do
  match ← ahead descriptor with
  | .error fault => return .error fault
  | .ok raw =>
    advance descriptor raw.length
    return .ok raw

/-- Reads up to the next line end, which is left out. The second part says whether there was one. -/
def readLine (descriptor : Nat) : Act (Except Fault (Raw × Bool)) :=
  stepping
    (fun read => do
      match ← ahead descriptor with
      | .error fault => return .inr (.error fault)
      | .ok [] => return .inr (.ok (read, false))
      | .ok raw =>
        let line := raw.takeWhile (· != '\n')
        let isWhole := line.length < raw.length
        advance descriptor (if isWhole then line.length + 1 else line.length)
        if isWhole then return .inr (.ok (read ++ line, true)) else return .inl (read ++ line))
    mostRounds []

/-! ### Messages -/

/-- Prints in the name of the builtin that is being run. -/
def print (raw : Raw) : Act Unit :=
  modify fun state => { state with printed := raw.reverse ++ state.printed }

/-- Prints a line. -/
def printLine (raw : Raw) : Act Unit := print (raw ++ ['\n'])

/-- Writes what has been printed. -/
def flush : Act (Option Fault) := do
  let printed := (← get).printed
  modify fun state => { state with printed := [] }
  write 1 printed.reverse

/-- Writes a message of the shell on the error stream. -/
def complain (message : Raw) : Act Unit := do
  let frame ← frame
  let speaker := match frame.speaker with
    | some speaker => speaker ++ Raw.ofString ": "
    | none => []
  writeError (frame.name ++ Raw.ofString ": " ++ Raw.ofNat frame.line ++ Raw.ofString ": " ++
    speaker ++ message ++ ['\n'])

/-- Fails with a message. -/
def fail {α : Type} (message : Raw) : Act α := do
  complain message
  let _ ← flush
  setStatus 2
  throw .fails

/-- Fails with a message about something. -/
def failAbout {α : Type} (subject : Raw) (message : String) : Act α :=
  fail (subject ++ Raw.ofString (": " ++ message))

end Act

end EditorBridge.Shell
