import EditorBridge.Shell.Builtin
import EditorBridge.Shell.Callee
import EditorBridge.Shell.Fork
import EditorBridge.Shell.Invocation
import EditorBridge.Shell.Loop
import EditorBridge.Shell.Tools
import EditorBridge.Shell.Tools.Environment
import EditorBridge.Shell.Trace

/-!
# Running commands

The meaning of commands, scripts and programs. Every call uses up one unit of fuel, which bounds how
deep calls are nested; a process that does not come to an end within it is stuck.
-/

namespace EditorBridge.Shell

/-- How a command is run. -/
structure Stance where
  /-- Someone looks at its status. -/
  tested : Bool
  /-- Nothing is done behind it in its process, which ends with it. -/
  last : Bool
  deriving DecidableEq, Repr

namespace Stance

/-- Nobody looks at the status, and more follows. -/
def usual : Stance := ⟨false, false⟩

/-- Someone looks at the status. -/
def test : Stance := ⟨true, false⟩

/-- The stance with more to follow. -/
def inner (stance : Stance) : Stance := { stance with last := false }

/-- The stance of a process of its own. -/
def whole (stance : Stance) : Stance := { stance with last := true }

end Stance

/-- A failure of the command ends a shell that is told to end then. -/
def Command.isWatched : Command → Bool
  | .simple .. | .subshell .. | .background _ | .pipeline _ => true
  | _ => false

/-- The command as it is run in a process of its own: redirections are for good there. -/
def Command.alone : Command → Command
  | .redirected line body redirections => .subshell line body redirections
  | command => command

namespace Act

/-- Sets the line that messages name. -/
def atLine (line : Nat) : Act Unit := modifyFrame fun frame => { frame with line := line }

/-- All that can be read from a descriptor. -/
def readAll (descriptor : Nat) : Act Raw :=
  stepping
    (fun (found : List Raw) => do
      match ← readChunk descriptor with
      | .error _ | .ok [] => return .inr found.reverse.flatten
      | .ok raw => return .inl (raw :: found))
    mostRounds []

/-- The content of a script. -/
def readScript (path : Raw) : Act Raw := do
  let index ← Redirect.openIn .reading false path
  let number ← Redirect.spareNumber
  assignDescriptor number (some index)
  let script ← readAll number
  assignDescriptor number none
  return script.filter (· != '\x00')

/-- The path of a script that is run in this shell. -/
def scriptPath (name : Raw) : Act Raw := do
  if name.contains '/' then return name
  else
    let state ← get
    let isFile (path : Raw) : Bool :=
      match state.world.tree.find state.frame.directory ⟨Raw.toString path⟩ with
      | .ok (_, .file ..) | .ok (_, .program _) => true
      | _ => false
    let paths := state.frame.searchDirectories.map fun directory => Builtin.pathIn directory name
    match paths.find? isFile with
    | some path => return path
    | none => failAbout name "not found"

/-- The most calls of functions inside one another. -/
def mostCalls : Nat := 1000

/-- Refuses one more call of a function inside too many others. -/
def checkDepth (calls : Nat) : Act Unit := do
  if mostCalls ≤ calls then
    fail (Raw.ofString "Maximum function recursion depth (" ++ Raw.ofNat mostCalls ++
      Raw.ofString ") reached")

/-- Ends the shell if it is told to end when a command fails. -/
def checkStatus (isWatched : Bool) : Act Unit := do
  let state ← get
  if isWatched && state.frame.isOn .errexit && state.status != 0 then throw .exits

/-- Takes back the status that was kept for the end of the shell. -/
def takeKept : Act Unit :=
  modify fun state =>
    { state with
      status := state.frame.kept.getD state.status, frame := { state.frame with kept := none } }

/-- The signal that is to be acted on next; it counts as acted on then. -/
def nextSignal : Act (Option Signal) :=
  modifyGet fun state =>
    let process := state.frame.process
    let pending := match state.world.process? process with
      | some found => found.pending
      | none => []
    match pending.min? with
    | none => (none, state)
    | some signal =>
      let world := state.world.modifyProcess process fun found =>
        { found with pending := found.pending.filter (· != signal) }
      (some signal, { state with world := world })

/-- Starts the stages of a pipeline, and gives their processes. -/
def startStages (prepare : Frame → Frame) (tested : Bool) :
    Option Nat → List Command → Act (List Nat)
  | _, [] => return []
  | input, stage :: rest => do
    let withInput (frame : Frame) : Frame :=
      match input with
      | some index => (prepare frame).withDescriptor 0 index
      | none => prepare frame
    let close : Act Unit := match input with
      | some index => closeFile index
      | none => pure ()
    if rest.isEmpty then
      let process ← spawn withInput stage tested
      close
      return [process]
    else
      let (_, outlet, inlet) ← makePipe false
      let process ← spawn (fun frame => (withInput frame).withDescriptor 1 inlet) stage tested
      close
      closeFile inlet
      return process :: (← startStages prepare tested (some outlet) rest)

/-- An open file with nothing to read. -/
def openSink : Act Nat := openChannel .reading (.device .sink)

/-- Notes the processes of a job in the background. -/
def keepJob (processes : List Nat) : Act Unit := do
  let _ ← addJob processes
  modifyFrame fun frame => { frame with background := processes.getLast? }
  setStatus 0

/-- Waits for processes to their end, and takes the status of the last one. -/
def awaitAll (processes : List Nat) : Act Unit := do
  let number ← addJob processes
  let ending ← awaitJob number false
  dropJob number
  setStatus ((ending.map Ending.status).getD 0)

/-- Remembers where the programs of stages are found. -/
def rememberStages (stages : List Command) : Act Unit :=
  stages.forM fun stage =>
    match stage with
    | .simple _ _ (word :: _) _ => do
      match (Word.plain? word).filter isName with
      | some name =>
        let state ← get
        match Builtin.meaningOf state true state.frame.searchDirectories name with
        | .program _ => Builtin.remember name
        | _ => pure ()
      | none => pure ()
    | _ => pure ()

/-- Ends a process that was to become a program, with the reason why it cannot. -/
def refuseProgram {α : Type} (name : Raw) (fault : Fault) : Act α := do
  let wording := match fault with
    | .noEntry | .notDirectory => "not found"
    | fault => fault.wording
  complain (name ++ Raw.ofString (": " ++ wording))
  exitWith (match fault with
    | .noEntry | .notDirectory | .nameTooLong | .linkLoop => 127
    | _ => 126)

/-- Lets the process become one of another program. -/
def becomeProgram (environment : List (Raw × Raw)) : Act Unit := do
  let spare := (← frame).descriptors.filter fun (descriptor, _) => Redirect.firstSpare ≤ descriptor
  spare.forM fun (descriptor, _) => assignDescriptor descriptor none
  modifyFrame fun frame => frame.forProgram environment
  let frame ← frame
  modifyWorld fun world => world.announce frame

end Act

/-- The program behind a path; a file that is none is a script. -/
def launchOf (state : State) (path : Raw) (fields : List Raw) : Except Fault Launch :=
  let arguments := fields.map Raw.toBytes
  if arguments.any fun argument => Launch.longestArgument < argument.length then
    .error .argumentsTooLong
  else
    match Launch.ofPath state.world.tree state.frame.directory ⟨Raw.toString path⟩ arguments with
    | .error .notExecutable =>
      .ok ⟨"sh", Text.encode "/bin/sh" :: path.toBytes :: arguments.drop 1⟩
    | found => found

/-- The lines of a script from one place to another. -/
def linesBetween (before after : Scan) : Raw :=
  before.rest.take (before.rest.length - after.rest.length)

mutual

/-- The output of a command in an expansion. -/
def substitute : Nat → Command → Act Raw
  | 0, _ => throw .stuck
  | _ + 1, .nothing => return []
  | fuel + 1, command => do
    let (found, status) ← Act.collecting (asShell fuel (run fuel Stance.usual.whole command))
    modify fun state => { state with substituted := status }
    return Raw.chomp (found.filter (· != '\x00'))

/-- Acts on the signals that have arrived. -/
def actOnSignals : Nat → Act Unit
  | 0 => throw .stuck
  | fuel + 1 => do
    Act.checkAlive
    match ← Act.nextSignal with
    | none => pure ()
    | some signal =>
      let state ← get
      let before := state.frame.kept
      let restore : Act Unit := Act.modifyFrame fun frame => { frame with kept := before }
      match state.frame.trap? signal with
      | none => pure ()
      | some action =>
        Act.modifyFrame fun frame => { frame with kept := some (before.getD state.status) }
        Act.catching (do let _ ← script fuel .usual false action) fun flow => do
          match flow with
          | .returns true => restore
          | .returns false | .breaks _ | .continues _ =>
            Act.setStatus state.status
            restore
          | _ => pure ()
          throw flow
        Act.setStatus state.status
        restore
      actOnSignals fuel

/-- Does what a shell does from its start to its end, where it acts on its plan for that. -/
def asShell : Nat → Act Unit → Act Unit
  | 0, _ => throw .stuck
  | fuel + 1, act => do
    let upTo (act : Act Unit) : Act Unit := Act.catching act fun flow =>
      match flow with
      | .killed | .stuck => throw flow
      | _ => pure ()
    upTo act
    Act.takeKept
    match (← Act.frame).trap? 0 with
    | none => pure ()
    | some action =>
      modify fun state =>
        { state with frame := { state.frame with
            kept := some state.status, traps := state.frame.traps.filter (·.1 != 0) } }
      upTo (do let _ ← script fuel .usual false action)
      Act.takeKept

/-- Runs a command. -/
def run : Nat → Stance → Command → Act Unit
  | 0, _, _ => throw .stuck
  | fuel + 1, stance, command => do
    let check : Act Unit := Act.checkStatus (command.isWatched && !stance.tested)
    if !(← Act.frame).isOn .noexec then
      actOnSignals fuel
      Act.catching (perform fuel stance command) fun flow => do
        match flow with
        | .returns _ | .breaks _ | .continues _ =>
          check
          if stance.last then throw .exits else throw flow
        | flow => throw flow
      actOnSignals fuel
      check
    if stance.last then throw .exits

/-- Does what a command says. -/
def perform : Nat → Stance → Command → Act Unit
  | 0, _, _ => throw .stuck
  | _ + 1, _, .nothing => pure ()
  | fuel + 1, stance, .simple line assignments words redirections =>
    simple fuel stance line assignments words redirections
  | fuel + 1, stance, .sequence first second => do
    run fuel stance.inner first
    run fuel stance second
  | fuel + 1, stance, .bothOf first second => do
    run fuel .test first
    if (← get).status == 0 then run fuel stance second
  | fuel + 1, stance, .eitherOf first second => do
    run fuel .test first
    if (← get).status != 0 then run fuel stance second
  | fuel + 1, _, .negation command => do
    run fuel .test command
    Act.setStatus (if (← get).status == 0 then 1 else 0)
  | fuel + 1, stance, .choice test yes no => do
    run fuel .test test
    if (← get).status == 0 then run fuel stance yes
    else match no with
      | .nothing => Act.setStatus 0
      | no => run fuel stance no
  | fuel + 1, stance, .loop untilDone test body =>
    Act.repeating untilDone (run fuel .test test) (run fuel stance.inner body)
  | fuel + 1, stance, .each line name words body => do
    Act.atLine line
    let values ← words.mapM (Expansion.fields (substitute fuel))
    Act.forEach values.flatten fun value => do
      Act.assign name value
      run fuel stance.inner body
  | fuel + 1, stance, .selection line subject arms => do
    Act.atLine line
    selection fuel stance (← Expansion.text (substitute fuel) subject) arms
  | _ + 1, _, .definition name body => do
    Act.modifyFrame fun frame =>
      { frame with functions := (name, body) :: frame.functions.filter (·.1 != name) }
    Act.setStatus 0
  | fuel + 1, stance, .redirected line body redirections => do
    Act.atLine line
    Redirect.within (substitute fuel) false redirections (pure ()) fun _ =>
      run fuel stance.inner body
  | fuel + 1, stance, .subshell line body redirections => do
    Act.atLine line
    let work : Act Unit := do
      Redirect.openForGood (substitute fuel) redirections
      run fuel stance.whole body
    if stance.last && !(← Act.frame).hasTraps then work
    else Act.awaitProcess id (asShell fuel work)
  | _ + 1, _, .background (.pipeline stages) => do
    Act.rememberStages stages
    Act.keepJob
      (← Act.startStages (fun frame => Act.inBackground frame none) false
        (some (← Act.openSink)) stages)
  | _ + 1, _, .background command => do
    let sink ← Act.openSink
    let process ← Act.spawn (fun frame => Act.inBackground frame (some sink)) command.alone false
    Act.closeFile sink
    Act.keepJob [process]
  | _ + 1, stance, .pipeline stages => do
    Act.rememberStages stages
    Act.awaitAll (← Act.startStages id stance.tested none stages)

/-- Runs the body of the first arm with a pattern that the text matches. -/
def selection : Nat → Stance → Raw → List (List Word × Command) → Act Unit
  | 0, _, _, _ => throw .stuck
  | _ + 1, _, _, [] => Act.setStatus 0
  | fuel + 1, stance, text, (patterns, body) :: rest => do
    let found ← patterns.foldlM
      (fun found word => do
        if found then return true
        else return (← Expansion.pattern (substitute fuel) word).accepts text)
      false
    if !found then selection fuel stance text rest
    else match body with
      | .nothing => Act.setStatus 0
      | body => run fuel stance body

/-- Runs a simple command. -/
def simple : Nat → Stance → Nat → List (Raw × Word) → List Word → List Redirection → Act Unit
  | 0, _, _, _, _, _ => throw .stuck
  | fuel + 1, stance, line, assignments, words, redirections => do
    Act.atLine line
    modify fun state => { state with substituted := 0 }
    let substitute := substitute fuel
    let callee ← Callee.ofWords substitute words
    let keeps := callee.keepsAssignments
    let exports := callee.isExec && 1 < callee.fields.length
    let failed : Act Unit := do
      Act.setStatus 2
      if callee.special then throw .fails
    let whole : Act Unit :=
      Redirect.within substitute callee.isExec redirections failed fun descriptor => do
        let told ← assignments.mapM fun (name, word) => do
          let value ← Expansion.value substitute word
          if !keeps then Act.localize name
          Act.assign name value
          if !keeps || exports then Act.mark name fun entry => { entry with exported := true }
          return name ++ '=' :: value
        if !(told.isEmpty && callee.fields.isEmpty) then
          Trace.tell substitute descriptor (told ++ callee.fields)
        if callee.fields.isEmpty then Act.setStatus (← get).substituted
        else invoke fuel stance callee
    if keeps then whole else Act.withOwnVariables whole

/-- Invokes what a call leads to. -/
def invoke : Nat → Stance → Callee → Act Unit
  | 0, _, _ => throw .stuck
  | fuel + 1, stance, callee => do
    let state ← get
    let name := callee.name
    let arguments := callee.fields.drop 1
    let meaning := if callee.isBuiltin then callee.meaning
      else Builtin.meaningOf state callee.functions (callee.directories state.frame) name
    match meaning with
    | .builtin => builtin fuel stance callee
    | .function body =>
      let before := state.frame
      Act.checkDepth before.calls
      Act.modifyFrame fun frame =>
        { frame with
          parameters := arguments, loops := 0, calls := before.calls + 1
          optionIndex := 1, optionOffset := none }
      Act.ending
        (Act.catching (run fuel stance.inner body) fun flow =>
          match flow with
          | .returns _ => pure ()
          | flow => throw flow)
        (Act.modifyFrame fun frame =>
          { frame with
            parameters := before.parameters, loops := before.loops, calls := before.calls
            optionIndex := before.optionIndex, optionOffset := before.optionOffset })
    | .missing fault =>
      let wording := match fault with
        | .noEntry | .notDirectory => "not found"
        | fault => fault.wording
      Act.complain (name ++ Raw.ofString (": " ++ wording))
      Act.setStatus 127
    | .program path =>
      if !callee.standard then Builtin.remember name
      if stance.last && !state.frame.hasTraps then program fuel path callee.fields
      else Act.awaitProcess id (program fuel path callee.fields)

/-- Performs a builtin. -/
def builtin : Nat → Stance → Callee → Act Unit
  | 0, _, _ => throw .stuck
  | fuel + 1, stance, callee => do
    let name := callee.name
    let arguments := callee.fields.drop 1
    let act : Act Nat :=
      match String.ofList name with
      | "eval" => script fuel stance.inner false ([' '].intercalate arguments)
      | "." => do
        match ← Builtin.operands arguments with
        | [] => return 0
        | file :: _ =>
          let path ← Act.scriptPath file
          let text ← Act.readScript path
          Act.modifyFrame fun frame => { frame with speaker := some path }
          Act.catching (script fuel .usual true text) fun flow => do
            match flow with
            | .returns _ => return (← get).status
            | flow => throw flow
      | "exec" => do
        match arguments with
        | [] => return 0
        | program :: _ => do
          replaceShell fuel program arguments
          return 0
      | _ =>
        match Builtin.ofName? name with
        | some act => act arguments
        | none => return 0
    Builtin.perform name callee.special act

/-- Runs a program in the stead of the shell. -/
def replaceShell : Nat → Raw → List Raw → Act Unit
  | 0, _, _ => throw .stuck
  | fuel + 1, name, fields => do
    let state ← get
    if name.contains '/' then program fuel name fields
    else match Builtin.search state name with
      | .ok path => program fuel path fields
      | .error fault => Act.refuseProgram name fault

/-- Runs the lines of a script one after the other. The answer is the status of the last command.
`isFile` says that the script stands in a file. -/
def script : Nat → Stance → (isFile : Bool) → Raw → Act Nat
  | 0, _, _, _ => throw .stuck
  | fuel + 1, stance, isFile, text =>
    Act.stepping
      (fun ((scan, status) : Scan × Nat) => do
        let frame ← Act.frame
        let tell (raw : Raw) : Act Unit := do
          if isFile && frame.isOn .verbose then Act.writeError raw
        match Reader.readLine scan frame.aliases with
        | .error refusal => do
          tell scan.rest
          Act.atLine refusal.line
          Act.fail (Raw.ofString refusal.problem.message)
        | .ok (line, rest) => do
          tell (linesBetween scan rest)
          match line with
          | .finish => return .inr status
          | .blank => return .inl (rest, status)
          | .command command => do
            run fuel stance command
            return .inl (rest, (← get).status))
      Act.mostRounds (Scan.start text, 0)

/-- Runs the program of a path in the present process, which ends with it. -/
def program : Nat → Raw → List Raw → Act Unit
  | 0, _, _ => throw .stuck
  | fuel + 1, path, fields => do
    let state ← get
    match launchOf state path fields with
    | .ok found => launch fuel found state.frame.environment
    | .error fault => Act.refuseProgram (fields.headD []) fault

/-- Runs a system program in the present process, which ends with it. -/
def launch : Nat → Launch → List (Raw × Raw) → Act Unit
  | 0, _, _ => throw .stuck
  | fuel + 1, found, environment => do
    let arguments := found.arguments.map Raw.ofBytes
    let name := arguments.headD []
    Act.becomeProgram environment
    match found.program with
    | "sh" | "dash" => shell fuel name (arguments.drop 1)
    | "env" => withEnvironment fuel name (arguments.drop 1) environment
    | tool => Tools.run tool name (arguments.drop 1)

/-- Runs a program in another environment. -/
def withEnvironment : Nat → Raw → List Raw → List (Raw × Raw) → Act Unit
  | 0, _, _, _ => throw .stuck
  | fuel + 1, name, arguments, environment => do
    match ← Tools.Environment.plan name environment arguments with
    | .finish status => Act.exitWith (← Tools.finish name status)
    | .run environment program arguments =>
      let state ← get
      let all := program :: arguments
      let launched :=
        if program.contains '/' then launchOf state program all
        else
          match Launch.ofName state.world.tree state.frame.directory
              (Tools.Environment.directories environment) (Raw.toString program)
              (all.map Raw.toBytes) with
          | .error .notExecutable => .ok ⟨"sh", Text.encode "/bin/sh" :: all.map Raw.toBytes⟩
          | found => found
      match launched with
      | .ok found => launch fuel found environment
      | .error fault => Act.exitWith (← Tools.Environment.refuse name program fault)

/-- Runs a shell in the present process, which ends with it. -/
def shell : Nat → Raw → List Raw → Act Unit
  | 0, _, _ => throw .stuck
  | fuel + 1, name, arguments => do
    let tree := (← Act.world).tree
    Act.modifyFrame (Invocation.start tree name)
    Act.setStatus 0
    asShell fuel do
      let source ← Invocation.read arguments
      let _ ← Act.flush
      match source with
      | .text text =>
        let reads := (← Act.frame).isOn .stdin
        let _ ← script fuel .usual false text
        if reads then
          let _ ← script fuel .usual true (← Act.readAll 0)
      | .input =>
        let _ ← script fuel .usual true (← Act.readAll 0)
      | .file path rest =>
        let text ← Act.readScript path
        Act.modifyFrame fun frame => { frame with name := path, parameters := rest }
        let _ ← script fuel .usual true text
    throw .exits

end

end EditorBridge.Shell
