import EditorBridge.Machine.Tree
import EditorBridge.Shell.Signal
import EditorBridge.Shell.Syntax

/-!
# The frame of a shell

What belongs to one shell and is copied for a subshell: its directory, variables, functions,
parameters, options, descriptors, traps and jobs.
-/

namespace EditorBridge.Shell

/-- A variable; one that is unset can still have marks. -/
structure Variable where
  name : Raw
  value : Option Raw
  /-- Programs get it. -/
  exported : Bool := false
  /-- It keeps its value. -/
  fixed : Bool := false
  deriving DecidableEq, Repr

/-- The row of a name in a table with some rows. -/
def rowOf (rows : Nat) (name : Raw) : Nat :=
  (name.foldl (fun total c => total + c.toNat) (16 * (name.head?.map Char.toNat).getD 0)) % rows

/-- Entries in the order of a table with some rows, each row in the order of arrival. -/
def inRows {α : Type} (rows : Nat) (name : α → Raw) (entries : List α) : List α :=
  entries.mergeSort fun first second => rowOf rows (name first) ≤ rowOf rows (name second)

/-- The options of a shell. -/
inductive Switch where
  | errexit | noglob | ignoreeof | interactive | monitor | noexec | stdin | xtrace | verbose | vi
  | emacs | noclobber | allexport | notify | nounset | privileged | nolog | debug
  deriving DecidableEq, Repr

namespace Switch

/-- Every option with its name and its letter. -/
def table : List (Switch × String × Option Char) :=
  [(.errexit, "errexit", some 'e'), (.noglob, "noglob", some 'f'),
    (.ignoreeof, "ignoreeof", some 'I'), (.interactive, "interactive", some 'i'),
    (.monitor, "monitor", some 'm'), (.noexec, "noexec", some 'n'), (.stdin, "stdin", some 's'),
    (.xtrace, "xtrace", some 'x'), (.verbose, "verbose", some 'v'), (.vi, "vi", some 'V'),
    (.emacs, "emacs", some 'E'), (.noclobber, "noclobber", some 'C'),
    (.allexport, "allexport", some 'a'), (.notify, "notify", some 'b'),
    (.nounset, "nounset", some 'u'), (.privileged, "privileged", some 'p'),
    (.nolog, "nolog", none), (.debug, "debug", none)]

/-- The option of a letter. -/
def ofLetter? (c : Char) : Option Switch := (table.find? (·.2.2 == some c)).map (·.1)

/-- The option of a name. -/
def ofName? (name : Raw) : Option Switch :=
  (table.find? (·.2.1 == String.ofList name)).map (·.1)

end Switch

/-- How a process ended. -/
inductive Ending where
  | exit (status : Nat)
  | killedBy (signal : Signal)
  deriving DecidableEq, Repr

/-- The status that an ending leaves in the shell that waited for it. -/
def Ending.status : Ending → Nat
  | .exit status => status
  | .killedBy signal => 128 + signal

/-- Processes that were started together, with what is known about their ends. -/
structure Job where
  number : Nat
  processes : List (Nat × Option Ending)
  deriving DecidableEq, Repr

namespace Job

/-- The end of the job is that of its last process. -/
def ending? (job : Job) : Option Ending := job.processes.getLast?.bind (·.2)

/-- All processes of the job have ended. -/
def isDone (job : Job) : Bool := job.processes.all (·.2.isSome)

/-- The last process of the job. -/
def last (job : Job) : Nat := (job.processes.getLast?.map (·.1)).getD 0

end Job

/-- What belongs to one shell. -/
structure Frame where
  /-- The process that the shell runs in. -/
  process : Nat
  /-- The process of the shell that this one is a subshell of, or its own. -/
  root : Nat
  parent : Nat
  directory : Place
  /-- The directory as it was asked for. -/
  path : Raw
  bindings : List Variable
  functions : List (Raw × Command)
  aliases : List (Raw × Raw)
  parameters : List Raw
  /-- The name that the shell was called by. -/
  name : Raw
  /-- The open files by the numbers that stand for them. -/
  descriptors : List (Nat × Nat)
  switches : List Switch
  /-- The line of the command that is being run. -/
  line : Nat
  /-- The builtin that messages name. -/
  speaker : Option Raw
  /-- The loops around the command that is being run. -/
  loops : Nat
  /-- The number of calls of functions that are under way. -/
  calls : Nat
  /-- For each call that is under way the variables of its own, as they were before. -/
  scopes : List (List (Raw × Option Variable))
  /-- What is done about signals; nothing for an empty text. -/
  traps : List (Signal × Raw)
  /-- The signals that were ignored from the start, which stays so. -/
  deaf : List Signal
  jobs : List Job
  /-- The last process in the background. -/
  background : Option Nat
  /-- The next parameter that is read as an option. -/
  optionIndex : Nat
  /-- How far the options in one parameter have been read. -/
  optionOffset : Option Nat
  /-- The permissions that new files do not get. -/
  mask : Nat
  /-- The programs whose places have been looked up. -/
  remembered : List Raw
  /-- The status that the shell had before the action that is being run. -/
  kept : Option Nat

namespace Frame

/-- A frame with nothing in it, for a shell of some name. -/
def bare (process parent : Nat) (directory : Place) (descriptors : List (Nat × Nat)) : Frame where
  process := process
  root := process
  parent := parent
  directory := directory
  path := Raw.ofString (Path.ofPlace directory).text
  bindings := []
  functions := []
  aliases := []
  parameters := []
  name := []
  descriptors := descriptors
  switches := []
  line := 0
  speaker := none
  loops := 0
  calls := 0
  scopes := []
  traps := []
  deaf := []
  jobs := []
  background := none
  optionIndex := 1
  optionOffset := none
  mask := 0o022
  remembered := []
  kept := none

/-- The option is on. -/
def isOn (frame : Frame) (switch : Switch) : Bool := frame.switches.contains switch

/-- Turns an option on or off. -/
def turn (frame : Frame) (switch : Switch) (on : Bool) : Frame :=
  let others := frame.switches.filter (· != switch)
  { frame with switches := if on then switch :: others else others }

/-- The letters of the options that are on. -/
def letters (frame : Frame) : Raw :=
  Switch.table.reverse.filterMap fun (switch, _, letter) =>
    if frame.isOn switch then letter else none

/-- The variable of a name. -/
def binding? (frame : Frame) (name : Raw) : Option Variable :=
  frame.bindings.find? (·.name == name)

/-- The value of a variable. -/
def value? (frame : Frame) (name : Raw) : Option Raw := (frame.binding? name).bind Variable.value

/-- The variable of a name keeps its value. -/
def isFixed (frame : Frame) (name : Raw) : Bool := (frame.binding? name).any Variable.fixed

/-- Puts a variable in the stead of the one with its name, or behind all others. -/
def bind (frame : Frame) (entry : Variable) : Frame :=
  { frame with
    bindings :=
      if (frame.binding? entry.name).isSome then
        frame.bindings.map fun other => if other.name == entry.name then entry else other
      else frame.bindings ++ [entry] }

/-- Takes a variable away. -/
def unbind (frame : Frame) (name : Raw) : Frame :=
  { frame with bindings := frame.bindings.filter (·.name != name) }

/-- Puts back what a name stood for. -/
def restore (frame : Frame) (name : Raw) (before : Option Variable) : Frame :=
  match before with
  | some entry => frame.bind entry
  | none => frame.unbind name

/-- Gives a variable a value. -/
def assign (frame : Frame) (name value : Raw) : Frame :=
  let found := frame.binding? name
  frame.bind ⟨name, some value, found.any Variable.exported || frame.isOn .allexport,
    found.any Variable.fixed⟩

/-- The variables in the order of their names. -/
def sorted (frame : Frame) : List Variable :=
  frame.bindings.mergeSort fun first second =>
    decide (String.ofList first.name ≤ String.ofList second.name)

/-- The characters that separate fields. -/
def separators (frame : Frame) : Raw := (frame.value? (Raw.ofString "IFS")).getD [' ', '\t', '\n']

/-- The directories that a text with colons names. -/
def directoriesOf (text : Raw) : List Raw := Text.splitAt (· == ':') text

/-- The directories that programs are looked for in. -/
def searchDirectories (frame : Frame) : List Raw :=
  match frame.value? (Raw.ofString "PATH") with
  | some value => directoriesOf value
  | none => []

/-- What is done about a signal. -/
def trap? (frame : Frame) (signal : Signal) : Option Raw := frame.traps.lookup signal

/-- The shell waits for signals to act on. -/
def hasTraps (frame : Frame) : Bool := frame.traps.any fun trap => !trap.2.isEmpty

/-- The variables that programs get. -/
def environment (frame : Frame) : List (Raw × Raw) :=
  (inRows 39 Variable.name frame.bindings).filterMap fun entry =>
    if entry.exported then entry.value.map fun value => (entry.name, value) else none

end Frame

end EditorBridge.Shell
