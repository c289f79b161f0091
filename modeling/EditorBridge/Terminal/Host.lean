import EditorBridge.Command.Program
import EditorBridge.Shell.Process
import EditorBridge.Terminal.Buffers

/-!
# The terminal as a host

A terminal answers requests on its machine: replacing writes the file or prints the content,
notifications are printed as lines, and saving has nothing to do, since the files hold the text of
their buffers. Processes are run by a runner, which may be any. Questions that are not answered with yes
beforehand are declined, because nobody sits in front of the terminal; where somebody does, a prompter
asks.
-/

namespace EditorBridge

/-- A machine, and what was made known to the terminal so far. -/
structure Console where
  machine : Machine
  registrations : List Registration

/-- Runs the process of a call. There is no answer when asking ended the program. -/
abbrev Runner := Call → Machine → Option (Except String Output) × Machine

/-- Runs processes on the machine itself. -/
def Runner.system : Runner := fun call machine =>
  let (answer, machine) := machine.spawn call
  (some answer, machine)

/-- How a user answers questions. An error stands for a question that could not be put. -/
abbrev Prompter := String → Machine → Except Error Bool × Machine

/-- Nobody is there to be asked. -/
def Prompter.absent : Prompter := fun _ machine => (.ok false, machine)

/-- The text of a registration. -/
def Registration.text : Registration → String
  | .command id => "command:" ++ id
  | .scheme name => "scheme:" ++ name

namespace Terminal

/-- The mark in front of a notification. -/
def mark : Level → String
  | .info => "✅ "
  | .warning => "⚠️  "
  | .error => "❌ "

/-- The line of a notification. -/
def line (notification : Notification) : String :=
  mark notification.level ++ notification.message ++ "\n"

/-- Prints a notification: good news on the standard output unless that is reserved, everything
else on the error stream. -/
def notify (terminal : Terminal) (machine : Machine) (notification : Notification) : Machine :=
  if notification.level = .info && !terminal.isOutputReserved then machine.print (line notification)
  else machine.printError (line notification)

/-- Gives a buffer a new content. -/
def replace (machine : Machine) (document : Document) (content : String) :
    Except Error Unit × Machine :=
  match document.path with
  | none => (.ok (), machine.print content)
  | some path =>
    match machine.writeText path content with
    | .ok machine => (.ok (), machine)
    | .error reason => (.error (.io reason), machine)

/-- Answers requests on the terminal. -/
def host (terminal : Terminal) (runner : Runner) : Host Console where
  answer
    | .save _, console => (some (.ok ()), console)
    | .run call, console =>
      let (answer, machine) := runner call console.machine
      (answer, { console with machine := machine })
    | .replace document content, console =>
      let (answer, machine) := replace console.machine document content
      (some answer, { console with machine := machine })
    | .notify notification, console =>
      (some (), { console with machine := terminal.notify console.machine notification })
    | .confirm _, console => (some (.ok terminal.assumeYes), console)
    | .registerCommand id, console =>
      (some (), { console with registrations := console.registrations ++ [.command id] })
    | .registerScheme scheme, console =>
      (some (), { console with registrations := console.registrations ++ [.scheme scheme] })

/-- The terminal with a user, who is asked unless every question is answered with yes. -/
def hostAsking (terminal : Terminal) (runner : Runner) (prompter : Prompter) : Host Console where
  answer
    | .confirm question, console =>
      if terminal.assumeYes then (some (.ok true), console)
      else
        let (answer, machine) := prompter question console.machine
        (some answer, { console with machine := machine })
    | request, console => (terminal.host runner).answer request console

end Terminal

end EditorBridge
