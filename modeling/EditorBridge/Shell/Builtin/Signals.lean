import EditorBridge.Shell.Builtin.Jobs
import EditorBridge.Shell.Builtin.Quoting

/-!
# Sending signals and acting on them

A signal is sent to a process by its number. A shell can plan an action for a signal, or ignore it;
the plan for the end of the shell is kept like one for a signal.
-/

namespace EditorBridge.Shell.Builtin

/-! ### Sending -/

/-- How the builtin is used. -/
def killUsage : Raw :=
  Raw.ofString
    ("Usage: kill [-s sigspec | -signum | -sigspec] [pid | job]... or\n" ++ "kill -l [exitstatus]")

/-- Sends a signal to a process. -/
def send (signal : Signal) (target : Raw) : Act Nat := do
  let process? ← if target.head? == some '%' then do
      let _ ← jobOf (some target)
      pure none
    else if target.head? == some '-' then do
      let _ ← Act.number (target.drop 1)
      pure none
    else do pure (some (← Act.number target))
  let world ← Act.world
  match process?.filter fun process => (world.process? process).isSome with
  | some process =>
    Act.modifyWorld fun world => world.deliver process signal
    Act.checkAlive
    return 0
  | none =>
    Act.complain (Raw.ofString "No such process\n")
    return 1

/-- Tells the names of signals. -/
def listSignals (arguments : List Raw) : Act Nat := do
  match arguments with
  | [] =>
    Act.printLine ['0']
    (List.range Signal.count).forM fun signal =>
      if signal = 0 then pure () else Act.printLine (Raw.ofString (Signal.name signal))
    return 0
  | argument :: _ =>
    let status ← Act.number argument
    let signal := if 128 < status then status - 128 else status
    if 0 < signal && signal < Signal.count then
      Act.printLine (Raw.ofString (Signal.name signal))
      return 0
    else Act.fail (Raw.ofString "invalid signal number or exit status: " ++ argument)

/-- What the arguments ask for: to list names, or to send a signal, and to whom. -/
def killWish (arguments : List Raw) : Act (Bool × Option Signal × List Raw) := do
  match arguments with
  | ('-' :: text) :: rest =>
    match Signal.ofText? 1 text with
    | some signal => return (false, some signal, rest)
    | none =>
      let (options, rest) ← options "ls:" arguments
      let signals ← options.mapM fun (letter, text) => do
        if letter == 's' then
          match Signal.ofText? 1 text with
          | some signal => return some signal
          | none => Act.fail (Raw.ofString "invalid signal number or name: " ++ text)
        else return none
      return (options.any (·.1 == 'l'), (signals.filterMap id).getLast?, rest)
  | arguments => return (false, none, arguments)

/-- Sends a signal to processes, or tells the names of signals. -/
def kill (arguments : List Raw) : Act Nat := do
  if arguments.isEmpty then Act.fail killUsage
  let (lists, signal?, targets) ← killWish arguments
  if lists then
    if signal?.isSome then Act.fail killUsage else listSignals targets
  else if targets.isEmpty then Act.fail killUsage
  else
    let statuses ← targets.mapM (send (signal?.getD 15))
    return if statuses.contains 1 then 1 else 0

/-! ### Planning -/

/-- Plans an action for a signal, or takes the plan back. -/
def plan (signal : Signal) (action : Option Raw) : Act Unit := do
  Act.modifyFrame fun frame =>
    let others := frame.traps.filter (·.1 != signal)
    { frame with
      traps := match action with
        | some action => (signal, action) :: others
        | none => others }
  let frame ← Act.frame
  Act.modifyWorld fun world => world.announce frame

/-- Plans an action for some signals, up to one that there is not. -/
def planAll (action : Option Raw) : List Raw → Act Nat
  | [] => return 0
  | name :: rest => do
    match Signal.ofText? 0 name with
    | some signal =>
      plan signal action
      planAll action rest
    | none =>
      Act.writeError (Raw.ofString "trap: " ++ name ++ Raw.ofString ": bad trap\n")
      return 1

/-- Plans an action for signals, or tells what is planned. -/
def trap (arguments : List Raw) : Act Nat := do
  match ← operands arguments with
  | [] =>
    let frame ← Act.frame
    (List.range Signal.count).forM fun signal =>
      match frame.trap? signal with
      | some action =>
        Act.printLine (Raw.ofString "trap -- " ++ singleQuoted action ++
          Raw.ofString (" " ++ Signal.name signal))
      | none => pure ()
    return 0
  | [name] => planAll none [name]
  | first :: rest =>
    if (Signal.ofNumber? first).isSome then planAll none (first :: rest)
    else planAll (if first == ['-'] then none else some first) rest

end EditorBridge.Shell.Builtin
