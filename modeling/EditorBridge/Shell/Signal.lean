import EditorBridge.Shell.Numeral

/-!
# Signals

The signals that processes send each other, by number and by name, and what becomes of a process
that has made no plans for them.
-/

namespace EditorBridge.Shell

/-- A signal by its number. Zero is no signal; as an event it stands for the end of a shell. -/
abbrev Signal := Nat

namespace Signal

/-- The signals with a name of their own, and how a process that they ended is reported. -/
def table : List (Signal × String × String) :=
  [(1, "HUP", "Hangup"), (2, "INT", "Interrupt"), (3, "QUIT", "Quit"),
    (4, "ILL", "Illegal instruction"), (5, "TRAP", "Trace/breakpoint trap"), (6, "ABRT", "Aborted"),
    (7, "BUS", "Bus error"), (8, "FPE", "Floating point exception"), (9, "KILL", "Killed"),
    (10, "USR1", "User defined signal 1"), (11, "SEGV", "Segmentation fault"),
    (12, "USR2", "User defined signal 2"), (13, "PIPE", "Broken pipe"), (14, "ALRM", "Alarm clock"),
    (15, "TERM", "Terminated"), (16, "16", "Stack fault"), (17, "CHLD", "Child exited"),
    (18, "CONT", "Continued"), (19, "STOP", "Stopped (signal)"), (20, "TSTP", "Stopped"),
    (21, "TTIN", "Stopped (tty input)"), (22, "TTOU", "Stopped (tty output)"),
    (23, "URG", "Urgent I/O condition"), (24, "XCPU", "CPU time limit exceeded"),
    (25, "XFSZ", "File size limit exceeded"), (26, "VTALRM", "Virtual timer expired"),
    (27, "PROF", "Profiling timer expired"), (28, "WINCH", "Window changed"),
    (29, "IO", "I/O possible"), (30, "PWR", "Power failure"), (31, "SYS", "Bad system call")]

/-- The number of signals. -/
def count : Nat := 65

/-- The name of a signal; the event of number zero is the end of a shell. -/
def name (signal : Signal) : String :=
  if signal = 0 then "EXIT"
  else match table.find? (·.1 == signal) with
    | some (_, name, _) => name
    | none =>
      if signal = 34 then "RTMIN"
      else if signal = 64 then "RTMAX"
      else if signal < 34 then Decimal.natText signal
      else if signal < 50 then "RTMIN+" ++ Decimal.natText (signal - 34)
      else "RTMAX-" ++ Decimal.natText (64 - signal)

/-- How a process that the signal ended is reported. -/
def report (signal : Signal) : String :=
  match table.find? (·.1 == signal) with
  | some (_, _, report) => report
  | none =>
    if 34 ≤ signal && signal < count then "Real-time signal " ++ Decimal.natText (signal - 34)
    else "Unknown signal " ++ Decimal.natText signal

/-- The report is left out for processes that ended in the usual course of pipes and interrupts. -/
def isReported (signal : Signal) : Bool := signal != 2 && signal != 13

/-- The signal of a number. -/
def ofNumber? (raw : Raw) : Option Signal :=
  if raw.isEmpty || !raw.all Decimal.isDigit then none
  else
    let n := Decimal.value raw
    if n < count then some n else none

/-- The signal of a number, or of a name in any case, from the lowest one whose name counts. -/
def ofText? (lowest : Nat) (raw : Raw) : Option Signal :=
  if !raw.isEmpty && raw.all Decimal.isDigit then ofNumber? raw
  else (List.range count).find? fun signal =>
    lowest ≤ signal && name signal == String.ofList (raw.map Char.toUpper)

/-- A process without plans lets the signal pass. -/
def isHarmless (signal : Signal) : Bool := signal == 17 || signal == 18 || signal == 23 || signal == 28

/-- No plans can be made for the signal. -/
def isAbsolute (signal : Signal) : Bool := signal == 9 || signal == 19

end Signal

end EditorBridge.Shell
