import EditorBridge.Decimal.Digits

/-!
# Faults

Why the system refuses an operation on its files and programs, with the number and the wording of
each fault.
-/

namespace EditorBridge

/-- The reasons of the system. -/
inductive Fault where
  | noEntry
  | noDevice
  | argumentsTooLong
  | notExecutable
  | badDescriptor
  | denied
  | entryExists
  | notDirectory
  | isDirectory
  | invalid
  | noSpace
  | brokenPipe
  | nameTooLong
  | directoryNotEmpty
  | linkLoop
  deriving DecidableEq, Repr

namespace Fault

/-- The number of a fault. -/
def number : Fault → Nat
  | .noEntry => 2
  | .noDevice => 6
  | .argumentsTooLong => 7
  | .notExecutable => 8
  | .badDescriptor => 9
  | .denied => 13
  | .entryExists => 17
  | .notDirectory => 20
  | .isDirectory => 21
  | .invalid => 22
  | .noSpace => 28
  | .brokenPipe => 32
  | .nameTooLong => 36
  | .directoryNotEmpty => 39
  | .linkLoop => 40

/-- The wording of a fault. -/
def wording : Fault → String
  | .noEntry => "No such file or directory"
  | .noDevice => "No such device or address"
  | .argumentsTooLong => "Argument list too long"
  | .notExecutable => "Exec format error"
  | .badDescriptor => "Bad file descriptor"
  | .denied => "Permission denied"
  | .entryExists => "File exists"
  | .notDirectory => "Not a directory"
  | .isDirectory => "Is a directory"
  | .invalid => "Invalid argument"
  | .noSpace => "No space left on device"
  | .brokenPipe => "Broken pipe"
  | .nameTooLong => "File name too long"
  | .directoryNotEmpty => "Directory not empty"
  | .linkLoop => "Too many levels of symbolic links"

/-- The message that reports a fault. -/
def message (fault : Fault) : String :=
  fault.wording ++ " (os error " ++ Decimal.natText fault.number ++ ")"

end Fault

end EditorBridge
