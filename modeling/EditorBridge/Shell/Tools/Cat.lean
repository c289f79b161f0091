import EditorBridge.Shell.Tools.Options

/-!
# Showing files

The program that writes files one after the other, and can number their lines, squeeze empty ones,
and make line ends, tabs and unprintable bytes visible.
-/

namespace EditorBridge.Shell.Tools.Cat

/-- The options. -/
def options : List ProgramOption :=
  [{ letter := some 'b', name := "number-nonblank" }, { letter := some 'n', name := "number" },
    { letter := some 's', name := "squeeze-blank" },
    { letter := some 'v', name := "show-nonprinting" }, { letter := some 'E', name := "show-ends" },
    { letter := some 'T', name := "show-tabs" }, { letter := some 'A', name := "show-all" },
    { letter := some 'e' }, { letter := some 't' }, { letter := some 'u' }]

/-- How files are shown. -/
structure Style where
  numbers : Bool
  /-- Empty lines get no number. -/
  skipsBlank : Bool
  squeezes : Bool
  marksEnds : Bool
  marksTabs : Bool
  marksHidden : Bool
  deriving DecidableEq, Repr

/-- The style that options ask for. -/
def styleOf (reading : Reading) : Style where
  numbers := reading.has 'n' || reading.has 'b'
  skipsBlank := reading.has 'b'
  squeezes := reading.has 's'
  marksEnds := reading.has 'E' || reading.has 'A' || reading.has 'e'
  marksTabs := reading.has 'T' || reading.has 'A' || reading.has 't'
  marksHidden := reading.has 'v' || reading.has 'A' || reading.has 'e' || reading.has 't'

/-- Files are shown as they stand. -/
def Style.isPlain (style : Style) : Bool :=
  !(style.numbers || style.squeezes || style.marksEnds || style.marksTabs || style.marksHidden)

/-- Where the output has come to, also from one file to the next. -/
structure Progress where
  /-- The number of the last line that got one. -/
  number : Nat := 0
  /-- How many empty lines have just been shown, at most one; nothing inside a line. -/
  blank : Option Nat := some 0
  deriving DecidableEq, Repr

/-- The text in front of a numbered line. -/
def numberText (number : Nat) : Raw :=
  let digits := Raw.ofNat number
  List.replicate (6 - digits.length) ' ' ++ digits ++ ['\t']

/-- A byte below 128 made visible. -/
def visibleLow (c : Char) : Raw :=
  if c < ' ' then ['^', Char.ofNat (c.toNat + 64)] else if c == '\x7F' then ['^', '?'] else [c]

/-- A byte inside a line, in front of another one. -/
def byteText (style : Style) (c : Char) (next : Option Char) : Raw :=
  if c == '\t' then if style.marksTabs then ['^', 'I'] else [c]
  else if !style.marksHidden then
    if c == '\r' && style.marksEnds && next == some '\n' then ['^', 'M'] else [c]
  else if c.toNat < 128 then visibleLow c
  else ['M', '-'] ++ visibleLow (Char.ofNat (c.toNat - 128))

/-- Shows a text; the pieces of the output come last one first. -/
def render (style : Style) : Progress → List Raw → Raw → Progress × List Raw
  | progress, shown, [] => (progress, shown)
  | progress, shown, '\n' :: rest =>
    match progress.blank with
    | none =>
      let line := if style.marksEnds then ['$', '\n'] else ['\n']
      render style { progress with blank := some 0 } (line :: shown) rest
    | some count =>
      if style.squeezes && 1 ≤ count then render style progress shown rest
      else
        let numbered := style.numbers && !style.skipsBlank
        let number := if numbered then progress.number + 1 else progress.number
        let line := (if numbered then numberText number else []) ++
          if style.marksEnds then ['$', '\n'] else ['\n']
        render style ⟨number, some 1⟩ (line :: shown) rest
  | progress, shown, c :: rest =>
    let starts := progress.blank.isSome && style.numbers
    let number := if starts then progress.number + 1 else progress.number
    let text := (if starts then numberText number else []) ++ byteText style c rest.head?
    render style ⟨number, none⟩ (text :: shown) rest

/-- Writes a part of the output. The answer says whether that succeeded. -/
def put (program : Raw) (raw : Raw) : Act Bool := do
  match ← Act.write 1 raw with
  | none => return true
  | some fault =>
    complain program (Raw.ofString ("write error: " ++ fault.wording))
    return false

/-- The file that the output goes to, if it is one. -/
def outputPlace? : Act (Option Place) := do
  match ← Act.openFile? 1 with
  | some (_, file) =>
    match file.channel with
    | .file place => return some place
    | _ => return none
  | none => return none

/-- The file behind a descriptor is the one that the output goes to, and there is something in it. -/
def isOutput (descriptor : Nat) : Act Bool := do
  match ← outputPlace?, ← Act.openFile? descriptor with
  | some place, some (_, file) =>
    let size := match (← Act.world).tree.node? place with
      | some (.file content _) => content.length
      | _ => 0
    return file.channel == .file place && file.offset < size
  | _, _ => return false

/-- How a file has been dealt with. -/
inductive Result where
  | done
  | failed
  /-- Nothing can be written. -/
  | hopeless
  deriving DecidableEq, Repr

/-- Shows what can be read from a descriptor. -/
def copy (program name : Raw) (style : Style) (descriptor : Nat) (start : Progress) :
    Act (Result × Progress) := do
  if ← isOutput descriptor then
    complain program (shownName name ++ Raw.ofString ": input file is output file")
    return (.failed, start)
  else
    Act.stepping
      (fun progress => do
        match ← Act.readChunk descriptor with
        | .error fault =>
          complain program (shownName name ++ Raw.ofString (": " ++ fault.wording))
          return .inr (.failed, progress)
        | .ok [] => return .inr (.done, progress)
        | .ok raw =>
          let (progress, text) := if style.isPlain then (progress, raw)
            else
              let (progress, shown) := render style progress [] raw
              (progress, shown.reverse.flatten)
          if ← put program text then return .inl progress else return .inr (.hopeless, progress))
      Act.mostRounds start

/-- The number that a file is opened under while it is shown. -/
def fileDescriptor : Nat := 10

/-- Shows an operand. -/
def showOperand (program : Raw) (style : Style) (progress : Progress) (operand : Raw) :
    Act (Result × Progress) := do
  if operand == ['-'] then copy program operand style 0 progress
  else match ← Act.openPath .reading operand with
    | .error fault =>
      complain program (shownName operand ++ Raw.ofString (": " ++ fault.wording))
      return (.failed, progress)
    | .ok index =>
      Act.assignDescriptor fileDescriptor (some index)
      let result ← copy program operand style fileDescriptor progress
      Act.assignDescriptor fileDescriptor none
      return result

/-- Shows operands one after the other. -/
def showAll (program : Raw) (style : Style) : Progress → Nat → List Raw → Act Nat
  | _, status, [] => return status
  | progress, status, operand :: rest => do
    match ← showOperand program style progress operand with
    | (.done, progress) => showAll program style progress status rest
    | (.failed, progress) => showAll program style progress 1 rest
    | (.hopeless, _) => return 1

/-- Shows files, or the input. -/
def perform (program : Raw) (arguments : List Raw) : Act Nat :=
  withReading program options arguments fun reading => do
    if (← Act.openFile? 1).isNone then
      complain program (Raw.ofString ("standard output: " ++ Fault.badDescriptor.wording))
      return 1
    else
      let operands := if reading.operands.isEmpty then [['-']] else reading.operands
      let status ← showAll program (styleOf reading) {} 0 operands
      if operands.contains ['-'] && (← Act.openFile? 0).isNone then
        complain program
          (Raw.ofString ("closing standard input: " ++ Fault.badDescriptor.wording))
        return 1
      else return status

end EditorBridge.Shell.Tools.Cat
