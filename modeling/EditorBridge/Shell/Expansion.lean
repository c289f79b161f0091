import EditorBridge.Shell.Arithmetic
import EditorBridge.Shell.Field
import EditorBridge.Shell.Field.Files

/-!
# Expansion

What words stand for. Parameters, commands and expressions in a word are replaced by their values, a
tilde by a directory; the result is cut into fields where that is asked for, and fields that are
patterns become the names of files. How a command is run is left to the caller.
-/

namespace EditorBridge.Shell

/-- What a word is expanded for. -/
inductive Purpose where
  /-- Any number of fields. -/
  | fields
  /-- The value of a variable, in which tildes also count behind colons. -/
  | assignment
  /-- A single text. -/
  | single
  deriving DecidableEq, Repr

namespace Expansion

/-! ### Tildes -/

/-- The directory of a user; the empty name stands for the user of the shell. -/
def homeOf? (frame : Frame) (user : Raw) : Option Raw :=
  if user.isEmpty then frame.value? (Raw.ofString "HOME")
  else if user == Raw.ofString "root" then some (Raw.ofString "/root")
  else none

/-- The stretches of a text that can start with a tilde. `isLast` says that nothing follows it. -/
def behindTilde (frame : Frame) (purpose : Purpose) (isLast : Bool) (cutting : Cutting)
    (raw : Raw) : List Stretch :=
  let plain : List Stretch := [⟨Item.ofRaw raw false, cutting⟩]
  match raw with
  | '~' :: rest =>
    let user := rest.takeWhile fun c => c != '/' && !(purpose == .assignment && c == ':')
    let after := rest.drop user.length
    if after.isEmpty && !isLast then plain
    else match homeOf? frame user with
      | some home => [.fixed (Item.ofRaw home true), ⟨Item.ofRaw after false, cutting⟩]
      | none => plain
  | _ => plain

/-- The stretches of a text that was written without quotes. -/
def written (frame : Frame) (purpose : Purpose) (isFirst isLast : Bool) (cutting : Cutting)
    (raw : Raw) : List Stretch :=
  let tilde (isFirst isLast : Bool) (raw : Raw) : List Stretch :=
    if isFirst then behindTilde frame purpose isLast cutting raw
    else [⟨Item.ofRaw raw false, cutting⟩]
  if purpose == .assignment then
    let parts := Text.splitAt (· == ':') raw
    (parts.zipIdx.map fun (part, index) =>
      let isEnd := index + 1 == parts.length
      let found := tilde (isFirst || index != 0) (isLast || !isEnd) part
      if isEnd then found else found ++ [⟨Item.ofRaw [':'] false, cutting⟩]).flatten
  else tilde isFirst isLast raw

/-! ### Parameters -/

/-- The items of all parameters. They are kept apart where fields are asked for, `$*` only outside
quotes; else they are joined by the first separator. -/
def parameterItems (frame : Frame) (purpose : Purpose) (star quoted : Bool) : List Item :=
  let between : List Item :=
    if purpose == .fields && !(star && quoted) then [.gap]
    else Item.ofRaw (frame.separators.take 1) quoted
  between.intercalate (frame.parameters.map fun value => Item.ofRaw value quoted)

/-- The items of the value of a parameter, if it is set. -/
def valueItems? (state : State) (purpose : Purpose) (name : Raw) (quoted : Bool) :
    Option (List Item) :=
  if name == ['@'] then some (parameterItems state.frame purpose false quoted)
  else if name == ['*'] then some (parameterItems state.frame purpose true quoted)
  else (state.parameter? name).map fun value => Item.ofRaw value quoted

/-- How the value of a parameter is cut. -/
def cuttingOf (frame : Frame) (name : Raw) (quoted : Bool) : Cutting :=
  if !quoted then .atSeparators
  else if name == ['@'] && !frame.parameters.isEmpty then .atGaps
  else .never

/-- The items without the shortest or longest part at their start that a pattern stands for. A part
reads as what stands before its first gap; a short one ends there. -/
def stripStart (longest : Bool) (pattern : Pattern) (items : List Item) : List Item :=
  let cuts := if longest then (List.range (items.length + 1)).reverse
    else List.range ((Item.beforeGap items).length + 1)
  let cut := cuts.find? fun cut => pattern.accepts (Item.text (Item.beforeGap (items.take cut)))
  items.drop (cut.getD 0)

/-- The items without the shortest or longest part at their end that a pattern stands for. A part
reads as what stands before its first gap; a long one starts before the first gap of all. -/
def stripEnd (longest : Bool) (pattern : Pattern) (items : List Item) : List Item :=
  let cuts := if longest then List.range ((Item.beforeGap items).length + 1)
    else (List.range (items.length + 1)).reverse
  let cut := cuts.find? fun cut => pattern.accepts (Item.text (Item.beforeGap (items.drop cut)))
  items.take (cut.getD items.length)

/-- Refuses a parameter that is unset where that counts as a fault. -/
def checkSet (name : Raw) (value : Option (List Item)) : Act Unit := do
  if value.isNone && (← Act.frame).isOn .nounset then Act.failAbout name "parameter not set"

mutual

/-- The stretches of pieces. `isFirst` says that they stand at the start of the word, and `inner` that
they are the word of an expansion. -/
def pieces (substitute : Command → Act Raw) (purpose : Purpose) (isFirst inner : Bool) :
    List Piece → Act (List Stretch)
  | [] => return []
  | first :: rest => do
    let found ← piece substitute purpose isFirst inner rest.isEmpty first
    return found ++ (← pieces substitute purpose false inner rest)

/-- The stretches of a piece. -/
def piece (substitute : Command → Act Raw) (purpose : Purpose) (isFirst inner isLast : Bool) :
    Piece → Act (List Stretch)
  | .text raw true => return [.fixed (Item.ofRaw raw true)]
  | .text raw false =>
    return written (← Act.frame) purpose isFirst isLast
      (if inner then .atSeparators else .never) raw
  | .mark => return [.fixed [.mark]]
  | .parameter name use quoted => parameter substitute purpose name quoted use
  | .command body quoted => do
    let found ← substitute body
    return [⟨Item.ofRaw found quoted, if quoted then .never else .atSeparators⟩]
  | .arithmetic source quoted => do
    let text := Stretch.text (← pieces substitute .single false false source)
    let n ← Arithmetic.evaluate text
    return [⟨Item.ofRaw (Raw.ofInt n) quoted, if quoted then .never else .atSeparators⟩]

/-- The stretches of a parameter that is used in some way. -/
def parameter (substitute : Command → Act Raw) (purpose : Purpose) (name : Raw) (quoted : Bool) :
    Use → Act (List Stretch)
  | .plain => do
    let state ← get
    let value := valueItems? state purpose name quoted
    checkSet name value
    return (value.map fun items => ⟨items, cuttingOf state.frame name quoted⟩).toList
  | .length => do
    let state ← get
    let value := valueItems? state purpose name quoted
    checkSet name value
    let length := Raw.ofNat ((value.map List.length).getD 0)
    return [⟨Item.ofRaw length quoted, cuttingOf state.frame name quoted⟩]
  | .strip fromEnd longest source => do
    let state ← get
    let value := valueItems? state purpose name quoted
    checkSet name value
    match value with
    | none => return []
    | some items =>
      let spelling := Stretch.spelling (← pieces substitute .single true false source)
      let strip := if fromEnd then stripEnd else stripStart
      return [⟨strip longest (Pattern.ofSpelling spelling) items,
        cuttingOf state.frame name quoted⟩]
  | .fallback emptyToo action word => do
    let state ← get
    let cutting := cuttingOf state.frame name quoted
    let value := (valueItems? state purpose name quoted).filter fun items =>
      !(emptyToo && items.isEmpty)
    match action, value with
    | .replace, none => return [⟨[], cutting⟩]
    | .replace, some _ => pieces substitute purpose true (!quoted) word
    | _, some items => return [⟨items, cutting⟩]
    | .substitute, none => pieces substitute purpose true (!quoted) word
    | .assign, none =>
      let text := Stretch.text (← pieces substitute .single true false word)
      Act.checkName name
      Act.assign name text
      return [⟨Item.ofRaw text quoted, cutting⟩]
    | .refuse, none =>
      let text := Stretch.text (← pieces substitute .single true false word)
      let usual := if emptyToo then "parameter not set or null" else "parameter not set"
      Act.failAbout name (if word.isEmpty then usual else Raw.toString text)
  | .unknown => Act.fail (Raw.ofString "Bad substitution")

end

/-- The stretches of a word. -/
def stretches (substitute : Command → Act Raw) (purpose : Purpose) (word : Word) :
    Act (List Stretch) :=
  pieces substitute purpose true false word

/-- The single text of a word. -/
def text (substitute : Command → Act Raw) (word : Word) : Act Raw := do
  return Stretch.text (← stretches substitute .single word)

/-- The value that a word has in an assignment. -/
def value (substitute : Command → Act Raw) (word : Word) : Act Raw := do
  return Stretch.text (← stretches substitute .assignment word)

/-- The pattern that a word spells. -/
def pattern (substitute : Command → Act Raw) (word : Word) : Act Pattern := do
  return Pattern.ofSpelling (Stretch.spelling (← stretches substitute .single word))

/-- The files that a field stands for, or its own text. -/
def filesOf (state : State) (field : List Item) : List Raw :=
  let found := if state.frame.isOn .noglob then []
    else Files.ofPattern state.world.tree state.frame.directory (Item.spelling field)
  if found.isEmpty then [Item.text field] else found

/-- The fields of a word. -/
def fields (substitute : Command → Act Raw) (word : Word) : Act (List Raw) := do
  let found ← stretches substitute .fields word
  let state ← get
  return (Field.cut state.frame.separators none found).flatMap (filesOf state)

end Expansion

end EditorBridge.Shell
