import EditorBridge.Shell.Pattern

/-!
# Fields

Expanding a word gives stretches of items. In some stretches characters can separate fields; the cut
goes through them one after the other. A gap separates fields like a blank, but it was not written by
anyone, so that fields on both sides of it count even when they are empty.
-/

namespace EditorBridge.Shell

/-- A part of an expanded word. -/
inductive Item where
  | char (c : Char) (quoted : Bool)
  /-- Quotes stood here, so that the field counts even when it is empty. -/
  | mark
  /-- Separates parameters. -/
  | gap
  deriving DecidableEq, Repr

/-- How a stretch is cut into fields. -/
inductive Cutting where
  /-- Not at all. -/
  | never
  | atSeparators
  | atGaps
  deriving DecidableEq, Repr

/-- Items that are cut in the same way. -/
structure Stretch where
  items : List Item
  cutting : Cutting
  deriving DecidableEq, Repr

namespace Item

/-- The items of a text. -/
def ofRaw (raw : Raw) (quoted : Bool) : List Item := raw.map (.char · quoted)

/-- The text of items. -/
def text (items : List Item) : Raw :=
  items.flatMap fun
    | .char c _ => [c]
    | .mark | .gap => []

/-- The items before the first gap. -/
def beforeGap (items : List Item) : List Item := items.takeWhile (· != .gap)

/-- The pattern that items spell. -/
def spelling (items : List Item) : Raw :=
  items.flatMap fun
    | .char c quoted => Pattern.spell quoted c
    | .mark | .gap => []

end Item

namespace Stretch

/-- A stretch that is kept whole. -/
def fixed (items : List Item) : Stretch := ⟨items, .never⟩

/-- The items of stretches. -/
def itemsOf (stretches : List Stretch) : List Item := stretches.flatMap Stretch.items

/-- The text of stretches. -/
def text (stretches : List Stretch) : Raw := Item.text (itemsOf stretches)

/-- The pattern that stretches spell. -/
def spelling (stretches : List Stretch) : Raw := Item.spelling (itemsOf stretches)

end Stretch

namespace Field

/-- Where a cut has come to. -/
structure Cutter where
  /-- The fields that are finished, the last one first. -/
  finished : List (List Item) := []
  /-- The items of the field that is being read, the last one first. -/
  current : List Item := []
  /-- A blank has just ended a field; a separator behind it belongs to the same end. -/
  inGap : Bool := false
  /-- The stretch before was cut at its gaps. -/
  behindGaps : Bool := false
  /-- How many more fields are cut off; the last one takes the rest. -/
  left : Option Nat := none
  /-- How many of the items at the end of the last field are separators that do not count. -/
  idle : Nat := 0

/-- How an item counts for a cut. -/
structure Effect where
  separates : Bool
  blank : Bool

/-- The effect of an item. -/
def effect (separators : Raw) (cutting : Cutting) : Item → Effect
  | .char c _ =>
    let separates := cutting == .atSeparators && separators.contains c
    ⟨separates, separates && (c == ' ' || c == '\t' || c == '\n')⟩
  | .gap => ⟨true, true⟩
  | .mark => ⟨false, false⟩

namespace Cutter

/-- Reads an item of the last field, which takes all that is left. Blanks at its end are idle, and so
is a single other separator among them. -/
def readRest (cutter : Cutter) (effect : Effect) (item : Item) : Cutter :=
  let cutter := { cutter with current := item :: cutter.current }
  if effect.blank then { cutter with idle := cutter.idle + 1 }
  else if effect.separates && cutter.inGap then
    { cutter with idle := cutter.idle + 1, inGap := false }
  else { cutter with idle := 0, inGap := false }

/-- Ends the field that is being read at a separator. -/
def endField (cutter : Cutter) (item : Item) : Cutter :=
  match cutter.left with
  | some (left + 1) =>
    if left = 0 then
      { cutter with left := some 0, current := item :: cutter.current, idle := 1 }
    else
      { cutter with
        left := some left, finished := cutter.current.reverse :: cutter.finished, current := [] }
  | _ => { cutter with finished := cutter.current.reverse :: cutter.finished, current := [] }

/-- Reads an item of a stretch that is cut. -/
def read (separators : Raw) (cutting : Cutting) (cutter : Cutter) (item : Item) : Cutter :=
  let effect := effect separators cutting item
  if cutter.left == some 0 then cutter.readRest effect item
  else if cutter.inGap && effect.blank then cutter
  else if cutter.inGap && effect.separates then { cutter with inGap := false }
  else if effect.separates then
    let isGap := effect.blank && cutting != .atGaps && !cutter.behindGaps
    if isGap && cutter.current.isEmpty then cutter
    else { cutter.endField item with inGap := isGap }
  else { cutter with current := item :: cutter.current, inGap := false }

/-- Reads a stretch. -/
def readStretch (separators : Raw) (cutter : Cutter) (stretch : Stretch) : Cutter :=
  match stretch.cutting with
  | .never => { cutter with current := stretch.items.reverse ++ cutter.current, idle := 0 }
  | cutting =>
    let start := { cutter with inGap := false }
    let after := stretch.items.foldl (read separators cutting) start
    { after with behindGaps := cutting == .atGaps }

end Cutter

/-- Cuts stretches into fields; at most as many as the limit says, if there is one. -/
def cut (separators : Raw) (limit : Option Nat) (stretches : List Stretch) : List (List Item) :=
  let start : Cutter := { left := limit }
  let cutter := stretches.foldl (Cutter.readStretch separators) start
  let last := (cutter.current.drop cutter.idle).reverse
  if last.isEmpty && !cutter.behindGaps then cutter.finished.reverse
  else (last :: cutter.finished).reverse

end Field

end EditorBridge.Shell
