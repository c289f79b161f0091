import EditorBridge.Decimal.Binary64

/-!
# Values and tables

A settings document is a table of values. It names the entries of its tables in pieces: by headers,
by headers of inner tables, and by dotted keys. A table that is being assembled remembers which of
these named it, because that decides what may still be added. `none` stands for a document that names
something twice or extends what is closed.
-/

namespace EditorBridge.Toml

/-- A value. What a date or a time says is not kept, because no setting asks for one. -/
inductive Value where
  | string (text : String)
  | integer (value : Int)
  | float (value : Binary64)
  | boolean (value : Bool)
  | moment
  | array (items : List Value)
  | table (entries : List (String × Value))
  deriving Repr, Inhabited

/-- The entries of a table, in the order in which they were first named. -/
abbrev Table := List (String × Value)

/-! ### Comparing values -/

-- Instances for nested types are not derived.
mutual

/-- Decides whether two values are the same. -/
def Value.decEq : (value other : Value) → Decidable (value = other)
  | .string text, other =>
    match other with
    | .string found => decidable_of_iff (text = found) (by simp)
    | .integer _ | .float _ | .boolean _ | .moment | .array _ | .table _ => .isFalse nofun
  | .integer value, other =>
    match other with
    | .integer found => decidable_of_iff (value = found) (by simp)
    | .string _ | .float _ | .boolean _ | .moment | .array _ | .table _ => .isFalse nofun
  | .float value, other =>
    match other with
    | .float found => decidable_of_iff (value = found) (by simp)
    | .string _ | .integer _ | .boolean _ | .moment | .array _ | .table _ => .isFalse nofun
  | .boolean value, other =>
    match other with
    | .boolean found => decidable_of_iff (value = found) (by simp)
    | .string _ | .integer _ | .float _ | .moment | .array _ | .table _ => .isFalse nofun
  | .moment, other =>
    match other with
    | .moment => .isTrue rfl
    | .string _ | .integer _ | .float _ | .boolean _ | .array _ | .table _ => .isFalse nofun
  | .array items, other =>
    match other with
    | .array found => @decidable_of_iff _ (items = found) (by simp) (Value.decEqItems items found)
    | .string _ | .integer _ | .float _ | .boolean _ | .moment | .table _ => .isFalse nofun
  | .table entries, other =>
    match other with
    | .table found =>
      @decidable_of_iff _ (entries = found) (by simp) (Value.decEqEntries entries found)
    | .string _ | .integer _ | .float _ | .boolean _ | .moment | .array _ => .isFalse nofun

/-- Decides whether the items of two arrays are the same. -/
def Value.decEqItems : (items others : List Value) → Decidable (items = others)
  | [], [] => .isTrue rfl
  | [], _ :: _ | _ :: _, [] => .isFalse nofun
  | item :: items, other :: others =>
    letI := item.decEq other
    letI := Value.decEqItems items others
    decidable_of_iff (item = other ∧ items = others) (by simp)

/-- Decides whether the entries of two tables are the same. -/
def Value.decEqEntries : (entries others : List (String × Value)) → Decidable (entries = others)
  | [], [] => .isTrue rfl
  | [], _ :: _ | _ :: _, [] => .isFalse nofun
  | (name, value) :: entries, (other, found) :: others =>
    letI := value.decEq found
    letI := Value.decEqEntries entries others
    decidable_of_iff ((name = other ∧ value = found) ∧ entries = others) (by simp)

end

instance : DecidableEq Value := Value.decEq

/-! ### Assembling tables -/

/-- How a table came to be. -/
inductive Origin where
  /-- By a header of its own. -/
  | header
  /-- By the header of a table inside it. -/
  | implied
  /-- By a dotted key. -/
  | dotted
  deriving DecidableEq, Repr

/-- An entry of a table that is being assembled. -/
inductive Item where
  /-- A complete value. -/
  | leaf (value : Value)
  | table (origin : Origin) (entries : List (String × Item))
  /-- The tables that repeated headers add to a list. -/
  | elements (tables : List (List (String × Item)))

/-- The entries named so far. -/
abbrev Entries := List (String × Item)

/-- Changes the item of a key in its place, or adds one at the end. -/
def Entries.alter (key : String) (change : Option Item → Option Item) : Entries → Option Entries
  | [] => (change none).map fun item => [(key, item)]
  | (name, item) :: rest =>
    if name = key then (change (some item)).map fun item => (name, item) :: rest
    else (alter key change rest).map fun rest => (name, item) :: rest

/-- Changes the table at the end of a path, naming the tables that are missing on the way. A dotted
key may not pass through a table that has a header of its own; a list of tables stands for its
last one. -/
def Entries.within (origin : Origin) (change : Origin → Entries → Option Entries)
    (reached : Origin) (entries : Entries) : (path : List String) → Option Entries
  | [] => change reached entries
  | key :: path =>
    entries.alter key fun
      | none => (within origin change origin [] path).map (.table origin)
      | some (.leaf _) => none
      | some (.table own inner) =>
        if origin = .dotted ∧ own = .header then none
        else (within origin change own inner path).map (.table own)
      | some (.elements tables) =>
        match tables.getLast? with
        | none => none
        | some last =>
          (within origin change .header last path).map fun last =>
            .elements (tables.dropLast ++ [last])

/-- A value with the dotted key that names it. -/
structure Pair where
  path : List String
  key : String
  value : Value

/-- Adds a value. The table that a dotted key ends in must be one that dotted keys made. -/
def Entries.insert (entries : Entries) (pair : Pair) : Option Entries :=
  entries.within .dotted
    (fun reached inner =>
      if pair.path ≠ [] ∧ reached ≠ .dotted then none
      else inner.alter pair.key fun
        | none => some (.leaf pair.value)
        | some _ => none)
    .header pair.path

/-- A header with the values below it. -/
structure Section where
  path : List String
  key : String
  /-- The header adds a table to a list. -/
  isElement : Bool
  pairs : List Pair

/-- Adds the table of a header. It takes over what headers of inner tables have named before it,
and moves behind the entries that stand there. -/
def Entries.addTable (part : Section) (entries : Entries) : Option Entries :=
  let own := match (entries.find? (·.1 == part.key)).map (·.2) with
    | none => some []
    | some (.table .implied inner) => some inner
    | some _ => none
  own.bind fun own => (part.pairs.foldlM Entries.insert own).map fun inner =>
    entries.filter (·.1 != part.key) ++ [(part.key, .table .header inner)]

/-- Adds a table to the list of tables that a header names. -/
def Entries.addElement (part : Section) (entries : Entries) : Option Entries :=
  (part.pairs.foldlM Entries.insert []).bind fun inner =>
    entries.alter part.key fun
      | none => some (.elements [inner])
      | some (.elements tables) => some (.elements (tables ++ [inner]))
      | some _ => none

/-- Adds a section. -/
def Entries.addSection (entries : Entries) (part : Section) : Option Entries :=
  entries.within .implied
    (fun _ inner => if part.isElement then inner.addElement part else inner.addTable part)
    .header part.path

mutual

/-- The value that an item has come to be. -/
def Item.value : Item → Value
  | .leaf value => value
  | .table _ entries => .table (entryValues entries)
  | .elements tables => .array (tableValues tables)

/-- The values of entries. -/
def entryValues : List (String × Item) → Table
  | [] => []
  | (key, item) :: rest => (key, item.value) :: entryValues rest

/-- The values of tables. -/
def tableValues : List (List (String × Item)) → List Value
  | [] => []
  | entries :: rest => .table (entryValues entries) :: tableValues rest

end

/-- The table of values that stand side by side. -/
def tableOf? (pairs : List Pair) : Option Table :=
  (pairs.foldlM Entries.insert []).map entryValues

/-- The table of a whole document: the values before the first header, then the sections. -/
def documentTable? (pairs : List Pair) (sections : List Section) : Option Table := do
  let entries ← pairs.foldlM Entries.insert []
  return entryValues (← sections.foldlM Entries.addSection entries)

end EditorBridge.Toml
