import EditorBridge.Toml.Reader
import Mathlib.Data.List.Nodup

/-!
# Well-formed documents

What is read from a text names no key of a table twice, at any depth, and its integers fit into 64
bits. Tables are assembled by changing one entry in its place or adding one at the end, and every
reader yields what the values inside it allow.

## Main statements

`Entries.alter_cases`: what changing one entry comes to.

`wellFormed_of_read?`: every document that is read is well-formed.
-/

namespace EditorBridge.Toml

/-! ### Entries -/

/-- No name stands twice, and everything named is sound. -/
structure Sound {α : Type} (sound : α → Prop) (entries : List (String × α)) : Prop where
  distinct : (entries.map Prod.fst).Nodup
  each : ∀ entry ∈ entries, sound entry.2

/-- No key stands twice in a table inside the value, and its integers fit into 64 bits. -/
inductive Value.WellFormed : Value → Prop
  | string (text : String) : WellFormed (.string text)
  | integer (value : Int) (least : -(Decimal.twoTo 63 : Int) ≤ value)
    (greatest : value < Decimal.twoTo 63) : WellFormed (.integer value)
  | float (value : Binary64) : WellFormed (.float value)
  | boolean (value : Bool) : WellFormed (.boolean value)
  | moment : WellFormed .moment
  | array (items : List Value) (each : ∀ item ∈ items, WellFormed item) : WellFormed (.array items)
  | table (entries : Table) (distinct : (entries.map Prod.fst).Nodup)
    (each : ∀ entry ∈ entries, WellFormed entry.2) : WellFormed (.table entries)

/-- The same of an item of a table that is being assembled. -/
inductive Item.WellFormed : Item → Prop
  | leaf (value : Value) (sound : value.WellFormed) : WellFormed (.leaf value)
  | table (origin : Origin) (entries : Entries) (distinct : (entries.map Prod.fst).Nodup)
    (each : ∀ entry ∈ entries, WellFormed entry.2) : WellFormed (.table origin entries)
  | elements (tables : List Entries) (distinct : ∀ entries ∈ tables, (entries.map Prod.fst).Nodup)
    (each : ∀ entries ∈ tables, ∀ entry ∈ entries, WellFormed entry.2) :
    WellFormed (.elements tables)

/-- Entries that are being assembled. -/
abbrev Entries.WellFormed (entries : Entries) : Prop := Sound Item.WellFormed entries

theorem Value.wellFormed_table_iff {entries : Table} :
    (Value.table entries).WellFormed ↔ Sound Value.WellFormed entries := by
  constructor
  · rintro (_ | _ | _ | _ | _ | _ | ⟨_, distinct, each⟩)
    exact ⟨distinct, each⟩
  · exact fun sound => .table entries sound.distinct sound.each

theorem Item.wellFormed_table_iff {origin : Origin} {entries : Entries} :
    (Item.table origin entries).WellFormed ↔ entries.WellFormed := by
  constructor
  · rintro (_ | ⟨_, _, distinct, each⟩)
    exact ⟨distinct, each⟩
  · exact fun sound => .table origin entries sound.distinct sound.each

theorem Item.wellFormed_elements_iff {tables : List Entries} :
    (Item.elements tables).WellFormed ↔ ∀ entries ∈ tables, entries.WellFormed := by
  constructor
  · rintro (_ | _ | ⟨_, distinct, each⟩) entries member
    exact ⟨distinct entries member, each entries member⟩
  · exact fun sound => .elements tables (fun entries member => (sound entries member).distinct)
      fun entries member => (sound entries member).each

section Sound

variable {α : Type} {sound : α → Prop}

theorem Sound.nil : Sound sound [] := ⟨.nil, nofun⟩

theorem sound_append_singleton_iff {entries : List (String × α)} {key : String} {item : α} :
    Sound sound (entries ++ [(key, item)]) ↔
      Sound sound entries ∧ key ∉ entries.map Prod.fst ∧ sound item := by
  constructor
  · rintro ⟨distinct, each⟩
    rw [List.map_append, List.nodup_append] at distinct
    obtain ⟨earlier, last⟩ := List.forall_mem_append.mp each
    refine ⟨⟨distinct.1, earlier⟩, ?_, last (key, item) List.mem_cons_self⟩
    intro named
    exact distinct.2.2 key named key (by simp) rfl
  · rintro ⟨⟨distinct, each⟩, fresh, last⟩
    refine ⟨?_, ?_⟩
    · rw [List.map_append, List.nodup_append]
      refine ⟨distinct, by simp, ?_⟩
      rintro name named _ (last : _ ∈ [key]) rfl
      exact fresh (List.mem_singleton.mp last ▸ named)
    · exact List.forall_mem_append.mpr ⟨each, List.forall_mem_singleton.mpr last⟩

/-- One item is replaced under the same name. -/
theorem Sound.replace {before after : List (String × α)} {key : String} {old new : α}
    (entries : Sound sound (before ++ (key, old) :: after)) (item : sound new) :
    Sound sound (before ++ (key, new) :: after) := by
  obtain ⟨earlier, others⟩ := List.forall_mem_append.mp entries.each
  obtain ⟨-, later⟩ := List.forall_mem_cons.mp others
  refine ⟨by simpa using entries.distinct, ?_⟩
  exact List.forall_mem_append.mpr ⟨earlier, List.forall_mem_cons.mpr ⟨item, later⟩⟩

theorem Sound.filter {entries : List (String × α)} (all : Sound sound entries)
    (keep : String × α → Bool) : Sound sound (entries.filter keep) :=
  ⟨all.distinct.sublist (List.filter_sublist.map Prod.fst),
    fun entry member => all.each entry (List.mem_of_mem_filter member)⟩

end Sound

/-! ### Assembling -/

theorem Entries.alter_of_not_mem {key : String} {entries : Entries}
    (fresh : key ∉ entries.map Prod.fst) (change : Option Item → Option Item) :
    entries.alter key change = (change none).map fun item => entries ++ [(key, item)] := by
  induction entries with
  | nil => rfl
  | cons entry rest ih =>
    have other : entry.1 ≠ key := fun same => fresh (by simp [same])
    have later : key ∉ rest.map Prod.fst := fun named => fresh (by simp [named])
    rw [alter, if_neg other, ih later, Option.map_map]
    rfl

/-- Either the item of the key is replaced in its place, or the key is new and stands at the end. -/
theorem Entries.alter_cases {key : String} {change : Option Item → Option Item}
    {entries altered : Entries} (done : entries.alter key change = some altered) :
    (∃ before old after new, entries = before ++ (key, old) :: after ∧
        change (some old) = some new ∧ altered = before ++ (key, new) :: after) ∨
      key ∉ entries.map Prod.fst ∧
        ∃ item, change none = some item ∧ altered = entries ++ [(key, item)] := by
  by_cases named : key ∈ entries.map Prod.fst
  · left
    -- The entries before the one of the key stay as they are.
    induction entries generalizing altered with
    | nil => cases named
    | cons entry rest ih =>
      obtain ⟨name, item⟩ := entry
      by_cases same : name = key
      · subst same
        rw [alter, if_pos rfl, Option.map_eq_some_iff] at done
        obtain ⟨new, changed, rfl⟩ := done
        exact ⟨[], item, rest, new, rfl, changed, rfl⟩
      · rw [alter, if_neg same, Option.map_eq_some_iff] at done
        obtain ⟨altered, found, rfl⟩ := done
        have later : key ∈ rest.map Prod.fst := by simpa [Ne.symm same] using named
        obtain ⟨before, old, after, new, rfl, changed, rfl⟩ := ih found later
        exact ⟨(name, item) :: before, old, after, new, rfl, changed, rfl⟩
  · rw [alter_of_not_mem named, Option.map_eq_some_iff] at done
    obtain ⟨item, added, rfl⟩ := done
    exact .inr ⟨named, item, added, rfl⟩

theorem Entries.WellFormed.alter {key : String} {change : Option Item → Option Item}
    {entries altered : Entries} (sound : entries.WellFormed)
    (keeps : ∀ old new, (∀ item ∈ old, item.WellFormed) → change old = some new → new.WellFormed)
    (changed : entries.alter key change = some altered) : altered.WellFormed := by
  rcases Entries.alter_cases changed with
    ⟨before, old, after, new, rfl, renewed, rfl⟩ | ⟨fresh, item, added, rfl⟩
  · refine sound.replace (keeps (some old) new ?_ renewed)
    intro item known
    obtain rfl := Option.some.inj known
    exact sound.each (key, old) (by simp)
  · exact sound_append_singleton_iff.mpr ⟨sound, fresh, keeps none item nofun added⟩

/-- What a change keeps at the end of a path it keeps of the whole. -/
theorem Entries.WellFormed.within {origin : Origin} {change : Origin → Entries → Option Entries}
    (keeps : ∀ reached entries changed, Entries.WellFormed entries →
      change reached entries = some changed → Entries.WellFormed changed)
    {path : List String} {reached : Origin} {entries changed : Entries}
    (sound : entries.WellFormed) (done : entries.within origin change reached path = some changed) :
    changed.WellFormed := by
  -- On the way stands no table yet, a table, or a list of tables whose last one is meant.
  induction path generalizing reached entries changed with
  | nil => exact keeps reached entries changed sound done
  | cons key path ih =>
    refine sound.alter ?_ done
    intro old new known renewed
    split at renewed
    next =>
      obtain ⟨inner, deeper, rfl⟩ := Option.map_eq_some_iff.mp renewed
      exact Item.wellFormed_table_iff.mpr (ih .nil deeper)
    next => cases renewed
    next own inner =>
      have inside := Item.wellFormed_table_iff.mp (known _ rfl)
      split at renewed
      next => cases renewed
      next =>
        obtain ⟨inner, deeper, rfl⟩ := Option.map_eq_some_iff.mp renewed
        exact Item.wellFormed_table_iff.mpr (ih inside deeper)
    next tables =>
      have each := Item.wellFormed_elements_iff.mp (known _ rfl)
      split at renewed
      next => cases renewed
      next last found =>
        obtain ⟨inner, deeper, rfl⟩ := Option.map_eq_some_iff.mp renewed
        have earlier : ∀ entries ∈ tables.dropLast, Entries.WellFormed entries :=
          fun entries member => each entries (List.dropLast_subset _ member)
        have changed := ih (each last (List.mem_of_getLast? found)) deeper
        exact Item.wellFormed_elements_iff.mpr
          (List.forall_mem_append.mpr ⟨earlier, List.forall_mem_singleton.mpr changed⟩)

theorem Entries.WellFormed.insert {entries inserted : Entries} {pair : Pair}
    (sound : entries.WellFormed) (value : pair.value.WellFormed)
    (done : entries.insert pair = some inserted) : inserted.WellFormed := by
  refine sound.within ?_ done
  intro reached inner changed inside renewed
  split at renewed
  next => cases renewed
  next =>
    refine inside.alter ?_ renewed
    intro old new known added
    cases old with
    | none => exact Option.some.inj added ▸ .leaf _ value
    | some => cases added

theorem foldlM_keeps {α β : Type} {step : α → β → Option α} {good : α → Prop} {allowed : β → Prop}
    (keeps : ∀ before item after, good before → allowed item → step before item = some after →
      good after)
    {items : List β} {before after : α} (start : good before) (each : ∀ item ∈ items, allowed item)
    (done : items.foldlM step before = some after) : good after := by
  induction items generalizing before with
  | nil =>
    cases done
    exact start
  | cons item items ih =>
    obtain ⟨between, first, later⟩ := Option.bind_eq_some_iff.mp done
    exact ih (keeps before item between start (each item List.mem_cons_self) first)
      (fun item member => each item (List.mem_cons_of_mem _ member)) later

theorem Entries.WellFormed.insertAll {entries inserted : Entries} {pairs : List Pair}
    (sound : entries.WellFormed) (each : ∀ pair ∈ pairs, pair.value.WellFormed)
    (done : pairs.foldlM Entries.insert entries = some inserted) : inserted.WellFormed :=
  foldlM_keeps (fun _ _ _ sound value done => Entries.WellFormed.insert sound value done) sound
    each done

/-- The values below a header. -/
def Section.WellFormed (part : Section) : Prop := ∀ pair ∈ part.pairs, pair.value.WellFormed

theorem Entries.WellFormed.addTable {entries added : Entries} {part : Section}
    (sound : entries.WellFormed) (values : part.WellFormed)
    (done : entries.addTable part = some added) : added.WellFormed := by
  obtain ⟨own, found, later⟩ := Option.bind_eq_some_iff.mp done
  obtain ⟨inner, filled, rfl⟩ := Option.map_eq_some_iff.mp later
  -- What inner headers have named before is part of the entries.
  have known : Entries.WellFormed own := by
    split at found
    next => exact Option.some.inj found ▸ .nil
    next inner earlier =>
      obtain ⟨entry, first, implied⟩ := Option.map_eq_some_iff.mp earlier
      have inside := implied ▸ sound.each entry (List.mem_of_find?_eq_some first)
      exact Option.some.inj found ▸ Item.wellFormed_table_iff.mp inside
    next => cases found
  refine sound_append_singleton_iff.mpr ⟨sound.filter _, ?_, ?_⟩
  · simp
  · exact Item.wellFormed_table_iff.mpr (known.insertAll values filled)

theorem Entries.WellFormed.addElement {entries added : Entries} {part : Section}
    (sound : entries.WellFormed) (values : part.WellFormed)
    (done : entries.addElement part = some added) : added.WellFormed := by
  obtain ⟨inner, filled, later⟩ := Option.bind_eq_some_iff.mp done
  have element : inner.WellFormed := Entries.WellFormed.insertAll .nil values filled
  refine sound.alter ?_ later
  intro old new known renewed
  split at renewed
  next =>
    exact Option.some.inj renewed ▸ Item.wellFormed_elements_iff.mpr
      (List.forall_mem_singleton.mpr element)
  next tables =>
    have earlier := Item.wellFormed_elements_iff.mp (known _ rfl)
    exact Option.some.inj renewed ▸ Item.wellFormed_elements_iff.mpr
      (List.forall_mem_append.mpr ⟨earlier, List.forall_mem_singleton.mpr element⟩)
  next => cases renewed

theorem Entries.WellFormed.addSection {entries added : Entries} {part : Section}
    (sound : entries.WellFormed) (values : part.WellFormed)
    (done : entries.addSection part = some added) : added.WellFormed := by
  refine sound.within ?_ done
  intro reached inner changed inside renewed
  split at renewed
  next => exact inside.addElement values renewed
  next => exact inside.addTable values renewed

/-! ### From items to values -/

theorem map_fst_entryValues (entries : Entries) :
    (entryValues entries).map Prod.fst = entries.map Prod.fst := by
  induction entries with
  | nil => rfl
  | cons entry rest ih => rw [entryValues, List.map_cons, ih, List.map_cons]

mutual

theorem Item.WellFormed.value {item : Item} (sound : item.WellFormed) : item.value.WellFormed := by
  cases item with
  | leaf value =>
    cases sound with
    | leaf _ sound => exact sound
  | table origin entries =>
    exact Value.wellFormed_table_iff.mpr (Item.wellFormed_table_iff.mp sound).values
  | elements tables =>
    exact .array _ (wellFormed_tableValues (Item.wellFormed_elements_iff.mp sound))

theorem Entries.WellFormed.values {entries : Entries} (sound : entries.WellFormed) :
    Sound Value.WellFormed (entryValues entries) := by
  refine ⟨map_fst_entryValues entries ▸ sound.distinct, ?_⟩
  cases entries with
  | nil => exact nofun
  | cons entry rest =>
    obtain ⟨key, item⟩ := entry
    obtain ⟨first, later⟩ := List.forall_mem_cons.mp sound.each
    have rest : Entries.WellFormed rest := ⟨(List.nodup_cons.mp sound.distinct).2, later⟩
    exact List.forall_mem_cons.mpr ⟨first.value, rest.values.each⟩

theorem wellFormed_tableValues {tables : List Entries}
    (each : ∀ entries ∈ tables, entries.WellFormed) :
    ∀ value ∈ tableValues tables, value.WellFormed := by
  cases tables with
  | nil => exact nofun
  | cons entries rest =>
    obtain ⟨first, later⟩ := List.forall_mem_cons.mp each
    exact List.forall_mem_cons.mpr
      ⟨Value.wellFormed_table_iff.mpr first.values, wellFormed_tableValues later⟩

end

theorem wellFormed_of_tableOf? {pairs : List Pair} {table : Table}
    (each : ∀ pair ∈ pairs, pair.value.WellFormed) (made : tableOf? pairs = some table) :
    (Value.table table).WellFormed := by
  obtain ⟨entries, filled, rfl⟩ := Option.map_eq_some_iff.mp made
  exact Value.wellFormed_table_iff.mpr (Entries.WellFormed.insertAll .nil each filled).values

theorem wellFormed_of_documentTable? {pairs : List Pair} {sections : List Section} {table : Table}
    (each : ∀ pair ∈ pairs, pair.value.WellFormed) (parts : ∀ part ∈ sections, part.WellFormed)
    (made : documentTable? pairs sections = some table) : (Value.table table).WellFormed := by
  obtain ⟨named, filled, later⟩ := Option.bind_eq_some_iff.mp made
  obtain ⟨entries, added, finished⟩ := Option.bind_eq_some_iff.mp later
  obtain rfl := Option.some.inj finished
  refine Value.wellFormed_table_iff.mpr (Entries.WellFormed.values ?_)
  have start : named.WellFormed := Entries.WellFormed.insertAll .nil each filled
  exact foldlM_keeps (fun _ _ _ sound values done => Entries.WellFormed.addSection sound values done)
    start parts added

/-! ### Reading values -/

/-- Whatever the reader finds is good. -/
def Yields {α : Type} (reader : Reader α) (good : α → Prop) : Prop :=
  ∀ text found rest, reader text = some (found, rest) → good found

theorem wellFormed_of_integer? {negative : Bool} {magnitude : Nat} {value : Value}
    (found : integer? negative magnitude = some value) : value.WellFormed := by
  have positive := Decimal.twoTo_pos 63
  unfold integer? at found
  split at found
  next =>
    obtain ⟨bounded, same⟩ := Option.ite_none_right_eq_some.mp found
    exact Option.some.inj same ▸ .integer _ (by omega) (by omega)
  next =>
    obtain ⟨bounded, same⟩ := Option.ite_none_right_eq_some.mp found
    exact Option.some.inj same ▸ .integer _ (by omega) (by omega)

theorem wellFormed_of_float? {negative : Bool} {digits : List Char} {exponent : Int} {value : Value}
    (found : float? negative digits exponent = some value) : value.WellFormed := by
  unfold float? at found
  split at found
  next => cases found
  next => exact Option.some.inj found ▸ .float _

theorem yields_based (isDigit : Char → Bool) (base : Nat) :
    Yields (based isDigit base) Value.WellFormed := by
  intro text value rest found
  obtain ⟨⟨digits, after⟩, -, found⟩ := Option.bind_eq_some_iff.mp found
  obtain ⟨integer, read, found⟩ := Option.bind_eq_some_iff.mp found
  cases found
  exact wellFormed_of_integer? read

theorem yields_decimal (negative : Bool) : Yields (decimal negative) Value.WellFormed := by
  intro text value rest found
  obtain ⟨⟨whole, _⟩, -, found⟩ := Option.bind_eq_some_iff.mp found
  obtain ⟨⟨fraction, _⟩, -, found⟩ := Option.bind_eq_some_iff.mp found
  obtain ⟨⟨exponent, _⟩, -, found⟩ := Option.bind_eq_some_iff.mp found
  dsimp only at found
  -- Without a fraction and an exponent it is an integer.
  split at found
  next =>
    obtain ⟨integer, read, found⟩ := Option.bind_eq_some_iff.mp found
    cases found
    exact wellFormed_of_integer? read
  next =>
    obtain ⟨float, read, found⟩ := Option.bind_eq_some_iff.mp found
    cases found
    exact wellFormed_of_float? read

theorem yields_number : Yields number Value.WellFormed := by
  intro text value rest found
  unfold number at found
  split at found
  next => exact yields_based _ _ _ _ _ found
  next => exact yields_based _ _ _ _ _ found
  next => exact yields_based _ _ _ _ _ found
  next =>
    split at found
    next => cases found; exact .float _
    next => cases found; exact .float _
    next => exact yields_decimal _ _ _ _ found

theorem yields_scalar : Yields scalar Value.WellFormed := by
  intro text value rest found
  unfold scalar at found
  split at found
  iterate 2
    next =>
      obtain ⟨_, -, found⟩ := Option.map_eq_some_iff.mp found
      cases found
      exact .string _
  next => cases found; exact .boolean _
  next => cases found; exact .boolean _
  next =>
    unfold momentOrNumber at found
    split at found
    next => cases found; exact .moment
    next => exact yields_number _ _ _ found

section Nested

variable {item : Reader Value} (items : Yields item Value.WellFormed)

include items

theorem yields_arrayItems :
    Yields (arrayItems item) fun values => ∀ value ∈ values, value.WellFormed := by
  intro text values rest found
  fun_induction arrayItems item text generalizing values rest with
  | case1 => cases found
  | case2 => cases found; exact nofun
  | case3 => cases found
  | case4 text start _ _ value after read _ _ _ ih =>
    obtain ⟨⟨later, _⟩, more, found⟩ := Option.map_eq_some_iff.mp found
    cases found
    exact List.forall_mem_cons.mpr ⟨items _ _ _ read, ih _ _ more⟩
  | case5 => cases found
  | case6 text start _ _ value after read =>
    cases found
    simpa using items _ _ _ read
  | case7 => cases found

theorem yields_pair : Yields (pair item) fun pair => pair.value.WellFormed := by
  intro text pair rest found
  obtain ⟨⟨⟨path, key⟩, _⟩, -, found⟩ := Option.bind_eq_some_iff.mp found
  obtain ⟨after, -, found⟩ := Option.bind_eq_some_iff.mp found
  obtain ⟨⟨value, _⟩, read, found⟩ := Option.bind_eq_some_iff.mp found
  cases found
  exact items _ _ _ read

theorem yields_inlinePairs :
    Yields (inlinePairs item) fun pairs => ∀ pair ∈ pairs, pair.value.WellFormed := by
  intro text pairs rest found
  fun_induction inlinePairs item text generalizing pairs rest with
  | case1 => cases found
  | case2 text first after read _ _ _ ih =>
    obtain ⟨⟨later, _⟩, more, found⟩ := Option.map_eq_some_iff.mp found
    cases found
    exact List.forall_mem_cons.mpr ⟨yields_pair items _ _ _ read, ih _ _ more⟩
  | case3 => cases found
  | case4 text first after read =>
    cases found
    simpa using yields_pair items _ _ _ read
  | case5 => cases found

theorem yields_inlineTable : Yields (inlineTable item) Value.WellFormed := by
  intro text value rest found
  unfold inlineTable at found
  split at found
  next =>
    cases found
    exact Value.wellFormed_table_iff.mpr .nil
  next =>
    obtain ⟨⟨pairs, _⟩, read, found⟩ := Option.bind_eq_some_iff.mp found
    obtain ⟨table, made, found⟩ := Option.bind_eq_some_iff.mp found
    cases found
    exact wellFormed_of_tableOf? (yields_inlinePairs items _ _ _ read) made

end Nested

theorem yields_value (depth : Nat) : Yields (value depth) Value.WellFormed := by
  induction depth with
  | zero => exact yields_scalar
  | succ depth ih =>
    intro text value rest found
    unfold Toml.value at found
    split at found
    next =>
      obtain ⟨⟨items, _⟩, read, found⟩ := Option.map_eq_some_iff.mp found
      cases found
      exact .array _ (yields_arrayItems ih _ _ _ read)
    next => exact yields_inlineTable ih _ _ _ found
    next => exact yields_scalar _ _ _ found

/-! ### Reading documents -/

/-- The value that a statement says. -/
def Statement.WellFormed : Statement → Prop
  | pair ⟨_, _, value⟩ => value.WellFormed
  | .blank | .header .. => True

theorem yields_statement : Yields statement Statement.WellFormed := by
  have headers : ∀ isElement, Yields (header isElement) Statement.WellFormed := by
    intro isElement text said rest found
    obtain ⟨_, -, found⟩ := Option.bind_eq_some_iff.mp found
    obtain ⟨_, -, found⟩ := Option.bind_eq_some_iff.mp found
    dsimp only at found
    split at found
    all_goals
      obtain ⟨_, -, found⟩ := Option.bind_eq_some_iff.mp found
      obtain ⟨_, -, found⟩ := Option.bind_eq_some_iff.mp found
      cases found
      trivial
  intro text said rest found
  unfold statement at found
  split at found
  next => exact headers _ _ _ _ found
  next => exact headers _ _ _ _ found
  next =>
    split at found
    next =>
      cases found
      trivial
    next =>
      obtain ⟨⟨pair, _⟩, read, found⟩ := Option.bind_eq_some_iff.mp found
      obtain ⟨_, -, found⟩ := Option.bind_eq_some_iff.mp found
      cases found
      exact yields_pair (yields_value _) _ _ _ read

theorem wellFormed_of_statements {text : List Char} {said : List Statement}
    (found : statements text = some said) : ∀ statement ∈ said, statement.WellFormed := by
  fun_induction statements text generalizing said with
  | case1 => cases found; exact nofun
  | case2 => cases found
  | case3 text _ first rest read _ ih =>
    obtain ⟨later, more, rfl⟩ := Option.map_eq_some_iff.mp found
    exact List.forall_mem_cons.mpr ⟨yields_statement _ _ _ read, ih more⟩
  | case4 => cases found

theorem wellFormed_group {said : List Statement} (each : ∀ statement ∈ said, statement.WellFormed) :
    (∀ pair ∈ (group said).1, pair.value.WellFormed) ∧
      ∀ part ∈ (group said).2, part.WellFormed := by
  induction said with
  | nil => exact ⟨nofun, nofun⟩
  | cons first rest ih =>
    obtain ⟨said, later⟩ := List.forall_mem_cons.mp each
    obtain ⟨pairs, parts⟩ := ih later
    cases first with
    | blank => exact ⟨pairs, parts⟩
    | pair pair =>
      have value : pair.value.WellFormed := said
      exact ⟨List.forall_mem_cons.mpr ⟨value, pairs⟩, parts⟩
    | header path key isElement => exact ⟨nofun, List.forall_mem_cons.mpr ⟨pairs, parts⟩⟩

/-- No key stands twice in a document, and its integers fit into 64 bits. -/
theorem wellFormed_of_read? {text : String} {table : Table} (found : read? text = some table) :
    (Value.table table).WellFormed := by
  obtain ⟨said, read, made⟩ := Option.bind_eq_some_iff.mp found
  obtain ⟨pairs, parts⟩ := wellFormed_group (wellFormed_of_statements read)
  exact wellFormed_of_documentTable? pairs parts made

end EditorBridge.Toml
