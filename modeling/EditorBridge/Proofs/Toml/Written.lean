import EditorBridge.Proofs.Toml.Scalars
import EditorBridge.Proofs.Toml.WellFormed

/-!
# Documents that were written

A document of flat sections is written with one header for each section and one line for each of
its entries. Reading gives back the entries as they were, because every piece that was written is
read up to its end, whatever follows it, and new names are added at the end of their table.

## Main statements

`statements_sections`: the text says the headers and the entries in order.

`read?_written`: a document that was written is read back.
-/

namespace EditorBridge.Toml

/-! ### Names -/

theorem skipSpace_cons {c : Char} (notSpace : isSpace c = false) (rest : List Char) :
    skipSpace (c :: rest) = c :: rest :=
  List.dropWhile_cons_of_neg (by simp [notSpace])

/-- A name that needs no quotes. -/
structure IsName (name : String) : Prop where
  nonempty : name.toList ≠ []
  bare : ∀ c ∈ name.toList, isBare c = true

namespace IsName

variable {name : String} (named : IsName name)

include named

theorem eq_cons : ∃ first rest, name.toList = first :: rest ∧ isBare first = true := by
  cases written : name.toList with
  | nil => exact absurd written named.nonempty
  | cons first rest => exact ⟨first, rest, rfl, named.bare first (written ▸ List.mem_cons_self)⟩

theorem skipSpace_append (rest : List Char) :
    skipSpace (name.toList ++ rest) = name.toList ++ rest := by
  obtain ⟨first, more, written, bare⟩ := named.eq_cons
  have other : ∀ mark, isBare mark = false → first ≠ mark := fun mark => ne_of_test bare
  have notSpace : isSpace first = false := by
    simp [isSpace, other ' ' (by decide), other '\t' (by decide)]
  rw [written, List.cons_append, skipSpace_cons notSpace]

theorem restOfLine?_append (rest : List Char) : restOfLine? (name.toList ++ rest) = none := by
  obtain ⟨first, more, written, bare⟩ := named.eq_cons
  have other : ∀ mark, isBare mark = false → first ≠ mark := fun mark => ne_of_test bare
  have comment : skipComment (first :: (more ++ rest)) = first :: (more ++ rest) := by
    rw [skipComment]
    simp [other '#' (by decide)]
  rw [restOfLine?, named.skipSpace_append, written, List.cons_append, comment, lineEnd?]
  · simp
  · simp [other '\n' (by decide)]
  · simp [other '\r' (by decide)]

theorem keyPart_append {next : Char} (ends : isBare next = false) (rest : List Char) :
    keyPart (name.toList ++ next :: rest) = some (name, next :: rest) := by
  have taken : (name.toList ++ next :: rest).takeWhile isBare = name.toList := by
    rw [List.takeWhile_append_of_pos named.bare, List.takeWhile_cons, ends]
    simp
  have dropped : (name.toList ++ next :: rest).dropWhile isBare = next :: rest := by
    rw [List.dropWhile_append_of_pos named.bare, List.dropWhile_cons, ends]
    simp
  have visible : name.toList.isEmpty = false := by simpa using named.nonempty
  obtain ⟨first, more, written, bare⟩ := named.eq_cons
  have unquoted : ∀ quote tail, isBare quote = false →
      name.toList ++ next :: rest ≠ quote :: tail := by
    intro quote tail mark same
    rw [written] at same
    exact ne_of_test bare mark (List.cons.inj same).1
  unfold keyPart
  -- The first two patterns are names between quotes.
  split
  next same => exact absurd same (unquoted _ _ (by decide))
  next same => exact absurd same (unquoted _ _ (by decide))
  next => simp only [taken, dropped, visible, String.ofList_toList, Bool.false_eq_true, if_false]

/-- A name alone is a key without a path. -/
theorem keyPath_append (next : Char) (rest : List Char) (ends : isBare next = false)
    (notDotted : ∀ tail, skipSpace (next :: rest) ≠ '.' :: tail) :
    keyPath (name.toList ++ next :: rest) = some (([], name), skipSpace (next :: rest)) := by
  have key : dottedKey (name.toList ++ next :: rest) = some ([name], skipSpace (next :: rest)) := by
    rw [dottedKey, named.skipSpace_append, named.keyPart_append ends]
    dsimp only
    split
    next same => exact absurd same (notDotted _)
    next => rfl
  rw [keyPath, key]
  rfl

end IsName

/-! ### Lines and sections -/

/-- A section without inner tables: its name, and its entries in order. -/
abbrev FlatSection := String × List (String × Scalar)

/-- An entry on a line of its own. -/
def writtenEntry (escape : Char → List Char) (entry : String × Scalar) : List Char :=
  entry.1.toList ++ [' ', '=', ' '] ++ entry.2.written escape ++ ['\n']

/-- The header of a section and the lines of its entries. -/
def writtenSection (escape : Char → List Char) (part : FlatSection) : List Char :=
  '[' :: part.1.toList ++ [']', '\n'] ++ part.2.flatMap (writtenEntry escape)

/-- What an entry says. -/
def pairOf (entry : String × Scalar) : Pair := ⟨[], entry.1, entry.2.value⟩

theorem statements_append {piece rest : List Char} {said : Statement} (written : piece ≠ [])
    (read : statement (piece ++ rest) = some (said, rest)) :
    statements (piece ++ rest) = (statements rest).map (said :: ·) := by
  have visible : (piece ++ rest).isEmpty = false := by simp [written]
  have shorter : rest.length < (piece ++ rest).length := by
    have := List.length_pos_iff.mpr written
    rw [List.length_append]
    omega
  rw [statements, visible, read]
  simp only [Bool.false_eq_true, if_false, shorter, if_true]

theorem statement_header {name : String} (named : IsName name) (rest : List Char) :
    statement ('[' :: name.toList ++ [']', '\n'] ++ rest) =
      some (.header [] name false, rest) := by
  have key := named.keyPath_append ']' ('\n' :: rest) (by decide) (by simp [skipSpace, isSpace])
  obtain ⟨first, more, written, bare⟩ := named.eq_cons
  have single : first ≠ '[' := ne_of_test bare (by decide)
  have read : header false (name.toList ++ ']' :: '\n' :: rest) =
      some (.header [] name false, rest) := by
    rw [header, key]
    rfl
  rw [written, List.cons_append] at read
  simp [statement, skipSpace, isSpace, written, single, read]

section Written

variable {escape : Char → List Char} (spells : ∀ c, Spelling c (escape c))

include spells

theorem statement_writtenEntry {entry : String × Scalar} (named : IsName entry.1)
    (bounded : entry.2.Bounded) (rest : List Char) :
    statement (writtenEntry escape entry ++ rest) = some (.pair (pairOf entry), rest) := by
  have shape : writtenEntry escape entry ++ rest =
      entry.1.toList ++ ' ' :: '=' :: ' ' :: (entry.2.written escape ++ '\n' :: rest) := by
    simp [writtenEntry]
  have key := named.keyPath_append ' ' ('=' :: ' ' :: (entry.2.written escape ++ '\n' :: rest))
    (by decide) (by simp [skipSpace, isSpace])
  have skipped : skipSpace (' ' :: (entry.2.written escape ++ '\n' :: rest)) =
      entry.2.written escape ++ '\n' :: rest := by
    obtain ⟨first, more, written, notSpace, -⟩ := Scalar.written_eq_cons bounded escape
    rw [written, List.cons_append]
    exact skipSpace_cons notSpace _
  have read : pair anyValue (writtenEntry escape entry ++ rest) =
      some (pairOf entry, '\n' :: rest) := by
    rw [shape, pair, key]
    have mark : ∀ after, expect '=' (skipSpace (' ' :: '=' :: after)) = some after := fun _ => rfl
    simp only [Option.bind_eq_bind, Option.bind_some, mark, skipped,
      anyValue_written spells bounded]
    rfl
  obtain ⟨first, more, written, bare⟩ := named.eq_cons
  have single : first ≠ '[' := ne_of_test bare (by decide)
  -- The line starts with a name, so it is neither blank nor a header.
  have visible : restOfLine? (writtenEntry escape entry ++ rest) = none := by
    rw [shape]
    exact named.restOfLine?_append _
  have start : skipSpace (writtenEntry escape entry ++ rest) =
      writtenEntry escape entry ++ rest := by
    rw [shape]
    exact named.skipSpace_append _
  unfold statement
  rw [start]
  split
  next same =>
    rw [shape, written] at same
    exact absurd (List.cons.inj same).1 single
  next same =>
    rw [shape, written] at same
    exact absurd (List.cons.inj same).1 single
  next =>
    rw [visible, read]
    rfl

theorem statements_entries {entries : List (String × Scalar)}
    (each : ∀ entry ∈ entries, IsName entry.1 ∧ entry.2.Bounded) (rest : List Char) :
    statements (entries.flatMap (writtenEntry escape) ++ rest) =
      (statements rest).map (entries.map (fun entry => .pair (pairOf entry)) ++ ·) := by
  induction entries with
  | nil => simp
  | cons entry entries ih =>
    obtain ⟨named, bounded⟩ := each entry List.mem_cons_self
    rw [List.flatMap_cons, List.append_assoc,
      statements_append (by simp [writtenEntry]) (statement_writtenEntry spells named bounded _),
      ih fun entry member => each entry (List.mem_cons_of_mem _ member), Option.map_map]
    rfl

/-- What a section says. -/
def saidBy (part : FlatSection) : List Statement :=
  .header [] part.1 false :: part.2.map fun entry => .pair (pairOf entry)

/-- A section whose names need no quotes, and whose values fit. -/
structure Writable (part : FlatSection) : Prop where
  name : IsName part.1
  entries : ∀ entry ∈ part.2, IsName entry.1 ∧ entry.2.Bounded

theorem statements_sections {parts : List FlatSection} (each : ∀ part ∈ parts, Writable part) :
    statements (parts.flatMap (writtenSection escape)) = some (parts.flatMap saidBy) := by
  -- The entries of a section are read with the later sections as the rest of the text.
  induction parts with
  | nil =>
    rw [List.flatMap_nil, statements]
    rfl
  | cons part parts ih =>
    have writable := each part List.mem_cons_self
    have later := ih fun part member => each part (List.mem_cons_of_mem _ member)
    rw [List.flatMap_cons, writtenSection, List.append_assoc,
      statements_append (by simp) (statement_header writable.name _),
      statements_entries spells writable.entries, later]
    simp [saidBy]

end Written

/-! ### Assembling flat sections -/

theorem group_append_pairs (pairs : List Pair) (rest : List Statement) :
    group (pairs.map .pair ++ rest) = (pairs ++ (group rest).1, (group rest).2) := by
  induction pairs with
  | nil => rfl
  | cons pair pairs ih => rw [List.map_cons, List.cons_append, group, ih]; rfl

/-- The section with the values that stand below its header. -/
def sectionOf (part : FlatSection) : Section := ⟨[], part.1, false, part.2.map pairOf⟩

theorem group_sections (parts : List FlatSection) :
    group (parts.flatMap saidBy) = ([], parts.map sectionOf) := by
  induction parts with
  | nil => rfl
  | cons part parts ih =>
    have pairs : (part.2.map fun entry => Statement.pair (pairOf entry)) =
        (part.2.map pairOf).map .pair := by
      rw [List.map_map]
      rfl
    rw [List.flatMap_cons, saidBy, List.cons_append, group, pairs, group_append_pairs, ih]
    simp [sectionOf]

/-- When a step puts every item with a new name at the end, so does the fold. -/
theorem foldlM_of_fresh {α β : Type} {step : List (String × β) → α → Option (List (String × β))}
    {name : α → String} {made : α → β} {items : List α} {start : List (String × β)}
    (each : ∀ item ∈ items, ∀ before, name item ∉ before.map Prod.fst →
      step before item = some (before ++ [(name item, made item)]))
    (distinct : (start.map Prod.fst ++ items.map name).Nodup) :
    items.foldlM step start = some (start ++ items.map fun item => (name item, made item)) := by
  induction items generalizing start with
  | nil => simp
  | cons item items ih =>
    have fresh : name item ∉ start.map Prod.fst := fun named =>
      (List.nodup_append.mp distinct).2.2 _ named _ List.mem_cons_self rfl
    have distinct : ((start ++ [(name item, made item)]).map Prod.fst ++ items.map name).Nodup := by
      simpa using distinct
    have later := ih (fun item member => each item (List.mem_cons_of_mem _ member)) distinct
    rw [List.foldlM_cons, each item List.mem_cons_self start fresh]
    simpa using later

theorem insert_pairOf {entries : Entries} {entry : String × Scalar}
    (fresh : entry.1 ∉ entries.map Prod.fst) :
    entries.insert (pairOf entry) = some (entries ++ [(entry.1, .leaf entry.2.value)]) := by
  simp [Entries.insert, Entries.within, pairOf, Entries.alter_of_not_mem fresh]

/-- The items of a section. -/
def itemsOf (part : FlatSection) : Entries := part.2.map fun entry => (entry.1, .leaf entry.2.value)

theorem foldlM_insert_pairOf {part : FlatSection} (distinct : (part.2.map Prod.fst).Nodup) :
    (part.2.map pairOf).foldlM Entries.insert [] = some (itemsOf part) := by
  rw [List.foldlM_map]
  exact foldlM_of_fresh (fun entry _ before fresh => insert_pairOf fresh) (by simpa using distinct)

theorem addSection_sectionOf {entries : Entries} {part : FlatSection}
    (distinct : (part.2.map Prod.fst).Nodup) (fresh : part.1 ∉ entries.map Prod.fst) :
    entries.addSection (sectionOf part) =
      some (entries ++ [(part.1, .table .header (itemsOf part))]) := by
  -- There is nothing under the name that the header could take over or move.
  have unnamed : entries.find? (·.1 == part.1) = none := by
    rw [List.find?_eq_none]
    intro entry member same
    exact fresh (List.mem_map.mpr ⟨entry, member, by simpa using same⟩)
  have kept : entries.filter (·.1 != part.1) = entries := by
    rw [List.filter_eq_self]
    intro entry member
    have other : entry.1 ≠ part.1 := fun same => fresh (List.mem_map.mpr ⟨entry, member, same⟩)
    simp [other]
  simp [Entries.addSection, Entries.within, Entries.addTable, sectionOf, unnamed, kept,
    foldlM_insert_pairOf distinct]

/-- The table of a section. -/
def tableOf (part : FlatSection) : Table := part.2.map fun entry => (entry.1, entry.2.value)

theorem entryValues_itemsOf (part : FlatSection) : entryValues (itemsOf part) = tableOf part := by
  obtain ⟨name, entries⟩ := part
  simp only [itemsOf, tableOf]
  induction entries with
  | nil => rfl
  | cons entry entries ih =>
    rw [List.map_cons, List.map_cons, entryValues, ih]
    rfl

/-- The document with these sections. -/
def documentOf (parts : List FlatSection) : Table :=
  parts.map fun part => (part.1, .table (tableOf part))

theorem documentTable?_sections {parts : List FlatSection} (distinct : (parts.map Prod.fst).Nodup)
    (each : ∀ part ∈ parts, (part.2.map Prod.fst).Nodup) :
    documentTable? [] (parts.map sectionOf) = some (documentOf parts) := by
  have added : (parts.map sectionOf).foldlM Entries.addSection [] =
      some (parts.map fun part => (part.1, .table .header (itemsOf part))) := by
    rw [List.foldlM_map]
    refine foldlM_of_fresh ?_ (by simpa using distinct)
    exact fun part member before fresh => addSection_sectionOf (each part member) fresh
  have values : entryValues (parts.map fun part => (part.1, Item.table .header (itemsOf part))) =
      documentOf parts := by
    rw [documentOf]
    clear distinct each added
    induction parts with
    | nil => rfl
    | cons part parts ih =>
      rw [List.map_cons, List.map_cons, entryValues, ih, Item.value, entryValues_itemsOf]
  rw [documentTable?]
  simp [added, values]

/-! ### Main theorem -/

/-- A document of flat sections as a text. -/
def written (escape : Char → List Char) (parts : List FlatSection) : String :=
  String.ofList (parts.flatMap (writtenSection escape))

/-- A document that was written is read back, in whatever way its characters are spelled. -/
theorem read?_written {escape : Char → List Char} (spells : ∀ c, Spelling c (escape c))
    {parts : List FlatSection} (writable : ∀ part ∈ parts, Writable part)
    (distinct : (parts.map Prod.fst).Nodup) (each : ∀ part ∈ parts, (part.2.map Prod.fst).Nodup) :
    read? (written escape parts) = some (documentOf parts) := by
  have unmarked : dropMark (parts.flatMap (writtenSection escape)) =
      parts.flatMap (writtenSection escape) := by
    cases parts with
    | nil => rfl
    | cons part parts => rfl
  rw [read?, written, String.toList_ofList, unmarked, statements_sections spells writable]
  simp [group_sections, documentTable?_sections distinct each]

end EditorBridge.Toml
