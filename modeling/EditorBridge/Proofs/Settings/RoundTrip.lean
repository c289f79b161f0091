import EditorBridge.Proofs.Settings.Entries
import EditorBridge.Proofs.Settings.Validity
import EditorBridge.Proofs.Toml.Written

/-!
# Settings that were written

Settings are written with one section for each group of keys and one line for each key that is set.
Reading such a text gives the settings back, whatever characters their strings hold, because every
line is read back as the entry that was meant and an entry sets exactly its key.

## Main statements

`Settings.gives_documentOf_iff`: what the written document gives for a key.

`Settings.parse_written`: the settings come back.
-/

namespace EditorBridge

/-- A value as it is written; a number is written as the natural that it is. -/
def ConfigValue.scalar : ConfigValue → Toml.Scalar
  | .text value => .text value
  | .number value => .natural value.floor
  | .flag value => .flag value

namespace Settings

/-- The entries of a section: its keys in order, as far as they are set. -/
def Group.entries (group : Group) (settings : Settings) : List (String × Toml.Scalar) :=
  group.keys.filterMap fun key => (settings.value key).map fun value => (key.field, value.scalar)

/-- The sections of a document. A section without entries can be left out. -/
def sections (settings : Settings) (emptyHeaders : Bool) : List Toml.FlatSection :=
  (Group.all.map fun group => (group.name, group.entries settings)).filter fun part =>
    emptyHeaders || !part.2.isEmpty

/-- The text of settings in the documented layout. -/
def written (settings : Settings) (escape : Char → List Char) (emptyHeaders : Bool) : String :=
  Toml.written escape (settings.sections emptyHeaders)

/-- An indent that is set is a natural from one to `2 ^ 53`. -/
def WholeIndent (settings : Settings) : Prop :=
  ∀ width, settings.indentWidth = some width →
    ∃ n : Nat, 1 ≤ n ∧ n ≤ Decimal.twoTo 53 ∧ width = .ofInt n

variable {settings : Settings} {emptyHeaders : Bool}

theorem value_injective {first second : Settings}
    (same : ∀ key, first.value key = second.value key) : first = second := by
  have texts : Function.Injective (Option.map ConfigValue.text) :=
    Option.map_injective fun _ _ => ConfigValue.text.inj
  have numbers : Function.Injective (Option.map ConfigValue.number) :=
    Option.map_injective fun _ _ => ConfigValue.number.inj
  cases first
  cases second
  have interpreter := texts (same .interpreterPath)
  have indent := numbers (same .indentWidth)
  have tool := same .toolModule
  have excludeSelf := same .excludeSelf
  have flagPrefix := same .flagPrefix
  have safeMode := same .safeMode
  have useBlack := same .useBlack
  have includePrivate := same .includePrivate
  have formatOnSave := same .formatOnSave
  have outputInPlace := same .outputInPlace
  simp only [value, Option.some.injEq, ConfigValue.text.injEq, ConfigValue.flag.injEq] at *
  simp [*]

theorem default_eq_none {key : ConfigKey} (unset : settings.value key = none) :
    ({} : Settings).value key = none := by
  cases key <;> first | rfl | cases unset

/-! ### The written document -/

theorem Group.mem_entries_iff {group : Group} {entry : String × Toml.Scalar} :
    entry ∈ group.entries settings ↔ ∃ key value, key.sectionName = group.name ∧
      settings.value key = some value ∧ (key.field, value.scalar) = entry := by
  simp [entries, Group.mem_keys_iff]

theorem mem_sections {group : Group} {entry : String × Toml.Scalar}
    (inside : entry ∈ group.entries settings) (emptyHeaders : Bool) :
    (group.name, group.entries settings) ∈ settings.sections emptyHeaders := by
  have known : group ∈ Group.all := by cases group <;> decide
  have filled : (group.entries settings).isEmpty = false := by
    simpa using List.ne_nil_of_mem inside
  simp [sections, filled]
  exact ⟨group, known, rfl, rfl⟩

theorem exists_group_of_mem_sections {part : Toml.FlatSection}
    (member : part ∈ settings.sections emptyHeaders) :
    ∃ group : Group, (group.name, group.entries settings) = part := by
  obtain ⟨group, -, made⟩ := List.mem_map.mp (List.mem_of_mem_filter member)
  exact ⟨group, made⟩

/-- The document gives the keys that are set. -/
theorem gives_documentOf_iff {key : ConfigKey} {found : Toml.Value} :
    Gives (Toml.documentOf (settings.sections emptyHeaders)) key found ↔
      ∃ value, settings.value key = some value ∧ found = value.scalar.value := by
  constructor
  · rintro ⟨entries, inside, member⟩
    obtain ⟨part, listed, made⟩ := List.mem_map.mp inside
    obtain ⟨group, rfl⟩ := exists_group_of_mem_sections listed
    obtain ⟨-, tabled⟩ := Prod.mk.inj made
    obtain rfl := Toml.Value.table.inj tabled
    obtain ⟨entry, among, same⟩ := List.mem_map.mp member
    obtain ⟨other, value, -, set, rfl⟩ := Group.mem_entries_iff.mp among
    obtain ⟨named, rfl⟩ := Prod.mk.inj same
    rw [ConfigKey.field_injective named] at set
    exact ⟨value, set, rfl⟩
  · rintro ⟨value, set, rfl⟩
    obtain ⟨group, named⟩ := Group.exists_name_eq_sectionName key
    have member : (key.field, value.scalar) ∈ group.entries settings :=
      Group.mem_entries_iff.mpr ⟨key, value, named.symm, set, rfl⟩
    have listed := mem_sections member emptyHeaders
    have tabled : (key.sectionName, .table (Toml.tableOf (group.name, group.entries settings))) ∈
        Toml.documentOf (settings.sections emptyHeaders) :=
      named ▸ List.mem_map.mpr ⟨_, listed, rfl⟩
    exact ⟨_, tabled, List.mem_map.mpr ⟨_, member, rfl⟩⟩

theorem tabular_documentOf : Tabular (Toml.documentOf (settings.sections emptyHeaders)) := by
  intro group found member
  obtain ⟨part, -, made⟩ := List.mem_map.mp member
  exact ⟨_, (Prod.mk.inj made).2.symm⟩

theorem isName_name (group : Group) : Toml.IsName group.name := by
  cases group <;> exact ⟨by decide, List.all_eq_true.mp (by decide)⟩

theorem isName_field (key : ConfigKey) : Toml.IsName key.field := by
  cases key <;> exact ⟨by decide, List.all_eq_true.mp (by decide)⟩

theorem distinct_sections : ((settings.sections emptyHeaders).map Prod.fst).Nodup := by
  have names : (Group.all.map Group.name).Nodup := by decide
  refine List.Nodup.sublist (List.filter_sublist.map Prod.fst) ?_
  rw [List.map_map]
  exact names

theorem distinct_entries (group : Group) : ((group.entries settings).map Prod.fst).Nodup := by
  have keys : group.keys.Nodup := by cases group <;> decide
  rw [Group.entries, List.map_filterMap]
  refine keys.filterMap ?_
  intro key other name first second
  obtain ⟨_, firstEntry, rfl⟩ := Option.map_eq_some_iff.mp first
  obtain ⟨_, secondEntry, same⟩ := Option.map_eq_some_iff.mp second
  obtain ⟨_, -, rfl⟩ := Option.map_eq_some_iff.mp firstEntry
  obtain ⟨_, -, rfl⟩ := Option.map_eq_some_iff.mp secondEntry
  exact ConfigKey.field_injective same.symm

section Whole

variable (whole : settings.WholeIndent)

include whole

theorem meaning?_scalar {key : ConfigKey} {value : ConfigValue}
    (set : settings.value key = some value) : key.meaning? value.scalar.value = some value := by
  cases key with
  | indentWidth =>
    obtain ⟨width, given, rfl⟩ := Option.map_eq_some_iff.mp set
    obtain ⟨n, -, bounded, rfl⟩ := whole width given
    simp [ConfigValue.scalar, Toml.Scalar.value, ConfigKey.meaning?, Binary64.floor_ofInt bounded]
  | interpreterPath =>
    obtain ⟨path, -, rfl⟩ := Option.map_eq_some_iff.mp set
    rfl
  | _ => cases set; rfl

theorem bounded_scalar {key : ConfigKey} {value : ConfigValue}
    (set : settings.value key = some value) : value.scalar.Bounded := by
  cases value with
  | number width =>
    have given : settings.indentWidth = some width := by cases key <;> simp_all [Settings.value]
    obtain ⟨n, positive, bounded, rfl⟩ := whole width given
    rw [ConfigValue.scalar, Binary64.floor_ofInt bounded]
    exact ⟨positive, Nat.lt_of_le_of_lt bounded (by decide)⟩
  | text | flag => trivial

theorem fits_documentOf : Fits (Toml.documentOf (settings.sections emptyHeaders)) where
  sections entry member := by
    obtain ⟨part, listed, rfl⟩ := List.mem_map.mp member
    obtain ⟨group, rfl⟩ := exists_group_of_mem_sections listed
    exact Group.exists_name_iff.mp ⟨group, rfl⟩
  entries name entries member := by
    obtain ⟨part, listed, made⟩ := List.mem_map.mp member
    obtain ⟨group, rfl⟩ := exists_group_of_mem_sections listed
    obtain ⟨rfl, tabled⟩ := Prod.mk.inj made
    obtain rfl := Toml.Value.table.inj tabled
    intro entry inside
    obtain ⟨written, among, rfl⟩ := List.mem_map.mp inside
    obtain ⟨key, value, located, set, rfl⟩ := Group.mem_entries_iff.mp among
    exact ⟨key, located, rfl, by rw [meaning?_scalar whole set]; rfl⟩

end Whole

/-! ### Main theorem -/

/-- Valid settings come back from the text that was written, in whatever way the characters of their
strings are spelled: every key has its value again. -/
theorem parse_written {escape : Char → List Char} (spells : ∀ c, Toml.Spelling c (escape c))
    (valid : settings.validate = .ok settings) (whole : settings.WholeIndent)
    (emptyHeaders : Bool) : parse (settings.written escape emptyHeaders) = .ok settings := by
  have writable : ∀ part ∈ settings.sections emptyHeaders, Toml.Writable part := by
    intro part member
    obtain ⟨group, rfl⟩ := exists_group_of_mem_sections member
    refine ⟨isName_name group, ?_⟩
    intro entry inside
    obtain ⟨key, value, -, set, rfl⟩ := Group.mem_entries_iff.mp inside
    exact ⟨isName_field key, bounded_scalar whole set⟩
  have distinct : ∀ part ∈ settings.sections emptyHeaders, (part.2.map Prod.fst).Nodup := by
    intro part member
    obtain ⟨group, rfl⟩ := exists_group_of_mem_sections member
    exact distinct_entries group
  have document := Toml.read?_written spells writable distinct_sections distinct
  have sound := Toml.Value.wellFormed_table_iff.mp (Toml.wellFormed_of_read? document)
  -- The document that is read says settings, and these have the value that was written at each key.
  obtain ⟨read, typed⟩ := (exists_ofTable_iff tabular_documentOf).mpr (fits_documentOf whole)
  have reads := reads_ofTable tabular_documentOf sound typed
  have same : ∀ key, read.value key = settings.value key := by
    intro key
    cases set : settings.value key with
    | none =>
      -- Nothing is written for the key, and without an entry it stays unset.
      have absent : ∀ found,
          ¬ Gives (Toml.documentOf (settings.sections emptyHeaders)) key found := by
        intro found given
        obtain ⟨value, other, -⟩ := gives_documentOf_iff.mp given
        cases set.symm.trans other
      rw [reads.kept key absent, default_eq_none set]
    | some value =>
      obtain ⟨_, means, assigned⟩ := reads.set key _ (gives_documentOf_iff.mpr ⟨value, set, rfl⟩)
      rw [assigned, ← means, meaning?_scalar whole set]
  rw [written, parse, document]
  simp only [ofDocument, typed, value_injective same, valid]

/-- Quotes, a backslash, control characters and a character beyond sixteen bits, and the greatest
indent. -/
theorem parse_written_unicode :
    let settings : Settings :=
      { interpreterPath := some "\"py\"\\\n", toolModule := "a\x7f😀", flagPrefix := "\x01",
        indentWidth := some (.ofInt (Decimal.twoTo 53)), safeMode := true }
    settings.written Toml.escape false =
        "[python]\ninterpreter_path = \"\\\"py\\\"\\\\\\n\"\n" ++
        "[docstrings]\ntool = \"a\\u007f😀\"\nindent = 9007199254740992\nnoself = false\n" ++
        "flag_prefix = \"\\u0001\"\nsafe = true\nuse_black = false\ninclude_private = false\n" ++
        "format_on_save = false\noutput_in_place = false\n" ∧
      parse (settings.written Toml.escape false) = .ok settings := by
  intro settings
  have valid : settings.validate = .ok settings := by decide +kernel
  have whole : settings.WholeIndent := by
    intro width set
    obtain rfl := Option.some.inj set
    exact ⟨Decimal.twoTo 53, by decide, by decide, rfl⟩
  exact ⟨by decide +kernel, parse_written Toml.spelling_escape valid whole false⟩

end Settings

end EditorBridge
