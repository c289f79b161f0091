import EditorBridge.Proofs.Toml.WellFormed
import EditorBridge.Settings.Reader

/-!
# What the entries of a document set

An entry sets the one key that it names and leaves every other key alone. So a document whose names
are distinct sets each key that it gives to the value of the entry, in whatever order the entries
and the sections stand, and whether an entry is accepted does not depend on the others.

## Main statements

`Settings.exists_ofTable_iff`: the documents that say settings.

`Settings.reads_ofTable`: what these settings are.
-/

namespace EditorBridge

/-! ### Keys -/

namespace ConfigKey

theorem field_injective {key other : ConfigKey} (same : key.field = other.field) : key = other := by
  cases key <;> cases other <;> first | rfl | exact absurd same (by decide)

/-- What an editor answers for the key when a document has this value for it; nothing when the value
is not of the type of the key. -/
def meaning? : ConfigKey → Toml.Value → Option ConfigValue
  | .interpreterPath, .string text | .toolModule, .string text | .flagPrefix, .string text =>
    some (.text text)
  | .indentWidth, .integer value => some (.number (.ofInt value))
  | .indentWidth, .float value => some (.number value)
  | .excludeSelf, .boolean value | .safeMode, .boolean value | .useBlack, .boolean value
  | .includePrivate, .boolean value | .formatOnSave, .boolean value
  | .outputInPlace, .boolean value => some (.flag value)
  | _, _ => none

theorem eq_string_of_meaning? {key : ConfigKey} {value : Toml.Value} {text : String}
    (means : key.meaning? value = some (.text text)) : value = .string text := by
  cases key <;> cases value <;> cases means <;> rfl

theorem eq_number_of_meaning? {key : ConfigKey} {value : Toml.Value} {number : Binary64}
    (means : key.meaning? value = some (.number number)) :
    (∃ integer, value = .integer integer ∧ number = .ofInt integer) ∨ value = .float number := by
  cases key <;> cases value <;> cases means
  · exact .inl ⟨_, rfl, rfl⟩
  · exact .inr rfl

end ConfigKey

namespace Settings

theorem Group.nodup_keys (group : Group) : group.keys.Nodup := by
  cases group <;> decide

theorem Group.mem_keys_iff {group : Group} {key : ConfigKey} :
    key ∈ group.keys ↔ key.sectionName = group.name := by
  cases group <;> cases key <;> decide

theorem find?_keys_eq_some_iff {group : Group} {name : String} {key : ConfigKey} :
    group.keys.find? (·.field == name) = some key ↔
      key.sectionName = group.name ∧ key.field = name := by
  constructor
  · intro found
    have named : key.field = name := by simpa using List.find?_some found
    exact ⟨Group.mem_keys_iff.mp (List.mem_of_find?_eq_some found), named⟩
  · rintro ⟨inside, rfl⟩
    -- Whatever is found first has the same name, so it is the key.
    have known : (group.keys.find? (·.field == key.field)).isSome :=
      List.find?_isSome.mpr ⟨key, Group.mem_keys_iff.mpr inside, by simp⟩
    obtain ⟨other, found⟩ := Option.isSome_iff_exists.mp known
    have named : other.field = key.field := by simpa using List.find?_some found
    rwa [ConfigKey.field_injective named] at found

theorem find?_all_eq_some_iff {name : String} {group : Group} :
    Group.all.find? (·.name == name) = some group ↔ group.name = name := by
  constructor
  · intro found
    simpa using List.find?_some found
  · rintro rfl
    cases group <;> decide

/-! ### One entry -/

/-- Each key that is given has come to its value, and every other key has kept its own. -/
structure Reads (given : ConfigKey → Toml.Value → Prop) (before after : Settings) : Prop where
  set : ∀ key value, given key value →
    ∃ meaning, key.meaning? value = some meaning ∧ after.value key = some meaning
  kept : ∀ key, (∀ value, ¬ given key value) → after.value key = before.value key

theorem Reads.refl {given : ConfigKey → Toml.Value → Prop} (none : ∀ key value, ¬ given key value)
    (settings : Settings) : Reads given settings settings :=
  ⟨fun key value found => absurd found (none key value), fun _ _ => rfl⟩

theorem Reads.congr {given other : ConfigKey → Toml.Value → Prop} {before after : Settings}
    (reads : Reads given before after) (same : ∀ key value, other key value ↔ given key value) :
    Reads other before after where
  set key value found := reads.set key value ((same key value).mp found)
  kept key absent := reads.kept key fun value found => absent value ((same key value).mpr found)

/-- Only the values of the settings count. -/
theorem Reads.of_values {given : ConfigKey → Toml.Value → Prop} {before other after : Settings}
    (reads : Reads given before after) (same : ∀ key, other.value key = before.value key) :
    Reads given other after where
  set := reads.set
  kept key absent := (reads.kept key absent).trans (same key).symm

theorem Reads.trans {first second both : ConfigKey → Toml.Value → Prop}
    {before between after : Settings} (earlier : Reads first before between)
    (later : Reads second between after)
    (disjoint : ∀ key value other, first key value → ¬ second key other)
    (cover : ∀ key value, both key value ↔ first key value ∨ second key value) :
    Reads both before after where
  set key value given := by
    rcases (cover key value).mp given with given | given
    · obtain ⟨meaning, fits, set⟩ := earlier.set key value given
      have kept := later.kept key fun other => disjoint key value other given
      exact ⟨meaning, fits, kept.trans set⟩
    · exact later.set key value given
  kept key absent := by
    have kept := later.kept key fun value given => absent value ((cover key value).mpr (.inr given))
    rw [kept]
    exact earlier.kept key fun value given => absent value ((cover key value).mpr (.inl given))

theorem assign_reads {settings after : Settings} {key : ConfigKey} {value : Toml.Value}
    (assigned : settings.assign key value = .ok after) :
    Reads (fun other found => other = key ∧ found = value) settings after := by
  cases key <;> cases value <;> cases assigned
  all_goals
    constructor
    · rintro _ _ ⟨rfl, rfl⟩
      exact ⟨_, rfl, rfl⟩
    · intro other absent
      cases other <;> first | rfl | exact absurd ⟨rfl, rfl⟩ (absent _)

theorem exists_assign_iff (settings : Settings) {key : ConfigKey} {value : Toml.Value} :
    (∃ after, settings.assign key value = .ok after) ↔ (key.meaning? value).isSome := by
  cases key <;> cases value <;>
    simp [assign, textOf, numberOf, flagOf, ConfigKey.meaning?, Except.map]

/-! ### One section -/

/-- The section has a key of this name, and the value is of its type. -/
def EntryFits (name : String) (entry : String × Toml.Value) : Prop :=
  ∃ key : ConfigKey, key.sectionName = name ∧ key.field = entry.1 ∧ (key.meaning? entry.2).isSome

theorem assignNamed_eq_ok_iff {group : Group} {settings after : Settings}
    {entry : String × Toml.Value} :
    assignNamed group settings entry = .ok after ↔
      ∃ key, (key.sectionName = group.name ∧ key.field = entry.1) ∧
        settings.assign key entry.2 = .ok after := by
  unfold assignNamed
  constructor
  · intro assigned
    split at assigned
    next key found => exact ⟨key, find?_keys_eq_some_iff.mp found, assigned⟩
    next => cases assigned
  · rintro ⟨key, named, assigned⟩
    rw [find?_keys_eq_some_iff.mpr named]
    exact assigned

theorem exists_assignNamed_iff {group : Group} {settings : Settings} {entry : String × Toml.Value} :
    (∃ after, assignNamed group settings entry = .ok after) ↔ EntryFits group.name entry := by
  simp only [assignNamed_eq_ok_iff, EntryFits, ← exists_assign_iff settings]
  constructor
  · rintro ⟨after, key, ⟨inside, named⟩, assigned⟩
    exact ⟨key, inside, named, after, assigned⟩
  · rintro ⟨key, inside, named, after, assigned⟩
    exact ⟨after, key, ⟨inside, named⟩, assigned⟩

section Fold

variable {σ ε α : Type} {step : σ → α → Except ε σ}

theorem foldlM_cons_eq_ok_iff {item : α} {items : List α} {state last : σ} :
    (item :: items).foldlM step state = .ok last ↔
      ∃ next, step state item = .ok next ∧ items.foldlM step next = .ok last := by
  rw [List.foldlM_cons]
  cases step state item with
  | error mismatch => exact ⟨nofun, nofun⟩
  | ok next =>
    constructor
    · exact fun later => ⟨next, rfl, later⟩
    · rintro ⟨_, same, later⟩
      cases same
      exact later

/-- When whether a step succeeds does not depend on the state, a fold comes to its end if and only
if each item is good. -/
theorem exists_foldlM_iff {good : α → Prop} {items : List α}
    (each : ∀ item ∈ items, ∀ state, (∃ next, step state item = .ok next) ↔ good item) (state : σ) :
    (∃ last, items.foldlM step state = .ok last) ↔ ∀ item ∈ items, good item := by
  induction items generalizing state with
  | nil => exact ⟨fun _ => nofun, fun _ => ⟨state, rfl⟩⟩
  | cons item items ih =>
    have ih := ih fun item member => each item (List.mem_cons_of_mem _ member)
    simp only [foldlM_cons_eq_ok_iff, List.forall_mem_cons, ← each item List.mem_cons_self state]
    constructor
    · rintro ⟨last, next, first, later⟩
      exact ⟨⟨next, first⟩, (ih next).mp ⟨last, later⟩⟩
    · rintro ⟨⟨next, first⟩, rest⟩
      obtain ⟨last, later⟩ := (ih next).mpr rest
      exact ⟨last, next, first, later⟩

end Fold

theorem exists_foldlM_assignNamed_iff {group : Group} {settings : Settings} {entries : Toml.Table} :
    (∃ after, entries.foldlM (assignNamed group) settings = .ok after) ↔
      ∀ entry ∈ entries, EntryFits group.name entry := by
  apply exists_foldlM_iff
  exact fun entry _ state => exists_assignNamed_iff

/-- Steps that each set keys of their own set all of these keys together. A step can count on its own
keys being as they were at the start. -/
theorem reads_foldlM {α : Type} {step : Settings → α → Except Mismatch Settings} {items : List α}
    {settings after : Settings} (read : items.foldlM step settings = .ok after)
    (holds : α → ConfigKey → Toml.Value → Prop) (owns : α → ConfigKey → Prop)
    (inside : ∀ item key value, holds item key value → owns item key)
    (each : ∀ item ∈ items, ∀ before next,
      (∀ key, owns item key → before.value key = settings.value key) →
      step before item = .ok next → Reads (holds item) before next)
    (apart : items.Pairwise fun first later => ∀ key, owns first key → ¬ owns later key) :
    Reads (fun key value => ∃ item ∈ items, holds item key value) settings after := by
  induction items generalizing settings with
  | nil =>
    cases read
    exact .refl (by simp) _
  | cons item items ih =>
    obtain ⟨between, stepped, rest⟩ := foldlM_cons_eq_ok_iff.mp read
    obtain ⟨fresh, apart⟩ := List.pairwise_cons.mp apart
    have first := each item List.mem_cons_self settings between (fun _ _ => rfl) stepped
    -- The first step leaves the keys of the later ones alone.
    have untouched : ∀ later ∈ items, ∀ key, owns later key →
        between.value key = settings.value key := fun later member key owned =>
      first.kept key fun value given => fresh later member key (inside item key value given) owned
    refine first.trans (ih rest ?_ apart) ?_ ?_
    · intro later member before next same
      refine each later (List.mem_cons_of_mem _ member) before next fun key owned => ?_
      exact (same key owned).trans (untouched later member key owned)
    · rintro key value other given ⟨later, member, again⟩
      exact fresh later member key (inside item key value given) (inside later key other again)
    · simp

theorem assignNamed_reads {group : Group} {settings after : Settings}
    {entry : String × Toml.Value} (assigned : assignNamed group settings entry = .ok after) :
    Reads (fun key value => key.sectionName = group.name ∧ (key.field, value) = entry) settings
      after := by
  obtain ⟨key, ⟨inside, named⟩, assigned⟩ := assignNamed_eq_ok_iff.mp assigned
  refine (assign_reads assigned).congr ?_
  intro other value
  constructor
  · rintro ⟨-, rfl⟩
    exact ⟨ConfigKey.field_injective named.symm, rfl⟩
  · rintro ⟨rfl, rfl⟩
    exact ⟨inside, by rw [named]⟩

/-- The keys of a section come to the values that its entries name. -/
theorem reads_entries {group : Group} {settings after : Settings} {entries : Toml.Table}
    (distinct : (entries.map Prod.fst).Nodup)
    (read : entries.foldlM (assignNamed group) settings = .ok after) :
    Reads (fun key value => key.sectionName = group.name ∧ (key.field, value) ∈ entries) settings
      after := by
  refine (reads_foldlM read
    (fun entry key value => key.sectionName = group.name ∧ (key.field, value) = entry)
    (fun entry key => key.field = entry.1) ?_ ?_ ?_).congr ?_
  · rintro entry key value ⟨-, rfl⟩
    rfl
  · intro entry _ before next _
    exact assignNamed_reads
  · refine (List.pairwise_map.mp distinct).imp ?_
    intro first later different key named again
    exact different (named.symm.trans again)
  · intro key value
    simp [and_comm]

theorem pairwise_zip {α β : Type} {first : List α} (distinct : first.Nodup) (second : List β) :
    (first.zip second).Pairwise fun entry later => entry.1 ≠ later.1 := by
  induction first generalizing second with
  | nil => exact .nil
  | cons a first ih =>
    obtain ⟨fresh, distinct⟩ := List.nodup_cons.mp distinct
    cases second with
    | nil => exact .nil
    | cons b second =>
      refine List.pairwise_cons.mpr ⟨?_, ih distinct second⟩
      rintro later member rfl
      exact fresh (List.of_mem_zip member).1

/-- The keys of a section come to the values that an array lists at their places. -/
theorem reads_items {group : Group} {settings after : Settings} {items : List Toml.Value}
    (read : (group.keys.zip items).foldlM (fun settings (key, item) => settings.assign key item)
      settings = .ok after) :
    Reads (fun key value => (key, value) ∈ group.keys.zip items) settings after := by
  refine (reads_foldlM read (fun place key value => key = place.1 ∧ value = place.2)
    (fun place key => key = place.1) ?_ ?_ ?_).congr ?_
  · rintro place key value ⟨rfl, -⟩
    rfl
  · intro place _ before next _
    exact assign_reads
  · -- No key has two places.
    refine (pairwise_zip (Group.nodup_keys group) items).imp ?_
    rintro first later different key rfl again
    exact different again
  · intro key value
    simp

/-- A section has a value for the key, under its name or at its place. -/
def Group.Holds (group : Group) (key : ConfigKey) (value : Toml.Value) : Toml.Value → Prop
  | .table entries => key.sectionName = group.name ∧ (key.field, value) ∈ entries
  | .array items => (key, value) ∈ group.keys.zip items
  | _ => False

theorem Group.Holds.sectionName_eq {group : Group} {key : ConfigKey} {value content : Toml.Value}
    (holds : group.Holds key value content) : key.sectionName = group.name := by
  cases content with
  | table entries => exact holds.1
  | array items => exact Group.mem_keys_iff.mp (List.of_mem_zip holds).1
  | _ => cases holds

/-- No key has the name that stands for a date. -/
theorem assignGroup_moment_ne_ok {group : Group} {settings after : Settings} :
    assignGroup group settings .moment ≠ .ok after := by
  intro assigned
  obtain ⟨key, ⟨-, named⟩, -⟩ := assignNamed_eq_ok_iff.mp assigned
  cases key <;> exact absurd named (by decide)

/-- A key without a value in its section has the value that it has without the section. -/
theorem value_reset (group : Group) (settings : Settings) (key : ConfigKey) :
    (group.reset settings).value key =
      if key.sectionName = group.name then ({} : Settings).value key else settings.value key := by
  cases group <;> cases key <;> rfl

/-- Until a section comes its keys have their defaults, so nothing but the values that it holds
changes with it. -/
theorem assignGroup_reads {group : Group} {settings after : Settings} {content : Toml.Value}
    (sound : content.WellFormed)
    (unset : ∀ key : ConfigKey, key.sectionName = group.name →
      settings.value key = ({} : Settings).value key)
    (assigned : assignGroup group settings content = .ok after) :
    Reads (fun key value => group.Holds key value content) settings after := by
  have reset : ∀ key, settings.value key = (group.reset settings).value key := by
    intro key
    rw [value_reset]
    split
    next inside => exact unset key inside
    next => rfl
  refine Reads.of_values ?_ reset
  cases content with
  | table entries => exact reads_entries (Toml.Value.wellFormed_table_iff.mp sound).distinct assigned
  | array items => exact reads_items assigned
  | moment => exact absurd assigned assignGroup_moment_ne_ok
  | _ => cases assigned

/-! ### The document -/

/-- The document has a value for the key. -/
def Gives (table : Toml.Table) (key : ConfigKey) (value : Toml.Value) : Prop :=
  ∃ entries, (key.sectionName, .table entries) ∈ table ∧ (key.field, value) ∈ entries

/-- Where a section stands, it is a table. -/
def Tabular (table : Toml.Table) : Prop :=
  ∀ (group : Group) value, (group.name, value) ∈ table → ∃ entries, value = .table entries

/-- Only sections stand in the document, and in them only their keys with values of their types. -/
structure Fits (table : Toml.Table) : Prop where
  sections : ∀ entry ∈ table, entry.1 = "python" ∨ entry.1 = "docstrings"
  entries : ∀ name entries, (name, .table entries) ∈ table →
    ∀ entry ∈ entries, EntryFits name entry

theorem Group.exists_name_iff {name : String} :
    (∃ group : Group, group.name = name) ↔ name = "python" ∨ name = "docstrings" := by
  constructor
  · rintro ⟨group, rfl⟩
    cases group <;> decide
  · rintro (rfl | rfl)
    · exact ⟨.python, rfl⟩
    · exact ⟨.docstrings, rfl⟩

theorem Group.name_injective {group other : Group} (same : group.name = other.name) :
    group = other := by
  cases group <;> cases other <;> first | rfl | exact absurd same (by decide)

theorem Group.exists_name_eq_sectionName (key : ConfigKey) :
    ∃ group : Group, group.name = key.sectionName := by
  rw [exists_name_iff]
  cases key <;> decide

theorem assignSection_eq_ok_iff {settings after : Settings} {entry : String × Toml.Value} :
    assignSection settings entry = .ok after ↔
      ∃ group : Group, group.name = entry.1 ∧ assignGroup group settings entry.2 = .ok after := by
  unfold assignSection
  constructor
  · intro assigned
    split at assigned
    next group found => exact ⟨group, find?_all_eq_some_iff.mp found, assigned⟩
    next => cases assigned
  · rintro ⟨group, named, assigned⟩
    rw [find?_all_eq_some_iff.mpr named]
    exact assigned

/-- What a section can hold: keys of its own, or values at their places, of the types of these keys. -/
def Group.Admits (group : Group) : Toml.Value → Prop
  | .table entries => ∀ entry ∈ entries, EntryFits group.name entry
  | .array items => ∀ place ∈ group.keys.zip items, (place.1.meaning? place.2).isSome
  | _ => False

theorem exists_assignGroup_iff {group : Group} (settings : Settings) {content : Toml.Value} :
    (∃ after, assignGroup group settings content = .ok after) ↔ group.Admits content := by
  cases content with
  | table entries => exact exists_foldlM_assignNamed_iff
  | array items =>
    refine exists_foldlM_iff ?_ (group.reset settings)
    exact fun place _ state => exists_assign_iff state
  | moment =>
    refine ⟨?_, False.elim⟩
    rintro ⟨after, assigned⟩
    exact absurd assigned assignGroup_moment_ne_ok
  | _ =>
    refine ⟨?_, False.elim⟩
    rintro ⟨after, assigned⟩
    simp only [assignGroup] at assigned
    cases assigned

/-- Whether a section is accepted does not depend on the sections before it. -/
theorem exists_ofTable_iff_admits {table : Toml.Table} :
    (∃ settings, ofTable table = .ok settings) ↔
      ∀ entry ∈ table, ∃ group : Group, group.name = entry.1 ∧ group.Admits entry.2 := by
  apply exists_foldlM_iff
  intro entry _ settings
  simp only [assignSection_eq_ok_iff, ← exists_assignGroup_iff settings]
  constructor
  · rintro ⟨after, group, named, assigned⟩
    exact ⟨group, named, after, assigned⟩
  · rintro ⟨group, named, after, assigned⟩
    exact ⟨after, group, named, assigned⟩

/-- A document whose sections are tables says settings if and only if it fits. -/
theorem exists_ofTable_iff {table : Toml.Table} (tabular : Tabular table) :
    (∃ settings, ofTable table = .ok settings) ↔ Fits table := by
  rw [exists_ofTable_iff_admits]
  constructor
  · intro good
    refine ⟨fun entry member => ?_, fun name entries member => ?_⟩
    · obtain ⟨group, named, -⟩ := good entry member
      exact Group.exists_name_iff.mp ⟨group, named⟩
    · obtain ⟨group, rfl, admitted⟩ := good _ member
      exact admitted
  · rintro fits ⟨name, content⟩ member
    obtain ⟨group, rfl⟩ := Group.exists_name_iff.mpr (fits.sections _ member)
    obtain ⟨entries, rfl⟩ := tabular group content member
    exact ⟨group, rfl, fits.entries _ entries member⟩

/-- The document has a value for the key, in a section of either form. -/
def Sets (table : Toml.Table) (key : ConfigKey) (value : Toml.Value) : Prop :=
  ∃ (group : Group) (content : Toml.Value), (group.name, content) ∈ table ∧
    group.Holds key value content

/-- The settings of a document have the values that it has for their keys, and the defaults
elsewhere. -/
theorem reads_sections {table : Toml.Table} {settings : Settings}
    (sound : Toml.Sound Toml.Value.WellFormed table) (read : ofTable table = .ok settings) :
    Reads (Sets table) {} settings := by
  refine (reads_foldlM read
    (fun entry key value => ∃ group : Group, group.name = entry.1 ∧ group.Holds key value entry.2)
    (fun entry key => key.sectionName = entry.1) ?_ ?_ ?_).congr ?_
  · rintro entry key value ⟨group, named, given⟩
    exact given.sectionName_eq.trans named
  · intro entry member before next unset assigned
    obtain ⟨group, named, assigned⟩ := assignSection_eq_ok_iff.mp assigned
    rw [← named] at unset
    refine (assignGroup_reads (sound.each entry member) unset assigned).congr ?_
    intro key value
    constructor
    · rintro ⟨other, again, given⟩
      exact Group.name_injective (again.trans named.symm) ▸ given
    · exact fun given => ⟨group, named, given⟩
  · -- A key knows its section, and the document names no section twice.
    refine (List.pairwise_map.mp sound.distinct).imp ?_
    intro first later different key named again
    exact different (named.symm.trans again)
  · intro key value
    constructor
    · rintro ⟨group, content, member, given⟩
      exact ⟨_, member, group, rfl, given⟩
    · rintro ⟨⟨name, content⟩, member, group, rfl, given⟩
      exact ⟨group, content, member, given⟩

theorem sets_iff_gives {table : Toml.Table} (tabular : Tabular table) (key : ConfigKey)
    (value : Toml.Value) : Sets table key value ↔ Gives table key value := by
  constructor
  · rintro ⟨group, content, member, given⟩
    obtain ⟨entries, rfl⟩ := tabular group content member
    exact ⟨entries, given.1 ▸ member, given.2⟩
  · rintro ⟨entries, member, inside⟩
    obtain ⟨group, named⟩ := Group.exists_name_eq_sectionName key
    exact ⟨group, .table entries, named ▸ member, named.symm, inside⟩

/-- The settings of a document have the values that it gives, and the defaults elsewhere. -/
theorem reads_ofTable {table : Toml.Table} {settings : Settings} (tabular : Tabular table)
    (sound : Toml.Sound Toml.Value.WellFormed table) (read : ofTable table = .ok settings) :
    Reads (Gives table) {} settings :=
  (reads_sections sound read).congr fun key value => (sets_iff_gives tabular key value).symm

end Settings

end EditorBridge
