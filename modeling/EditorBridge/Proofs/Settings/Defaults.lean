import EditorBridge.Proofs.Settings.RoundTrip
import EditorBridge.Settings.File

/-!
# What a settings file leaves out

A key can be left out in many ways: there is no file, the file says nothing, it lacks the section, or
the section does not name the key or ends before its place. The defaults of the settings and those of a
section that is there agree, so each of these ways leaves the same value. And a section can name its
keys or list their values alone, because both forms hold the same values.

## Main statements

`Settings.omits_iff`: a key that is left out, by where it could stand.

`Settings.parse_alike`: the two forms of a section.

`Settings.defaults_agree`: the defaults, on every way to the settings.
-/

namespace EditorBridge.Settings

/-! ### Keys that are left out -/

/-- The document has no value for the key: it lacks the section, the section does not name the key, or
its array ends before the place of the key. -/
def Omits (table : Toml.Table) (key : ConfigKey) : Prop :=
  ∀ group : Group, key ∈ group.keys → ∀ content, (group.name, content) ∈ table →
    (∀ entries, content = .table entries → key.field ∉ entries.map Prod.fst) ∧
      ∀ items, content = .array items → items.length ≤ group.keys.idxOf key

/-- An array lists a value for the key when it goes beyond the place of the key. -/
theorem exists_mem_zip_keys_iff {group : Group} {key : ConfigKey} (inside : key ∈ group.keys)
    (items : List Toml.Value) :
    (∃ value, (key, value) ∈ group.keys.zip items) ↔ group.keys.idxOf key < items.length := by
  constructor
  · rintro ⟨value, member⟩
    obtain ⟨i, bound, found⟩ := List.mem_iff_getElem.mp member
    rw [List.length_zip, Nat.lt_min] at bound
    obtain ⟨rfl, -⟩ := Prod.mk.inj ((List.getElem_zip ..).symm.trans found)
    -- No key is listed twice, so where it was found is its place.
    rw [group.nodup_keys.idxOf_getElem]
    exact bound.2
  · intro beyond
    have place := List.idxOf_lt_length_of_mem inside
    have found : group.keys[group.keys.idxOf key] = key := List.getElem_idxOf place
    refine ⟨items[group.keys.idxOf key], List.mem_iff_getElem.mpr ⟨group.keys.idxOf key, ?_, ?_⟩⟩
    · rw [List.length_zip]
      exact Nat.lt_min.mpr ⟨place, beyond⟩
    · rw [List.getElem_zip, found]

theorem omits_iff {table : Toml.Table} {key : ConfigKey} :
    Omits table key ↔ ∀ value, ¬ Sets table key value := by
  constructor
  · rintro omits value ⟨group, content, member, holds⟩
    have inside := Group.mem_keys_iff.mpr holds.sectionName_eq
    obtain ⟨unnamed, short⟩ := omits group inside content member
    cases content with
    | table entries => exact unnamed entries rfl (List.mem_map_of_mem holds.2)
    | array items =>
      have beyond := (exists_mem_zip_keys_iff inside items).mp ⟨value, holds⟩
      exact Nat.not_lt.mpr (short items rfl) beyond
    | _ => cases holds
  · intro unset group inside content member
    -- A name in a table has a value, and so has a place in front of the end of an array.
    constructor
    · rintro entries rfl named
      obtain ⟨⟨name, value⟩, among, rfl⟩ := List.mem_map.mp named
      exact unset value ⟨group, _, member, Group.mem_keys_iff.mp inside, among⟩
    · rintro items rfl
      by_contra beyond
      obtain ⟨value, listed⟩ := (exists_mem_zip_keys_iff inside items).mpr (Nat.not_le.mp beyond)
      exact unset value ⟨group, _, member, listed⟩

/-- A text that is accepted leaves the default of every key that it leaves out. -/
theorem value_of_omits {text : String} {table : Toml.Table} {settings : Settings}
    (read : Toml.read? text = some table) (accepted : parse text = .ok settings) {key : ConfigKey}
    (omits : Omits table key) : settings.value key = ({} : Settings).value key := by
  have sound := Toml.Value.wellFormed_table_iff.mp (Toml.wellFormed_of_read? read)
  rw [parse, read] at accepted
  obtain ⟨typed, -⟩ := ofDocument_eq_ok_iff.mp accepted
  exact (reads_sections sound typed).kept key (omits_iff.mp omits)

/-! ### Two forms of a section -/

section Forms

variable {group : Group} {entries : Toml.Table} {items : List Toml.Value}
  (named : entries.Perm ((group.keys.map ConfigKey.field).zip items))

include named

theorem mem_entries_iff {name : String} {value : Toml.Value} :
    (name, value) ∈ entries ↔
      ∃ key : ConfigKey, (key, value) ∈ group.keys.zip items ∧ key.field = name := by
  rw [named.mem_iff, List.zip_map_left, List.mem_map]
  constructor
  · rintro ⟨⟨key, value⟩, listed, same⟩
    cases same
    exact ⟨key, listed, rfl⟩
  · rintro ⟨key, listed, rfl⟩
    exact ⟨(key, value), listed, rfl⟩

theorem holds_entries_iff (key : ConfigKey) (value : Toml.Value) :
    group.Holds key value (.table entries) ↔ group.Holds key value (.array items) := by
  simp only [Group.Holds, mem_entries_iff named]
  -- A name is that of one key only.
  constructor
  · rintro ⟨-, other, listed, same⟩
    exact ConfigKey.field_injective same ▸ listed
  · exact fun listed => ⟨Group.mem_keys_iff.mp (List.of_mem_zip listed).1, key, listed, rfl⟩

theorem admits_entries_iff :
    group.Admits (.table entries) ↔ group.Admits (.array items) := by
  constructor
  · rintro admits ⟨key, value⟩ listed
    obtain ⟨other, -, same, fits⟩ := admits _ ((mem_entries_iff named).mpr ⟨key, listed, rfl⟩)
    exact ConfigKey.field_injective same ▸ fits
  · rintro admits ⟨name, value⟩ member
    obtain ⟨key, listed, same⟩ := (mem_entries_iff named).mp member
    exact ⟨key, Group.mem_keys_iff.mp (List.of_mem_zip listed).1, same, admits _ listed⟩

end Forms

/-! ### Documents that hold the same -/

/-- The values that are given and the settings before determine the settings behind. -/
theorem Reads.unique {given : ConfigKey → Toml.Value → Prop} {before after other : Settings}
    (reads : Reads given before after) (again : Reads given before other) : after = other := by
  apply value_injective
  intro key
  by_cases given : ∃ value, given key value
  · obtain ⟨value, given⟩ := given
    obtain ⟨meaning, fits, set⟩ := reads.set key value given
    obtain ⟨other, fitsToo, setToo⟩ := again.set key value given
    rw [fits] at fitsToo
    rw [set, setToo, fitsToo]
  · have absent : ∀ value, ¬ _ := fun value found => given ⟨value, found⟩
    rw [reads.kept key absent, again.kept key absent]

/-- Every section of the document can hold what stands there. -/
def Admissible (table : Toml.Table) : Prop :=
  ∀ entry ∈ table, ∃ group : Group, group.name = entry.1 ∧ group.Admits entry.2

/-- Documents that hold the same values, and can hold them, say the same settings. -/
theorem ofTable_eq_ok_of_sets {table other : Toml.Table} {settings : Settings}
    (sound : Toml.Sound Toml.Value.WellFormed table)
    (soundToo : Toml.Sound Toml.Value.WellFormed other) (admissible : Admissible other)
    (same : ∀ key value, Sets other key value ↔ Sets table key value)
    (read : ofTable table = .ok settings) : ofTable other = .ok settings := by
  obtain ⟨found, again⟩ := exists_ofTable_iff_admits.mpr admissible
  -- Both were read from the defaults, and nothing but the values that are held counts.
  have reads := (reads_sections sound read).congr same
  rw [reads.unique (reads_sections soundToo again), again]

/-- Two results that are the same settings, or errors of the same kind; a condition that is violated is
the same one. -/
inductive Alike : Except Error Settings → Except Error Settings → Prop
  | accepted (settings : Settings) : Alike (.ok settings) (.ok settings)
  | malformed (detail other : String) :
    Alike (.error (.malformedSettings detail)) (.error (.malformedSettings other))
  | invalid (violation : Violation) :
    Alike (.error (.invalidConfig violation.message)) (.error (.invalidConfig violation.message))

theorem ofDocument_alike {table other : Toml.Table}
    (same : ∀ settings, ofTable table = .ok settings ↔ ofTable other = .ok settings) :
    Alike (ofDocument table) (ofDocument other) := by
  unfold ofDocument
  cases first : ofTable table with
  | ok settings =>
    rw [(same settings).mp first]
    dsimp only
    rw [validate]
    cases settings.violation? with
    | none => exact .accepted settings
    | some violation => exact .invalid violation
  | error mismatch =>
    -- Neither says settings; what is wrong with each of them can differ.
    cases second : ofTable other with
    | ok settings => cases first.symm.trans ((same settings).mpr second)
    | error mismatchToo => exact .malformed mismatch.message mismatchToo.message

section Divided

variable {table rest : Toml.Table} {group : Group} {content : Toml.Value}
  (divided : table.Perm ((group.name, content) :: rest))

include divided

theorem sets_iff_of_perm (key : ConfigKey) (value : Toml.Value) :
    Sets table key value ↔ group.Holds key value content ∨ Sets rest key value := by
  simp only [Sets, divided.mem_iff, List.mem_cons]
  -- A value stands in the section in front or in one of the others.
  constructor
  · rintro ⟨other, found, same | member, holds⟩
    · obtain ⟨named, rfl⟩ := Prod.mk.inj same
      exact .inl (Group.name_injective named ▸ holds)
    · exact .inr ⟨other, found, member, holds⟩
  · rintro (holds | ⟨other, found, member, holds⟩)
    · exact ⟨group, content, .inl rfl, holds⟩
    · exact ⟨other, found, .inr member, holds⟩

theorem admissible_iff_of_perm : Admissible table ↔ group.Admits content ∧ Admissible rest := by
  simp only [Admissible, divided.mem_iff, List.forall_mem_cons]
  apply and_congr_left'
  refine ⟨?_, fun admits => ⟨group, rfl, admits⟩⟩
  rintro ⟨other, named, admits⟩
  exact Group.name_injective named ▸ admits

end Divided

/-- A section can be written either way. -/
theorem parse_alike {first second : String} {table other rest entries : Toml.Table} {group : Group}
    {items : List Toml.Value} (readFirst : Toml.read? first = some table)
    (readSecond : Toml.read? second = some other)
    (listed : table.Perm ((group.name, .array items) :: rest))
    (spelled : other.Perm ((group.name, .table entries) :: rest))
    (named : entries.Perm ((group.keys.map ConfigKey.field).zip items)) :
    Alike (parse first) (parse second) := by
  have sound := Toml.Value.wellFormed_table_iff.mp (Toml.wellFormed_of_read? readFirst)
  have soundToo := Toml.Value.wellFormed_table_iff.mp (Toml.wellFormed_of_read? readSecond)
  -- The rest is the same for both, and the section holds the same in either form.
  have sets : ∀ key value, Sets table key value ↔ Sets other key value := by
    intro key value
    rw [sets_iff_of_perm listed, sets_iff_of_perm spelled, holds_entries_iff named]
  have admissible : Admissible table ↔ Admissible other := by
    rw [admissible_iff_of_perm listed, admissible_iff_of_perm spelled, admits_entries_iff named]
  rw [parse, parse, readFirst, readSecond]
  apply ofDocument_alike
  intro settings
  constructor <;> intro read
  · have admits := admissible.mp (exists_ofTable_iff_admits.mp ⟨settings, read⟩)
    exact ofTable_eq_ok_of_sets sound soundToo admits (fun key value => (sets key value).symm) read
  · have admits := admissible.mpr (exists_ofTable_iff_admits.mp ⟨settings, read⟩)
    exact ofTable_eq_ok_of_sets soundToo sound admits sets read

/-! ### Main theorem -/

theorem valid_default : ({} : Settings).Valid := (violation?_eq_none_iff {}).mp (by decide)

/-- A document whose sections are all empty is accepted, and every default holds. -/
theorem parse_of_empty_sections {text : String} {table : Toml.Table}
    (read : Toml.read? text = some table)
    (empty : ∀ entry ∈ table, ∃ group : Group, group.name = entry.1 ∧
      (entry.2 = .table [] ∨ entry.2 = .array [])) :
    parse text = .ok {} := by
  have sound := Toml.Value.wellFormed_table_iff.mp (Toml.wellFormed_of_read? read)
  have admissible : Admissible table := by
    intro entry member
    obtain ⟨group, named, form⟩ := empty entry member
    refine ⟨group, named, ?_⟩
    rcases form with form | form <;> simp [form, Group.Admits]
  have unset : ∀ key value, ¬ Sets table key value := by
    rintro key value ⟨group, content, member, holds⟩
    obtain ⟨-, -, rfl | rfl⟩ := empty _ member <;> simp [Group.Holds] at holds
  -- It says some settings, and nothing in it makes them differ from the defaults.
  obtain ⟨settings, typed⟩ := exists_ofTable_iff_admits.mpr admissible
  obtain rfl := (reads_sections sound typed).unique (.refl unset {})
  rw [parse, read]
  exact ofDocument_eq_ok_iff.mpr ⟨typed, valid_default⟩

/-- There is no settings file, or it has no value for the key. -/
def LeftOut (machine : Machine) (named : Option Path) (directory : Path) (key : ConfigKey) : Prop :=
  ∀ path text table, file? machine named directory = some path → machine.readText path = .ok text →
    Toml.read? text = some table → Omits table key

theorem value_of_leftOut {machine : Machine} {named : Option Path} {directory : Path}
    {settings : Settings} (loaded : load machine named directory = .ok settings) {key : ConfigKey}
    (leftOut : LeftOut machine named directory key) :
    settings.value key = ({} : Settings).value key := by
  unfold load at loaded
  split at loaded
  next =>
    cases loaded
    rfl
  next path chosen =>
    split at loaded
    next => cases loaded
    next text content =>
      -- What was accepted is a document.
      cases read : Toml.read? text with
      | none =>
        rw [parse, read] at loaded
        cases loaded
      | some table => exact value_of_omits read loaded (leftOut path text table chosen content read)

theorem load_of_missing {machine : Machine} {directory : Path}
    (missing : machine.isFile (directory.entry fileName) = false) :
    load machine none directory = .ok {} := by
  simp [load, file?, missing]

/-- Without a file, and with a file of empty sections, every default holds; a text or a file that is
accepted leaves the default of every key that it leaves out; and a section that lists the values of its
first keys comes to the same as one that names these keys. -/
theorem defaults_agree :
    (∀ machine directory, machine.isFile (directory.entry fileName) = false →
      load machine none directory = .ok {}) ∧
    (∀ text table, Toml.read? text = some table →
      (∀ entry ∈ table, ∃ group : Group, group.name = entry.1 ∧
        (entry.2 = .table [] ∨ entry.2 = .array [])) → parse text = .ok {}) ∧
    (∀ text table settings, Toml.read? text = some table → parse text = .ok settings →
      ∀ key, Omits table key → settings.value key = ({} : Settings).value key) ∧
    (∀ machine named directory settings, load machine named directory = .ok settings →
      ∀ key, LeftOut machine named directory key →
        settings.value key = ({} : Settings).value key) ∧
    ∀ first second table other rest (group : Group) items entries,
      Toml.read? first = some table → Toml.read? second = some other →
      table.Perm ((group.name, .array items) :: rest) →
      other.Perm ((group.name, .table entries) :: rest) →
      entries.Perm ((group.keys.map ConfigKey.field).zip items) →
      Alike (parse first) (parse second) := by
  refine ⟨?_, ?_, ?_, ?_, ?_⟩
  · intro machine directory missing
    exact load_of_missing missing
  · intro text table read empty
    exact parse_of_empty_sections read empty
  · intro text table settings read accepted key omits
    exact value_of_omits read accepted omits
  · intro machine named directory settings loaded key leftOut
    exact value_of_leftOut loaded leftOut
  · intro first second table other rest group items entries readFirst readSecond listed spelled named
    exact parse_alike readFirst readSecond listed spelled named

/-- One key of its section. -/
def partlySet : String := "[docstrings]\ntool = \"zero\"\n"

def partlySetTable : Toml.Table := [("docstrings", .table [("tool", .string "zero")])]

/-- The same in the usual file. -/
def partlySetMachine : Machine where
  tree := ⟨[([fileName], .file (Text.encode partlySet) false)]⟩
  directory := []
  stdin := []
  stdout := []
  stderr := []

theorem read?_partlySet : Toml.read? partlySet = some partlySetTable := by decide +kernel

theorem omits_partlySetTable : Omits partlySetTable .flagPrefix := by
  intro group inside content member
  obtain ⟨-, rfl⟩ := Prod.mk.inj (List.mem_singleton.mp member)
  refine ⟨?_, nofun⟩
  rintro entries same
  cases same
  decide

theorem leftOut_partlySetMachine : LeftOut partlySetMachine none ⟨"/"⟩ .flagPrefix := by
  intro path text table chosen content read
  have usual : file? partlySetMachine none ⟨"/"⟩ = some ⟨"/.docbridge.toml"⟩ := by decide +kernel
  obtain rfl := Option.some.inj (usual.symm.trans chosen)
  have kept : partlySetMachine.readText ⟨"/.docbridge.toml"⟩ = .ok partlySet := by decide +kernel
  obtain rfl := Except.ok.inj (kept.symm.trans content)
  obtain rfl := Option.some.inj (read?_partlySet.symm.trans read)
  exact omits_partlySetTable

/-- No file, an empty section, a section with one key, the same in an array, and two keys in the other
order with a value that is refused. -/
theorem defaults_agree_partly :
    let settings : Settings := { toolModule := "zero" }
    let listed := "docstrings = [\"zero\", nan]\n"
    let named := "[docstrings]\nindent = nan\ntool = \"zero\"\n"
    load partlySetMachine none ⟨"/elsewhere"⟩ = .ok {} ∧
    parse "docstrings = []\n" = .ok {} ∧
    (parse partlySet = .ok settings ∧ settings.value .flagPrefix = some (.text "!")) ∧
    (load partlySetMachine none ⟨"/"⟩ = .ok settings ∧
      settings.value .flagPrefix = some (.text "!")) ∧
    Alike (parse "docstrings = [\"zero\"]\n") (parse partlySet) ∧
    Alike (parse listed) (parse named) ∧
    parse named = .error (.invalidConfig Violation.indentNotPositive.message) := by
  intro settings listed named
  obtain ⟨missing, empty, omitted, loaded, forms⟩ := defaults_agree
  have parsed : parse partlySet = .ok settings := by decide +kernel
  have read : load partlySetMachine none ⟨"/"⟩ = .ok settings := by decide +kernel
  refine ⟨missing _ _ (by decide +kernel), ?_, ⟨parsed, ?_⟩, ⟨read, ?_⟩, ?_, ?_, by decide +kernel⟩
  · refine empty _ [("docstrings", .array [])] (by decide +kernel) ?_
    rintro entry (_ | ⟨_, ⟨⟩⟩)
    exact ⟨.docstrings, rfl, .inr rfl⟩
  · exact omitted _ _ _ read?_partlySet parsed _ omits_partlySetTable
  · exact loaded _ _ _ _ read _ leftOut_partlySetMachine
  · exact forms _ _ [("docstrings", .array [.string "zero"])] _ [] .docstrings _ _ (by decide +kernel)
      read?_partlySet (.refl _) (.refl _) (.refl _)
  · exact forms _ _ [("docstrings", .array [.string "zero", .float .nan])]
      [("docstrings", .table [("indent", .float .nan), ("tool", .string "zero")])] [] .docstrings
      _ _ (by decide +kernel) (by decide +kernel) (.refl _) (.refl _) (.swap _ _ _)

end EditorBridge.Settings
