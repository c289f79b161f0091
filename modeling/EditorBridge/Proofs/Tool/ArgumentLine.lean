import EditorBridge.Proofs.Decimal.Whole
import EditorBridge.Tool.Arguments
import Mathlib.Logic.Function.Basic

/-!
# Reading the arguments of the tool back

The texts between the options are free: a source text or a flag marker may look like any option. What
an argument means is decided by its place, though, and so a reader that goes by places alone finds
again what the arguments were made from. It reads those lists that can be written and no others, and
two lists are the same only when they say the same.

## Main statements

`CleanLine.read?_eq_some_iff`, `OverviewLine.read?_eq_some_iff`: a list is read as what it was written
from.

`arguments_unambiguous`: what two lists of arguments have to agree in to be the same.
-/

namespace EditorBridge

/-! ### Flags -/

/-- The names of the flags that are enabled, in their order. -/
def flagArguments (flags : List (String × Bool)) : List String :=
  flags.flatMap fun flag => enabledArgument flag.2 flag.1

/-- Reads which of the names are there. They stand in their order, and nothing else does. -/
def readFlags? : List String → List String → Option (List Bool)
  | [], [] => some []
  | [], _ :: _ => none
  | _ :: names, [] => (readFlags? names []).map (false :: ·)
  | name :: names, argument :: rest =>
    if argument = name then (readFlags? names rest).map (true :: ·)
    else (readFlags? names (argument :: rest)).map (false :: ·)

theorem flagArguments_cons (name : String) (enabled : Bool) (flags : List (String × Bool)) :
    flagArguments ((name, enabled) :: flags) =
      enabledArgument enabled name ++ flagArguments flags := by
  simp [flagArguments]

theorem mem_names_of_mem_flagArguments {flags : List (String × Bool)} {argument : String}
    (member : argument ∈ flagArguments flags) : argument ∈ flags.map Prod.fst := by
  simp only [flagArguments, List.mem_flatMap] at member
  obtain ⟨⟨name, enabled⟩, present, written⟩ := member
  cases enabled with
  | false => cases written
  | true =>
    obtain rfl := List.mem_singleton.mp written
    exact List.mem_map_of_mem present

/-- A name that does not come next belongs to a flag that is off. -/
theorem readFlags?_cons_of_head? {name : String} {names arguments : List String}
    (other : ∀ argument ∈ arguments.head?, argument ≠ name) :
    readFlags? (name :: names) arguments = (readFlags? names arguments).map (false :: ·) := by
  cases arguments with
  | nil => rfl
  | cons argument rest =>
    rw [readFlags?, if_neg (other argument rfl)]

theorem flagArguments_zip_cons {names rest : List String} {values : List Bool}
    (written : values.length = names.length ∧ rest = flagArguments (names.zip values))
    (name : String) (enabled : Bool) :
    (enabled :: values).length = (name :: names).length ∧
      enabledArgument enabled name ++ rest =
        flagArguments ((name :: names).zip (enabled :: values)) := by
  obtain ⟨long, rfl⟩ := written
  exact ⟨congrArg (· + 1) long, (flagArguments_cons ..).symm⟩

/-- The flags that are read are those that were written. -/
theorem readFlags?_eq_some_iff {names : List String} (distinct : names.Nodup)
    (arguments : List String) (values : List Bool) :
    readFlags? names arguments = some values ↔
      values.length = names.length ∧ arguments = flagArguments (names.zip values) := by
  constructor
  · intro read
    -- What is read is put in front of the values of the later names, case by case.
    fun_induction readFlags? names arguments generalizing values with
    | case1 =>
      cases read
      exact ⟨rfl, rfl⟩
    | case2 => cases read
    | case3 name names ih =>
      obtain ⟨later, found, rfl⟩ := Option.map_eq_some_iff.mp read
      exact flagArguments_zip_cons (ih (List.nodup_cons.mp distinct).2 later found) name false
    | case4 names name rest ih =>
      obtain ⟨later, found, rfl⟩ := Option.map_eq_some_iff.mp read
      exact flagArguments_zip_cons (ih (List.nodup_cons.mp distinct).2 later found) name true
    | case5 name names argument rest other ih =>
      obtain ⟨later, found, rfl⟩ := Option.map_eq_some_iff.mp read
      exact flagArguments_zip_cons (ih (List.nodup_cons.mp distinct).2 later found) name false
  · rintro ⟨long, rfl⟩
    induction names generalizing values with
    | nil =>
      obtain rfl := List.length_eq_zero_iff.mp long
      rfl
    | cons name names ih =>
      obtain ⟨fresh, distinct⟩ := List.nodup_cons.mp distinct
      cases values with
      | nil => cases long
      | cons enabled values =>
        have later := ih distinct values (Nat.succ.inj long)
        rw [List.zip_cons_cons, flagArguments_cons]
        cases enabled with
        | true => simp [enabledArgument, readFlags?, later]
        | false =>
          -- The name that is written next is one of the later ones, and these are different.
          have other : ∀ argument ∈ (flagArguments (names.zip values)).head?, argument ≠ name := by
            rintro argument next rfl
            have among := mem_names_of_mem_flagArguments (List.mem_of_mem_head? next)
            rw [List.map_fst_zip (Nat.le_of_eq (Nat.succ.inj long).symm)] at among
            exact fresh among
          simp [enabledArgument, readFlags?_cons_of_head? other, later]

/-! ### Numbers -/

/-- Reads a number as it is written. -/
def readNumber? (text : String) : Option Nat :=
  let number := Decimal.value text.toList
  if Decimal.natText number = text then some number else none

theorem readNumber?_eq_some_iff (text : String) (number : Nat) :
    readNumber? text = some number ↔ text = Decimal.natText number := by
  have value : Decimal.value (Decimal.natText number).toList = number := by
    rw [Decimal.natText, String.toList_ofList, Decimal.value_ofNat]
  unfold readNumber?
  constructor
  · intro read
    dsimp only at read
    split at read
    next written =>
      obtain rfl := Option.some.inj read
      exact written.symm
    next => cases read
  · rintro rfl
    simp [value]

/-! ### Cleaning -/

/-- What the arguments for cleaning say. -/
structure CleanLine where
  target : String
  /-- The tool is to write to the target. -/
  inPlace : Bool
  indent : Nat
  flagPrefix : String
  excludeSelf : Bool
  safe : Bool
  useBlack : Bool
  deriving DecidableEq, Repr

namespace CleanLine

/-- The line that a target and options call for. -/
def of (target : Target) (options : CleanOptions) : CleanLine where
  target := target.argument
  inPlace := options.outputInPlace && target.path?.isSome
  indent := options.indent
  flagPrefix := options.flagPrefix
  excludeSelf := options.excludeSelf
  safe := options.safe
  useBlack := options.useBlack

/-- What stands behind the target. -/
def settings (line : CleanLine) : List String :=
  "--indent" :: Decimal.natText line.indent :: "--flag-prefix" :: line.flagPrefix ::
    flagArguments
      (["--noself", "--safe", "--use-black"].zip [line.excludeSelf, line.safe, line.useBlack])

/-- The arguments that say it. -/
def arguments (line : CleanLine) : List String :=
  if line.inPlace then "clean" :: line.target :: "--output" :: line.target :: line.settings
  else "clean" :: line.target :: line.settings

/-- Reads what stands behind the target. -/
def readSettings? (target : String) (inPlace : Bool) : List String → Option CleanLine
  | "--indent" :: number :: "--flag-prefix" :: flagPrefix :: flags =>
    match readNumber? number, readFlags? ["--noself", "--safe", "--use-black"] flags with
    | some indent, some [excludeSelf, safe, useBlack] =>
      some ⟨target, inPlace, indent, flagPrefix, excludeSelf, safe, useBlack⟩
    | _, _ => none
  | _ => none

/-- Reads arguments by their places. The target is always the second of them. -/
def read? : List String → Option CleanLine
  | "clean" :: target :: "--output" :: path :: rest =>
    if path = target then readSettings? target true rest else none
  | "clean" :: target :: rest => readSettings? target false rest
  | _ => none

theorem readSettings?_eq_some_iff (target : String) (inPlace : Bool) (rest : List String)
    (line : CleanLine) :
    readSettings? target inPlace rest = some line ↔
      line.target = target ∧ line.inPlace = inPlace ∧ rest = line.settings := by
  have distinct : ["--noself", "--safe", "--use-black"].Nodup := by decide
  constructor
  · intro read
    unfold readSettings? at read
    split at read
    next number flagPrefix flags =>
      split at read
      next indent excludeSelf safe useBlack numbered flagged =>
        obtain rfl := Option.some.inj read
        obtain rfl := (readNumber?_eq_some_iff ..).mp numbered
        obtain ⟨-, rfl⟩ := (readFlags?_eq_some_iff distinct ..).mp flagged
        exact ⟨rfl, rfl, rfl⟩
      next => cases read
    next => cases read
  · rintro ⟨rfl, rfl, rfl⟩
    have numbered := (readNumber?_eq_some_iff _ line.indent).mpr rfl
    have flagged := (readFlags?_eq_some_iff distinct _
      [line.excludeSelf, line.safe, line.useBlack]).mpr ⟨rfl, rfl⟩
    simp only [settings, readSettings?, numbered, flagged]

theorem read?_eq_some_iff (arguments : List String) (line : CleanLine) :
    read? arguments = some line ↔ arguments = line.arguments := by
  constructor
  · intro read
    unfold read? at read
    split at read
    next target path rest =>
      split at read
      next same =>
        obtain ⟨rfl, written, rfl⟩ := (readSettings?_eq_some_iff ..).mp read
        simp [CleanLine.arguments, written, same]
      next => cases read
    next target rest _ =>
      obtain ⟨rfl, unwritten, rfl⟩ := (readSettings?_eq_some_iff ..).mp read
      simp [CleanLine.arguments, unwritten]
    next => cases read
  · rintro rfl
    have settled := (readSettings?_eq_some_iff line.target line.inPlace line.settings line).mpr
      ⟨rfl, rfl, rfl⟩
    unfold CleanLine.arguments
    split
    next written =>
      rw [written] at settled
      simp [read?, settled]
    next unwritten =>
      -- The third argument is then the first one of the settings, which is not that of a file.
      rw [Bool.eq_false_iff.mpr unwritten] at settled
      exact settled

theorem arguments_injective : Function.Injective arguments := by
  apply Function.IsPartialInv.injective (g := read?)
  intro line arguments
  rw [read?_eq_some_iff, eq_comm]

end CleanLine

/-! ### Overviews -/

/-- What the arguments for an overview say. -/
structure OverviewLine where
  source : String
  includePrivate : Bool
  safe : Bool
  deriving DecidableEq, Repr

namespace OverviewLine

/-- The line that a source file and options call for. -/
def of (source : Path) (options : OverviewOptions) : OverviewLine where
  source := source.text
  includePrivate := options.includePrivate
  safe := options.safe

/-- The arguments that say it. -/
def arguments (line : OverviewLine) : List String :=
  "overview" :: line.source ::
    flagArguments (["--include-private", "--safe"].zip [line.includePrivate, line.safe])

/-- Reads arguments by their places. -/
def read? : List String → Option OverviewLine
  | "overview" :: source :: flags =>
    match readFlags? ["--include-private", "--safe"] flags with
    | some [includePrivate, safe] => some ⟨source, includePrivate, safe⟩
    | _ => none
  | _ => none

theorem read?_eq_some_iff (arguments : List String) (line : OverviewLine) :
    read? arguments = some line ↔ arguments = line.arguments := by
  have distinct : ["--include-private", "--safe"].Nodup := by decide
  constructor
  · intro read
    unfold read? at read
    split at read
    next source flags =>
      split at read
      next includePrivate safe flagged =>
        obtain rfl := Option.some.inj read
        obtain ⟨-, rfl⟩ := (readFlags?_eq_some_iff distinct ..).mp flagged
        rfl
      next => cases read
    next => cases read
  · rintro rfl
    have flagged := (readFlags?_eq_some_iff distinct _ [line.includePrivate, line.safe]).mpr
      ⟨rfl, rfl⟩
    simp only [OverviewLine.arguments, read?, flagged]

theorem arguments_injective : Function.Injective arguments := by
  apply Function.IsPartialInv.injective (g := read?)
  intro line arguments
  rw [read?_eq_some_iff, eq_comm]

end OverviewLine

/-! ### The arguments that are built -/

theorem cleanArguments_eq (target : Target) (options : CleanOptions) :
    cleanArguments target options = (CleanLine.of target options).arguments := by
  unfold cleanArguments CleanOptions.writtenFile? CleanLine.arguments
  cases inPlace : options.outputInPlace with
  | false => simp [CleanLine.of, CleanLine.settings, flagArguments, inPlace]
  | true =>
    -- A text is not a file, so nothing is written to it whatever the options say.
    cases target <;>
      simp [CleanLine.of, CleanLine.settings, flagArguments, inPlace, Target.path?,
        Target.argument]

theorem overviewArguments_eq (source : Path) (options : OverviewOptions) :
    overviewArguments source options = (OverviewLine.of source options).arguments := by
  simp [overviewArguments, OverviewLine.arguments, OverviewLine.of, flagArguments]

theorem CleanLine.arguments_ne_overview (line : CleanLine) (other : OverviewLine) :
    line.arguments ≠ other.arguments := by
  unfold CleanLine.arguments
  split <;> simp [OverviewLine.arguments]

/-! ### Main theorem -/

/-- A reader that goes by places finds in the arguments for cleaning and for overviews what they were
made from, whatever texts they hold. So two lists are the same exactly when they say the same, and no
list says both that a target is to be cleaned and that an overview is wanted. -/
theorem arguments_unambiguous :
    (∀ target options,
      CleanLine.read? (cleanArguments target options) = some (.of target options)) ∧
    (∀ (first second : Target) (options others : CleanOptions),
      cleanArguments first options = cleanArguments second others ↔
        first.argument = second.argument ∧
        (options.outputInPlace && first.path?.isSome) =
          (others.outputInPlace && second.path?.isSome) ∧
        options.indent = others.indent ∧
        options.flagPrefix = others.flagPrefix ∧
        options.excludeSelf = others.excludeSelf ∧
        options.safe = others.safe ∧
        options.useBlack = others.useBlack) ∧
    (∀ source options,
      OverviewLine.read? (overviewArguments source options) = some (.of source options)) ∧
    (∀ (first second : Path) (options others : OverviewOptions),
      overviewArguments first options = overviewArguments second others ↔
        first.text = second.text ∧
        options.includePrivate = others.includePrivate ∧
        options.safe = others.safe) ∧
    (∀ target options source others,
      cleanArguments target options ≠ overviewArguments source others) := by
  refine ⟨?_, ?_, ?_, ?_, ?_⟩
  · intro target options
    rw [CleanLine.read?_eq_some_iff, cleanArguments_eq]
  · intro first second options others
    rw [cleanArguments_eq, cleanArguments_eq, CleanLine.arguments_injective.eq_iff]
    simp only [CleanLine.of, CleanLine.mk.injEq]
  · intro source options
    rw [OverviewLine.read?_eq_some_iff, overviewArguments_eq]
  · intro first second options others
    rw [overviewArguments_eq, overviewArguments_eq, OverviewLine.arguments_injective.eq_iff]
    simp only [OverviewLine.of, OverviewLine.mk.injEq]
  · intro target options source others
    rw [cleanArguments_eq, overviewArguments_eq]
    exact CleanLine.arguments_ne_overview _ _

/-- A source text and a flag marker that look like options. -/
example :
    CleanLine.read?
        (cleanArguments (.inline "--output") { flagPrefix := "--safe", useBlack := true }) =
      some ⟨"--output", false, 4, "--safe", false, false, true⟩ := by
  decide +kernel

end EditorBridge
