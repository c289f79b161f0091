import EditorBridge.Proofs.Command.Spawning
import EditorBridge.Proofs.Settings.Validity
import EditorBridge.Proofs.Tool.Lookup

/-!
# From a settings file to the command line

Settings reach the tool by way of the configuration, which answers each key with a loosely typed
value, and of the options, which read these values again and replace the ones that do not fit. For
settings that were accepted nothing is lost on the way: the command lines are written down here from
the fields of the settings alone.

## Main statements

`Settings.commandLines_of_parse`: settings that a text says and that name an interpreter decide the
calls of formatting and of overviews.
-/

namespace EditorBridge

namespace Settings

/-! ### The command lines -/

/-- The columns that a width stands for. -/
def columns (width : Binary64) : Nat := max 1 (min width.floor 4294967295)

/-- The columns that the tool is told to indent by: those of the settings, else those of the tab
size of the document, else four. -/
def indentColumns (settings : Settings) (document : Document) : Nat :=
  match settings.indentWidth, document.tabSize with
  | some width, _ => columns width
  | none, some width => columns width
  | none, none => 4

/-- What the tool cleans, and the file that it writes, if it is to write one. -/
def targetArguments (settings : Settings) (document : Document) : List String :=
  match document.path with
  | none => [document.text]
  | some path => if settings.outputInPlace then [path.text, "--output", path.text] else [path.text]

/-- The arguments of the interpreter for cleaning a document. -/
def cleanLine (settings : Settings) (document : Document) : List String :=
  ["-m", Text.trimString settings.toolModule, "clean"] ++ settings.targetArguments document ++
    ["--indent", Decimal.natText (settings.indentColumns document),
      "--flag-prefix", settings.flagPrefix] ++
    (if settings.excludeSelf then ["--noself"] else []) ++
    (if settings.safeMode then ["--safe"] else []) ++
    (if settings.useBlack then ["--use-black"] else [])

/-- The arguments of the interpreter for the overview of a source file. -/
def overviewLine (settings : Settings) (source : Path) : List String :=
  ["-m", Text.trimString settings.toolModule, "overview", source.text] ++
    (if settings.includePrivate then ["--include-private"] else []) ++
    (if settings.safeMode then ["--safe"] else [])

/-! ### Settings as configuration -/

variable {settings : Settings}

/-- The module name of valid settings is read as it is, without the blanks around it. -/
theorem Valid.trimmedTool (valid : settings.Valid) :
    settings.value.trimmedText? .toolModule = some (Text.trimString settings.toolModule) := by
  refine (Config.trimmedText?_eq_some_iff ..).mpr ⟨settings.toolModule, rfl, rfl, ?_⟩
  rw [ne_eq, Text.trimString_eq_empty_iff, valid.tool]
  exact Bool.false_ne_true

/-- The flag marker of valid settings is read as it is. -/
theorem Valid.flagPrefix_kept (valid : settings.Valid) :
    ((settings.value .flagPrefix).bind ConfigValue.asText?).filter (!·.isEmpty) =
      some settings.flagPrefix := by
  have marked : settings.flagPrefix.isEmpty = false := by simpa using valid.flagPrefix
  simp [value, ConfigValue.asText?, marked]

theorem Valid.toolModule (valid : settings.Valid) :
    settings.value.toolModule = Text.trimString settings.toolModule := by
  rw [Config.toolModule, valid.trimmedTool]
  rfl

theorem indent_cleanOptions (settings : Settings) (document : Document) :
    (settings.value.cleanOptions document).indent = settings.indentColumns document := by
  have width : (settings.value.cleanOptions document).indentWidth =
      (settings.indentWidth.or document.tabSize).getD ({} : CleanOptions).indentWidth := by
    simp only [Config.cleanOptions, value]
    cases settings.indentWidth <;> rfl
  rw [CleanOptions.indent, width, indentColumns]
  cases settings.indentWidth with
  | some width => rfl
  | none =>
    cases document.tabSize with
    | some width => rfl
    | none => decide +kernel

theorem targetArguments_eq (settings : Settings) (document : Document) :
    settings.targetArguments document =
      (Target.ofDocument document).argument ::
        match (settings.value.cleanOptions document).writtenFile? (.ofDocument document) with
        | some path => ["--output", path.text]
        | none => [] := by
  have inPlace :
      (settings.value.cleanOptions document).outputInPlace = settings.outputInPlace := rfl
  rw [CleanOptions.writtenFile?, inPlace]
  cases titled : document.path with
  | none => simp [targetArguments, Target.ofDocument, titled, Target.argument, Target.path?]
  | some path =>
    by_cases writes : settings.outputInPlace = true
    · simp [targetArguments, Target.ofDocument, titled, Target.argument, Target.path?, writes]
    · simp [targetArguments, Target.ofDocument, titled, Target.argument, writes]

theorem Valid.arguments_clean (valid : settings.Valid) (document : Document) :
    (Command.Purpose.clean document).arguments settings.value.toolModule settings.value =
      settings.cleanLine document := by
  have marker : (settings.value.cleanOptions document).flagPrefix = settings.flagPrefix := by
    simp only [Config.cleanOptions, valid.flagPrefix_kept, Option.getD_some]
  simp only [Command.Purpose.arguments, cleanArguments, cleanLine, valid.toolModule, marker,
    indent_cleanOptions, targetArguments_eq]
  rfl

theorem Valid.arguments_overview (valid : settings.Valid) (source : Path) :
    (Command.Purpose.overview source).arguments settings.value.toolModule settings.value =
      settings.overviewLine source := by
  rw [Command.Purpose.arguments, valid.toolModule]
  rfl

/-- A document is cleaned with the arguments that the settings say. -/
theorem Valid.call_clean (valid : settings.Valid) (interpreter : Path) (documents : List Document)
    (document : Document) :
    (Command.Purpose.clean document).call (.start settings.value documents) interpreter =
      ⟨interpreter, settings.cleanLine document, document.workingDirectory?⟩ := by
  rw [Command.Purpose.call, Workspace.start, valid.arguments_clean]
  rfl

/-- An overview is rendered with the arguments that the settings say. -/
theorem Valid.call_overview (valid : settings.Valid) (interpreter : Path)
    (documents : List Document) (source : Path) :
    (Command.Purpose.overview source).call (.start settings.value documents) interpreter =
      ⟨interpreter, settings.overviewLine source, source.directory?⟩ := by
  rw [Command.Purpose.call, Workspace.start, valid.arguments_overview]
  rfl

/-- The interpreter of settings that name one. -/
theorem interpreter?_value {path : String} (named : settings.interpreterPath = some path)
    (visible : Text.isAllBlank path.toList = false) :
    settings.value.interpreter? = some ⟨Text.trimString path⟩ := by
  refine (Config.interpreter?_eq_some_iff ..).mpr ⟨path, ?_, rfl, ?_⟩
  · rw [value, named]
    rfl
  · rw [ne_eq, Text.trimString_eq_empty_iff, visible]
    exact Bool.false_ne_true

end Settings

/-! ### What the commands read -/

namespace Command

variable {first second : Workspace}

/-- Cleaning reads the module name, the interpreter and the options for cleaning, and nothing
else. -/
theorem formatDocument_congr {document : Document} (tool : first.tool = second.tool)
    (interpreter : first.config.interpreter? = second.config.interpreter?)
    (options : first.config.cleanOptions document = second.config.cleanOptions document)
    (save : Bool) : formatDocument first document save = formatDocument second document save := by
  have cleans : ∀ interpreter, cleaning first interpreter document =
      cleaning second interpreter document := fun _ => by rw [cleaning, cleaning, tool, options]
  have writes : writesFile first document = writesFile second document := by
    rw [writesFile, writesFile, options]
  have applies : ∀ output, applyOutput first document output = applyOutput second document output :=
    fun _ => by rw [applyOutput, applyOutput, writes]
  unfold formatDocument clean
  rw [interpreter]
  simp only [cleans, applies]

/-- An overview reads the module name, the interpreter and the options for overviews, and nothing
else. -/
theorem render_congr (tool : first.tool = second.tool)
    (interpreter : first.config.interpreter? = second.config.interpreter?)
    (options : first.config.overviewOptions = second.config.overviewOptions) (source : Path) :
    render first source = render second source := by
  simp only [render, rendering, tool, interpreter, options]

end Command

/-! ### Main theorem -/

/-- The settings decide the calls of formatting and of overviews, in whatever surroundings. -/
structure Settings.CommandLines (settings : Settings) (interpreter : Path) : Prop where
  /-- The active document is cleaned by this one call, unless saving it was not confirmed. -/
  formats : ∀ (σ : Type) (host : Host σ) (state : σ) (document : Document)
      (others : List Document),
    let trace :=
      ((Command.format (.start settings.value (document :: others))).run host state).trace
    trace.filterMap Event.call? =
        [⟨interpreter, settings.cleanLine document, document.workingDirectory?⟩] ∨
      trace.filterMap Event.call? = [] ∧
        ∃ answer, (⟨.save document, answer⟩ : Event) ∈ trace ∧ answer ≠ some (.ok ())
  renders : ∀ (σ : Type) (host : Host σ) (state : σ) (documents : List Document) (source : Path),
    ((Command.render (.start settings.value documents) source).run host
        state).trace.filterMap Event.call? =
      [⟨interpreter, settings.overviewLine source, source.directory?⟩]
  opens : ∀ (σ : Type) (host : Host σ) (state : σ) (documents : List Document) (target : String),
    ((Command.openOverview (.start settings.value documents) target).run host
        state).trace.filterMap Event.call? =
      [⟨interpreter, settings.overviewLine (Command.overviewSource target),
        (Command.overviewSource target).directory?⟩]
  /-- The module name is not replaced by the default. -/
  tool : settings.value.trimmedText? .toolModule = some (Text.trimString settings.toolModule)
  /-- The flag marker is not replaced by the default. -/
  marker : ((settings.value .flagPrefix).bind ConfigValue.asText?).filter (!·.isEmpty) =
    some settings.flagPrefix
  /-- What only cleaning asks for, and the hook on saving, change no overview. -/
  cleaningOnly : ∀ (documents : List Document) (source : Path)
      (excludeSelf useBlack outputInPlace formatOnSave : Bool),
    let changed : Settings :=
      { settings with
        excludeSelf := excludeSelf
        useBlack := useBlack
        outputInPlace := outputInPlace
        formatOnSave := formatOnSave }
    Command.render (.start changed.value documents) source =
      Command.render (.start settings.value documents) source
  /-- What only overviews ask for, and the hook on saving, change no cleaning. -/
  overviewsOnly : ∀ (documents : List Document) (document : Document) (save : Bool)
      (includePrivate formatOnSave : Bool),
    let changed : Settings :=
      { settings with includePrivate := includePrivate, formatOnSave := formatOnSave }
    Command.formatDocument (.start changed.value documents) document save =
      Command.formatDocument (.start settings.value documents) document save

/-- A settings text that is accepted and names an interpreter decides the command lines. -/
theorem Settings.commandLines_of_parse {text : String} {settings : Settings} {path : String}
    (accepted : parse text = .ok settings) (named : settings.interpreterPath = some path)
    (visible : Text.isAllBlank path.toList = false) :
    settings.CommandLines ⟨Text.trimString path⟩ := by
  have valid := valid_of_parse accepted
  have resolved := interpreter?_value named visible
  exact
    { formats := by
        intro σ host state document others
        rw [← valid.call_clean _ (document :: others)]
        exact Command.goes_formatDocument_calls resolved (Program.run_goes ..)
      renders := by
        intro σ host state documents source
        rw [← valid.call_overview _ documents]
        exact Command.goes_render_calls resolved (Program.run_goes ..)
      opens := by
        intro σ host state documents target
        rw [← valid.call_overview _ documents]
        exact Command.goes_openOverview_calls resolved (Program.run_goes ..)
      tool := valid.trimmedTool
      marker := valid.flagPrefix_kept
      cleaningOnly := fun _ source _ _ _ _ => Command.render_congr rfl rfl rfl source
      overviewsOnly := fun _ _ save _ _ => Command.formatDocument_congr rfl rfl rfl save }

/-- A text with blanks around the interpreter and the module name, and a tool that writes files. -/
theorem Settings.commandLines_of_parse_written :
    let text :=
      "[docstrings]\ntool = \" zero\"\noutput_in_place = true\n" ++
        "[python]\ninterpreter_path = \" py \"\n"
    let settings : Settings :=
      { interpreterPath := some " py ", toolModule := " zero", outputInPlace := true }
    parse text = .ok settings ∧ settings.CommandLines ⟨"py"⟩ ∧
      settings.cleanLine ⟨some ⟨"a.py"⟩, "x", "python", none⟩ =
        ["-m", "zero", "clean", "a.py", "--output", "a.py", "--indent", "4",
          "--flag-prefix", "!"] := by
  intro text settings
  have accepted : parse text = .ok settings := by decide +kernel
  have trimmed : Text.trimString " py " = "py" := by decide +kernel
  refine ⟨accepted, ?_, by decide +kernel⟩
  rw [← trimmed]
  exact commandLines_of_parse accepted rfl (by decide +kernel)

end EditorBridge
