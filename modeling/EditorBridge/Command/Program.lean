import EditorBridge.Document
import EditorBridge.Outcome
import EditorBridge.Tool.Call
import EditorBridge.Tool.Options

/-!
# Commands as programs

A command works on the documents of a workspace. It is a program of requests to its surroundings:
the editor that shows the documents and the system that runs processes. A program says what it asks
for and how it goes on with each answer; a host answers. Running a program under a host leaves a trace
of all requests with their answers.
-/

namespace EditorBridge

/-- What a command works on. The module name of the tool was read when the bridge was started and
does not follow later changes of the configuration. -/
structure Workspace where
  tool : String
  config : Config
  /-- The visible documents; the first one is active. -/
  documents : List Document

/-- The workspace at the start of the bridge. -/
def Workspace.start (config : Config) (documents : List Document) : Workspace :=
  ⟨config.toolModule, config, documents⟩

/-- What a command can ask for. -/
inductive Request where
  /-- Writes the buffer to its file. -/
  | save (document : Document)
  /-- Runs a process to its end. -/
  | run (call : Call)
  /-- Replaces the whole content of the buffer. -/
  | replace (document : Document) (content : String)
  | notify (notification : Notification)
  /-- Puts a yes-or-no question to the user. -/
  | confirm (question : String)
  | registerCommand (id : String)
  | registerScheme (scheme : String)
  deriving DecidableEq, Repr

/-- What an answer to a request is. A process that cannot be started answers with the reason. -/
def Request.Answer : Request → Type
  | .save _ | .replace .. => Except Error Unit
  | .run _ => Except String Output
  | .confirm _ => Except Error Bool
  | .notify _ | .registerCommand _ | .registerScheme _ => Unit

/-- A program that ends in a value. -/
inductive Program (α : Type) : Type where
  | done (value : α)
  | ask (request : Request) (next : request.Answer → Program α)

namespace Program

/-- Goes on with the value of a program. -/
def bind {α β : Type} (program : Program α) (next : α → Program β) : Program β :=
  match program with
  | .done value => next value
  | .ask request rest => .ask request fun answer => (rest answer).bind next

instance : Monad Program where
  pure := .done
  bind := bind

/-- Asks for one thing. -/
def request (request : Request) : Program request.Answer := .ask request .done

/-- Runs a module of the interpreter. -/
def invoke (invocation : Invocation) : Program (Except ToolFailure String) :=
  .ask (.run invocation.call) fun answer => .done (invocation.result answer)

/-- Tells the user about an outcome and ends in it. -/
def report (outcome : Outcome) : Program Outcome :=
  match outcome.notification? with
  | none => .done outcome
  | some notification => .ask (.notify notification) fun _ => .done outcome

end Program

/-- A request with its answer. The answer is missing when asking ended the program. -/
structure Event where
  request : Request
  answer : Option request.Answer

/-- Answers requests, and changes with them. A request without an answer ends the program. -/
structure Host (σ : Type) where
  answer : (request : Request) → σ → Option request.Answer × σ

/-- What running a program leaves: its value unless it was ended, the host, and the trace. -/
structure Run (σ α : Type) where
  value : Option α
  state : σ
  trace : List Event

/-- Runs a program to its end. -/
def Program.run {σ α : Type} (host : Host σ) : Program α → σ → Run σ α
  | .done value, state => ⟨some value, state, []⟩
  | .ask request next, state =>
    match host.answer request state with
    | (none, state) => ⟨none, state, [⟨request, none⟩]⟩
    | (some answer, state) =>
      let rest := (next answer).run host state
      { rest with trace := ⟨request, some answer⟩ :: rest.trace }

/-! ### Reading a trace -/

/-- The content that a buffer was given. -/
structure Replacement where
  path : Option Path
  content : String
  deriving DecidableEq, Repr

/-- What was made known to the editor. -/
inductive Registration where
  | command (id : String)
  | scheme (scheme : String)
  deriving DecidableEq, Repr

namespace Event

/-- The process that was asked for. -/
def call? : Event → Option Call
  | ⟨.run call, _⟩ => some call
  | _ => none

/-- The document whose saving was asked for. -/
def saved? : Event → Option Document
  | ⟨.save document, _⟩ => some document
  | _ => none

/-- The replacement that took effect. -/
def replacement? : Event → Option Replacement
  | ⟨.replace document content, some (.ok _)⟩ => some ⟨document.path, content⟩
  | _ => none

/-- The notification. -/
def notification? : Event → Option Notification
  | ⟨.notify notification, _⟩ => some notification
  | _ => none

/-- The question. -/
def question? : Event → Option String
  | ⟨.confirm question, _⟩ => some question
  | _ => none

/-- The registration. -/
def registration? : Event → Option Registration
  | ⟨.registerCommand id, _⟩ => some (.command id)
  | ⟨.registerScheme scheme, _⟩ => some (.scheme scheme)
  | _ => none

end Event

end EditorBridge
