import EditorBridge.Command.Program

/-!
# The ways of a program

A program can go in many ways, one for every combination of answers. A way is the trace of its
requests with their answers, and the value it ends in, which is missing when the last request had
no answer. Which ways there are says nothing about a host; a run under any host goes one of them.

## Main statements

`Program.run_goes`: every run goes one of the ways of its program.

`Program.goes_bind`: the ways of a sequence are those of its parts, one behind the other.

`Program.always_bind`: what holds of every event of the parts holds of every event of the sequence.
-/

namespace EditorBridge

namespace Program

variable {α β : Type}

/-- The first requests of a program were answered by the events, and the rest of the program is
left. Nothing is left when the last request had no answer. -/
inductive After : Program α → List Event → Option (Program α) → Prop
  | start (program : Program α) : After program [] (some program)
  | answered {request : Request} {next : request.Answer → Program α} {answer : request.Answer}
      {events : List Event} {rest : Option (Program α)} :
      After (next answer) events rest →
      After (.ask request next) (⟨request, some answer⟩ :: events) rest
  | ended (request : Request) (next : request.Answer → Program α) :
      After (.ask request next) [⟨request, none⟩] none

/-- A way to the end of a program. -/
def Goes (program : Program α) (trace : List Event) (value : Option α) : Prop :=
  program.After trace (value.map .done)

/-! ### One request more -/

/-- What is left makes its next request, and the answer decides what is left then. -/
theorem After.next {program : Program α} {events : List Event} {request : Request}
    {next : request.Answer → Program α} (before : program.After events (some (.ask request next)))
    (answer : Option request.Answer) :
    program.After (events ++ [⟨request, answer⟩]) (answer.map next) := by
  -- By induction on the requests so far; the new one goes behind the last of them.
  generalize left : some (Program.ask request next) = rest at before
  induction before with
  | start program =>
    obtain rfl := Option.some.inj left
    cases answer with
    | none => exact .ended request next
    | some answer => exact .answered (.start (next answer))
  | answered _ ih => exact .answered (ih left)
  | ended => cases left

/-! ### Ways of the parts of a program -/

theorem goes_done (value : α) (trace : List Event) (ending : Option α) :
    (Program.done value).Goes trace ending ↔ trace = [] ∧ ending = some value := by
  constructor
  · intro goes
    cases ending with
    | none => cases goes
    | some ending =>
      cases goes
      exact ⟨rfl, rfl⟩
  · rintro ⟨rfl, rfl⟩
    exact .start (.done value)

theorem goes_ask (request : Request) (next : request.Answer → Program α) (trace : List Event)
    (ending : Option α) :
    (Program.ask request next).Goes trace ending ↔
      (∃ answer rest, trace = ⟨request, some answer⟩ :: rest ∧ (next answer).Goes rest ending) ∨
      (trace = [⟨request, none⟩] ∧ ending = none) := by
  constructor
  · intro goes
    cases ending with
    | none =>
      cases goes with
      | answered rest => exact .inl ⟨_, _, rfl, rest⟩
      | ended => exact .inr ⟨rfl, rfl⟩
    | some ending =>
      cases goes with
      | answered rest => exact .inl ⟨_, _, rfl, rest⟩
  · rintro (⟨answer, rest, rfl, goes⟩ | ⟨rfl, rfl⟩)
    · exact .answered goes
    · exact .ended request next

/-- A sequence ends where its first part ends, or goes on with the value of that part. -/
theorem goes_bind (first : Program α) (next : α → Program β) (trace : List Event)
    (ending : Option β) :
    (first.bind next).Goes trace ending ↔
      (first.Goes trace none ∧ ending = none) ∨
      ∃ value front back, trace = front ++ back ∧ first.Goes front (some value) ∧
        (next value).Goes back ending := by
  -- By induction on the first part. One of its answers goes in front of the whole way, and a
  -- missing one is the end of it.
  induction first generalizing trace with
  | done value =>
    simp only [bind, goes_done, reduceCtorEq, and_false, false_and, false_or]
    constructor
    · intro goes
      exact ⟨value, [], trace, rfl, ⟨rfl, rfl⟩, goes⟩
    · rintro ⟨_, _, back, rfl, ⟨rfl, same⟩, goes⟩
      cases same
      exact goes
  | ask request rest ih =>
    simp only [bind, goes_ask, ih]
    constructor
    · rintro (⟨answer, tail, rfl, ⟨goes, rfl⟩ | ⟨value, front, back, rfl, goes, later⟩⟩ |
        ⟨rfl, rfl⟩)
      · exact .inl ⟨.inl ⟨answer, tail, rfl, goes⟩, rfl⟩
      · exact .inr ⟨value, ⟨request, some answer⟩ :: front, back, rfl,
          .inl ⟨answer, front, rfl, goes⟩, later⟩
      · exact .inl ⟨.inr ⟨rfl, trivial⟩, rfl⟩
    · rintro (⟨⟨answer, tail, rfl, goes⟩ | ⟨rfl, -⟩, rfl⟩ |
        ⟨value, _, back, rfl, ⟨answer, tail, rfl, goes⟩ | ⟨_, missing⟩, later⟩)
      · exact .inl ⟨answer, tail, rfl, .inl ⟨goes, rfl⟩⟩
      · exact .inr ⟨rfl, rfl⟩
      · exact .inl ⟨answer, tail ++ back, rfl, .inr ⟨value, tail, back, rfl, goes, later⟩⟩
      · cases missing

/-- A single request has its answer for a value. -/
theorem goes_request (asked : Request) (trace : List Event) (ending : Option asked.Answer) :
    (request asked).Goes trace ending ↔ trace = [⟨asked, ending⟩] := by
  simp only [request, goes_ask, goes_done]
  cases ending with
  | none => simp
  | some ending =>
    simp only [Option.some.injEq, reduceCtorEq, and_false, or_false]
    constructor
    · rintro ⟨answer, _, rfl, rfl, rfl⟩
      rfl
    · rintro rfl
      exact ⟨ending, [], rfl, rfl, rfl⟩

theorem goes_invoke (invocation : Invocation) (trace : List Event)
    (ending : Option (Except ToolFailure String)) :
    (invoke invocation).Goes trace ending ↔
      ∃ answer, trace = [⟨.run invocation.call, answer⟩] ∧
        ending = answer.map invocation.result := by
  simp only [invoke, goes_ask, goes_done]
  constructor
  · rintro (⟨answer, _, rfl, rfl, rfl⟩ | ⟨rfl, rfl⟩)
    · exact ⟨some answer, rfl, rfl⟩
    · exact ⟨none, rfl, rfl⟩
  · rintro ⟨_ | answer, rfl, rfl⟩
    · exact .inr ⟨rfl, rfl⟩
    · exact .inl ⟨answer, [], rfl, rfl, rfl⟩

/-- A sequence that begins with a request goes on with its answer. -/
theorem goes_request_bind (asked : Request) (next : asked.Answer → Program β) (trace : List Event)
    (ending : Option β) :
    ((request asked).bind next).Goes trace ending ↔
      (∃ answer rest, trace = ⟨asked, some answer⟩ :: rest ∧ (next answer).Goes rest ending) ∨
      (trace = [⟨asked, none⟩] ∧ ending = none) :=
  goes_ask ..

/-- A sequence that begins with a run of the interpreter goes on with the result of that run. -/
theorem goes_invoke_bind (invocation : Invocation)
    (next : Except ToolFailure String → Program β) (trace : List Event) (ending : Option β) :
    ((invoke invocation).bind next).Goes trace ending ↔
      (∃ answer rest, trace = ⟨.run invocation.call, some answer⟩ :: rest ∧
        (next (invocation.result answer)).Goes rest ending) ∨
      (trace = [⟨.run invocation.call, none⟩] ∧ ending = none) :=
  goes_ask ..

theorem goes_report (outcome : Outcome) (trace : List Event) (ending : Option Outcome) :
    (report outcome).Goes trace ending ↔
      (outcome.notification? = none ∧ trace = [] ∧ ending = some outcome) ∨
      ∃ notification answer, outcome.notification? = some notification ∧
        trace = [⟨.notify notification, answer⟩] ∧ ending = answer.map fun _ => outcome := by
  unfold report
  split
  next silent => simp [silent, goes_done]
  next notification told =>
    simp only [goes_ask, goes_done, told]
    constructor
    · rintro (⟨answer, _, rfl, rfl, rfl⟩ | ⟨rfl, rfl⟩)
      · exact .inr ⟨notification, some answer, rfl, rfl, rfl⟩
      · exact .inr ⟨notification, none, rfl, rfl, rfl⟩
    · rintro (⟨absurd, -⟩ | ⟨_, _ | answer, same, rfl, rfl⟩)
      · cases absurd
      · cases same
        exact .inr ⟨rfl, rfl⟩
      · cases same
        exact .inl ⟨answer, [], rfl, rfl, rfl⟩

/-- A request without an answer is the end. -/
theorem Goes.ended_of_unanswered {program : Program α} {trace : List Event} {ending : Option α}
    (goes : program.Goes trace ending) {request : Request}
    (member : (⟨request, none⟩ : Event) ∈ trace) : ending = none := by
  induction program generalizing trace with
  | done value =>
    obtain ⟨rfl, -⟩ := (goes_done ..).mp goes
    cases member
  | ask asked next ih =>
    rcases (goes_ask ..).mp goes with ⟨answer, rest, rfl, later⟩ | ⟨-, rfl⟩
    · rcases List.mem_cons.mp member with same | member
      · cases same
      · exact ih answer later member
    · rfl

/-- A way without a value ends in a request without an answer. -/
theorem Goes.exists_unanswered {program : Program α} {trace : List Event}
    (goes : program.Goes trace none) : ∃ request, (⟨request, none⟩ : Event) ∈ trace := by
  induction program generalizing trace with
  | done value => cases goes
  | ask asked next ih =>
    rcases (goes_ask ..).mp goes with ⟨answer, rest, rfl, later⟩ | ⟨rfl, -⟩
    · obtain ⟨request, member⟩ := ih answer later
      exact ⟨request, List.mem_cons_of_mem _ member⟩
    · exact ⟨asked, List.mem_singleton.mpr rfl⟩

/-! ### Conditions on all events -/

/-- Every event on every way meets the condition. -/
def Always (condition : Event → Prop) (program : Program α) : Prop :=
  ∀ trace ending, program.Goes trace ending → ∀ event ∈ trace, condition event

variable {condition : Event → Prop}

theorem always_done (value : α) : Always condition (.done value) := by
  intro trace ending goes event member
  obtain ⟨rfl, -⟩ := (goes_done ..).mp goes
  cases member

theorem always_bind {first : Program α} {next : α → Program β} (front : first.Always condition)
    (back : ∀ value, (next value).Always condition) : (first.bind next).Always condition := by
  intro trace ending goes event member
  rcases (goes_bind ..).mp goes with ⟨goes, -⟩ | ⟨value, before, after, rfl, goes, later⟩
  · exact front _ _ goes event member
  · rcases List.mem_append.mp member with member | member
    · exact front _ _ goes event member
    · exact back value _ _ later event member

theorem always_request {asked : Request} (holds : ∀ answer, condition ⟨asked, answer⟩) :
    (request asked).Always condition := by
  intro trace ending goes event member
  obtain rfl := (goes_request ..).mp goes
  obtain rfl := List.mem_singleton.mp member
  exact holds ending

theorem always_invoke {invocation : Invocation}
    (holds : ∀ answer, condition ⟨.run invocation.call, answer⟩) :
    (invoke invocation).Always condition := by
  intro trace ending goes event member
  obtain ⟨answer, rfl, -⟩ := (goes_invoke ..).mp goes
  obtain rfl := List.mem_singleton.mp member
  exact holds answer

theorem always_report {outcome : Outcome}
    (holds : ∀ notification answer, condition ⟨.notify notification, answer⟩) :
    (report outcome).Always condition := by
  intro trace ending goes event member
  rcases (goes_report ..).mp goes with ⟨-, rfl, -⟩ | ⟨notification, answer, -, rfl, -⟩
  · cases member
  · obtain rfl := List.mem_singleton.mp member
    exact holds notification answer

/-! ### Runs -/

/-- Every run goes one of the ways of its program. -/
theorem run_goes {σ : Type} (program : Program α) (host : Host σ) (state : σ) :
    program.Goes (program.run host state).trace (program.run host state).value := by
  induction program generalizing state with
  | done value => exact .start (.done value)
  | ask request next ih =>
    rw [goes_ask]
    simp only [run]
    split
    next state _ => exact .inr ⟨rfl, rfl⟩
    next answer state _ => exact .inl ⟨answer, _, rfl, ih answer state⟩

/-- A run of a sequence is the run of its first part and, from where that ended, of the rest. -/
theorem run_bind {σ : Type} {host : Host σ} {first : Program α} {state : σ} {value : α}
    (came : (first.run host state).value = some value) (next : α → Program β) :
    let before := first.run host state
    let after := (next value).run host before.state
    (first.bind next).run host state = ⟨after.value, after.state, before.trace ++ after.trace⟩ := by
  -- By induction on the first part, which reached its value and so was always answered.
  induction first generalizing state with
  | done other =>
    cases came
    rfl
  | ask request rest ih =>
    simp only [bind, run] at came ⊢
    rcases answered : host.answer request state with ⟨_ | answer, later⟩
    · simp [answered] at came
    · simp only [answered] at came
      simp [ih answer came]

/-- A sequence whose first part is ended is ended with it. -/
theorem run_bind_of_ended {σ : Type} {host : Host σ} {first : Program α} {state : σ}
    (ended : (first.run host state).value = none) (next : α → Program β) :
    (first.bind next).run host state =
      ⟨none, (first.run host state).state, (first.run host state).trace⟩ := by
  induction first generalizing state with
  | done other => cases ended
  | ask request rest ih =>
    simp only [bind, run] at ended ⊢
    rcases answered : host.answer request state with ⟨_ | answer, later⟩
    · rfl
    · simp only [answered] at ended
      simp [ih answer ended]

end Program

end EditorBridge
