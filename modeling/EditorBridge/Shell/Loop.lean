import EditorBridge.Shell.Act

/-!
# Loops

Going through the rounds of a loop. A part of a round can leave loops, or go on with the next round
of one of them; both count the loops from the inside.
-/

namespace EditorBridge.Shell.Act

/-- How a part of a round has ended. -/
inductive Passage where
  | through
  /-- The loop goes on with the next round. -/
  | again
  /-- The loop is at its end. -/
  | over
  deriving DecidableEq, Repr

/-- Goes through a part of a round. -/
def passage (act : Act Unit) : Act Passage :=
  catching (do
    act
    return .through) fun
    | .breaks levels => if levels ≤ 1 then return .over else throw (.breaks (levels - 1))
    | .continues levels => if levels ≤ 1 then return .again else throw (.continues (levels - 1))
    | flow => throw flow

/-- Does something inside one more loop. -/
def inLoop (act : Act Unit) : Act Unit := do
  let loops := (← frame).loops
  modifyFrame fun frame => { frame with loops := loops + 1 }
  ending act (modifyFrame fun frame => { frame with loops := loops })

/-- Does something that leaves a status behind when it leaves a loop or a function without one of its
own. -/
def leavingStatus (status : Nat) (act : Act Unit) : Act Unit :=
  catching act fun flow => do
    match flow with
    | .returns false | .breaks _ | .continues _ => setStatus status
    | _ => pure ()
    throw flow

/-- Repeats a body as long as a test succeeds, or fails when `untilDone` is on. The status is that of
the last body, zero without one. Others may go on between two rounds. -/
def repeating (untilDone : Bool) (test body : Act Unit) : Act Unit :=
  inLoop <| stepping
    (fun status => do
      await .turn
      checkAlive
      match ← passage (leavingStatus status test) with
      | .again => return .inl status
      | .over => return .inr ()
      | .through =>
        if ((← get).status == 0) == untilDone then
          setStatus status
          return .inr ()
        else match ← passage body with
          | .over => return .inr ()
          | _ => return .inl (← get).status)
    mostRounds 0

/-- Does something for one value after another. The status is zero without any. -/
def forEach (values : List Raw) (body : Raw → Act Unit) : Act Unit :=
  if values.isEmpty then setStatus 0
  else inLoop <| through (fun value => return (← passage (body value)) != .over) values

end EditorBridge.Shell.Act
