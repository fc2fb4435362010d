import AppSurvey.Record.Basic
import AppSurvey.Talk

/-!
# Records of work in steps

Work is done step by step, each step from where the one before it ended. A step that talks to a partner
is recorded by its outcome and the questions that it asked.
-/

namespace AppSurvey

/-- The records of steps, each from the state that the one before it left. -/
def recordSteps {σ α : Type} (step : σ → α → σ × Value) : σ → List α → List Value
  | _, [] => []
  | state, work :: rest =>
      let (next, record) := step state work
      record :: recordSteps step next rest

/-- Records in the order of their texts. -/
def Value.inTextOrder (records : List Value) : List Value :=
  records.mergeSort fun a b => decide (Json.render .spaced a ≤ Json.render .spaced b)

/-- The questions of a session since an earlier moment of it, in the order in which they were asked. -/
def Session.askedSince {Q σ : Type} (later earlier : Session Q σ) : List Q :=
  (later.asked.take (later.asked.length - earlier.asked.length)).reverse

/-- How questions and failures are recorded. -/
structure Recorder (Q ε : Type) where
  question : Q → Value
  failure : ε → List (String × Value)

namespace Recorder

variable {Q σ ε α : Type} [Asking Q] (recorder : Recorder Q ε)

/-- Does a piece of work and records its outcome with the questions that it asked. The questions may be
put in order, for work whose parts have none. -/
def record (partner : Partner Q) (work : Talk Q σ ε Value) (session : Session Q σ)
    (unordered : Bool := false) : Session Q σ × Value :=
  let (outcome, next) := work.perform partner session
  let asked := (next.askedSince session).map recorder.question
  let ending := match outcome with
    | .ok value => [("result", value)]
    | .error failure => recorder.failure failure
  let calls := if unordered then Value.inTextOrder asked else asked
  (next, .record (ending ++ [("calls", .list calls)]))

/-- Makes something and works with it step by step. Only the making is recorded where it fails. `more` is
what else is told of a step, from the sessions before and after it. -/
def recordMaking {β : Type} (partner : Partner Q) (make : Talk Q σ ε α)
    (describe : α → Talk Q σ ε Value) (work : α → β → Talk Q σ ε Value)
    (more : β → Session Q σ → Session Q σ → List (String × Value)) (session : Session Q σ)
    (steps : List β) : List Value :=
  let (outcome, made) := make.perform partner session
  let first := (recorder.record partner (make >>= describe) session).2
  match outcome with
  | .error _ => [first]
  | .ok it =>
      first :: recordSteps (fun session step =>
        let (next, record) := recorder.record partner (work it step) session
        (next, record.put (more step session next))) made steps

end Recorder

end AppSurvey
