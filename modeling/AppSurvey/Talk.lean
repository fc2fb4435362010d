/-!
# Talking to a partner

Parts of the work are done by partners: a network, a reader of pages or files, a command line, a user.
A partner is a function from questions to answers, where an answer may depend on all questions asked
before. A `Talk` asks questions of a partner; what it has asked and its own state are kept also when
it fails.
-/

namespace AppSurvey

/-- Questions, each with its kind of answer. -/
class Asking (Q : Type) where
  Answer : Q → Type

/-- A partner: answers a question in the light of the questions before it, latest first. -/
def Partner (Q : Type) [Asking Q] : Type := List Q → (q : Q) → Asking.Answer q

/-- The questions asked so far, latest first, and the state of the one who asks. -/
structure Session (Q σ : Type) where
  asked : List Q := []
  state : σ

/-- A piece of work that asks a partner. -/
abbrev Talk (Q : Type) [Asking Q] (σ ε : Type) : Type → Type :=
  ReaderT (Partner Q) (ExceptT ε (StateM (Session Q σ)))

namespace Talk

variable {Q σ ε α : Type} [Asking Q]

/-- Asks a question. -/
def ask (q : Q) : Talk Q σ ε (Asking.Answer q) := do
  let session ← get
  set { session with asked := q :: session.asked }
  return (← read) session.asked q

/-- The state. -/
def state : Talk Q σ ε σ := do return (← get).state

/-- Changes the state. -/
def change (f : σ → σ) : Talk Q σ ε Unit :=
  modify fun session => { session with state := f session.state }

/-- The result of a piece of work that may fail without harm. -/
def attempt (work : Talk Q σ ε α) : Talk Q σ ε (Option α) :=
  tryCatch (some <$> work) fun _ => pure none

/-- The results of pieces of work that go on at the same time, where none is harmed when another one
fails. They end one by one: each turn says which of those that are left ends next, counted around from
the first, and without turns they end in their order. Whenever a piece ends, its result stands in its own
place. -/
def gather : (turns : List Nat) → List (Talk Q σ ε α) → Talk Q σ ε (List (Option α))
  | [], works => works.mapM attempt
  | turn :: turns, works =>
      let place := turn % works.length
      match works[place]? with
      | none => return []
      | some work => do
          let result ← attempt work
          let others ← gather turns (works.eraseIdx place)
          return others.insertIdx place result

/-- Takes an answer that may be a failure. -/
def accept {φ : Type} (failure : φ → ε) : Except φ α → Talk Q σ ε α
  | .ok a => pure a
  | .error e => throw (failure e)

/-- Does a piece of work and shows its outcome and the session after it. -/
def perform (work : Talk Q σ ε α) (partner : Partner Q) (session : Session Q σ) :
    Except ε α × Session Q σ :=
  ((work.run partner).run).run session

end Talk

end AppSurvey
