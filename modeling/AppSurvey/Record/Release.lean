import AppSurvey.Record.Basic
import AppSurvey.Release.Shell

/-!
# Records of commands
-/

namespace AppSurvey.Release

instance : OfValue Outcome where
  ofValue value :=
    { code := value.given "code" (.ofInt 0), out := value.given "out" (.string ""),
      err := value.given "err" (.string "") }

/-- A command with the variables that differ for it from those that are set anyway. -/
def Command.record (command : Command) (set : Value) : Value :=
  let added := command.env.filter fun (name, value) => !(set.fields.lookup name.key).any value.same
  .list [command.line, command.check, Value.ofFiled added, toValue command.shell]

/-- The commands among questions. -/
def Question.commands (questions : List Question) : List Command :=
  questions.filterMap fun
    | .run command => some command
    | .prompt _ => none

/-- A partner that answers the questions one after the other from prepared outcomes and texts. A
missing outcome is a success without output, a missing text is empty. -/
def partnerOf (outcomes : List Outcome) (typed : List (Option Value)) : Partner Question :=
  fun before question =>
    let runs := (Question.commands before).length
    match question with
    | .run _ => (outcomes[runs]?.getD {} : Outcome)
    | .prompt _ => (typed[before.length - runs]?.getD (some (.string "")) : Option Value)

end AppSurvey.Release
