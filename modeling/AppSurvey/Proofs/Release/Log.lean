import AppSurvey.Proofs.Talk
import AppSurvey.Proofs.Value
import AppSurvey.Release.Shell

/-!
# What a script does, step by step

A scenario says how every command ends and what the user types, in the light of all that was asked
before. The log of a run lists the commands with their endings and the questions with their answers, the
first of them first. `Triple` says from which logs a script leads to which, also where it stops early, and
there is one rule for each way to put a script together. `Guarded` says of a log that some events come only
after what they depend on.
-/

namespace AppSurvey.Release

open Text

/-! ## Scenarios and logs -/

/-- How a command ended and what it printed. -/
structure Ending where
  code : Int := 0
  out : String := ""
  err : String := ""

namespace Ending

def Succeeded (ending : Ending) : Prop := ending.code = 0

/-- The ending as a script is told of it. -/
def outcome (ending : Ending) : Outcome :=
  { code := .ofInt ending.code, out := .string ending.out, err := .string ending.err }

theorem isTruthy_code (ending : Ending) :
    ending.outcome.code.isTruthy = true ↔ ¬ ending.Succeeded := by
  simp [outcome, Succeeded, Value.isTruthy_ofInt]

theorem ok_outcome (ending : Ending) : ending.outcome.ok = true ↔ ending.Succeeded := by
  simp [outcome, Outcome.ok, Succeeded, Value.ofInt_beq_ofInt]

@[simp] theorem trimmed_out (ending : Ending) :
    Script.trimmed ending.outcome.out = pure (strip ending.out) := rfl

end Ending

/-- How commands end and what the user types, who may break off instead. What was asked before is given
latest first. -/
structure Scenario where
  ending : (before : List Question) → Command → Ending
  typed : (before : List Question) → String → Option String

/-- A command with its ending, or a question with its answer. -/
inductive Event where
  | ran (line : Value) (ending : Ending)
  | answered (text : String) (answer : Option String)

/-- The command of some words ended. -/
def Event.did (words : List String) (ending : Ending) : Event := .ran (.list (words.map .string)) ending

@[simp] theorem Event.did_inj {words others : List String} {ending other : Ending} :
    Event.did words ending = .did others other ↔ words = others ∧ ending = other := by
  have hstring : Function.Injective Value.string := fun _ _ => Value.string.inj
  simp [did, hstring.list_map.eq_iff]

/-- The texts in a list of nothing else. -/
def texts? : List Value → Option (List String)
  | [] => some []
  | .string text :: rest => (texts? rest).map (text :: ·)
  | _ :: _ => none

theorem texts?_eq_some_iff {values : List Value} {texts : List String} :
    texts? values = some texts ↔ values = texts.map .string := by
  fun_induction texts? values generalizing texts with
  | case1 => simp [eq_comm]
  | case2 text rest ih =>
      cases texts with
      | nil => simp
      | cons first others => simp [ih, and_comm]
  | case3 value rest hvalue =>
      cases texts with
      | nil => simp
      | cons first others => simpa using fun hfirst => absurd hfirst (hvalue first)

/-- The words of a command. -/
def Event.words? : Event → Option (List String)
  | .ran (.list values) _ => texts? values
  | _ => none

theorem Event.words?_eq_some_iff {event : Event} {words : List String} :
    event.words? = some words ↔ ∃ ending, event = .did words ending := by
  unfold words?
  split
  next values ending => simp [did, texts?_eq_some_iff]
  next hother =>
    simp only [did, reduceCtorEq, false_iff, not_exists]
    intro ending hevent
    exact hother _ _ hevent

@[simp] theorem Event.did_ne_answered {words : List String} {ending : Ending} {text : String}
    {answer : Option String} : Event.did words ending ≠ .answered text answer := nofun

namespace Scenario

variable (scenario : Scenario)

/-- The partner that answers as the scenario says. -/
def partner : Partner Question := fun before question =>
  match question with
  | .run command => (scenario.ending before command).outcome
  | .prompt text => (scenario.typed before text).map .string

/-- What a question comes to. -/
def event (before : List Question) : Question → Event
  | .run command => .ran command.line (scenario.ending before command)
  | .prompt text => .answered text (scenario.typed before text)

/-- The log of some questions, which are given latest first. -/
def log : List Question → List Event
  | [] => []
  | question :: before => log before ++ [scenario.event before question]

/-- A command ends as the scenario says. -/
theorem exists_of_did_mem_log {scenario : Scenario} {asked : List Question} {words : List String}
    {ending : Ending} (hmem : .did words ending ∈ scenario.log asked) :
    ∃ before command, command.line = .list (words.map .string) ∧
      ending = scenario.ending before command := by
  induction asked with
  | nil => simp [log] at hmem
  | cons question before ih =>
      rcases List.mem_append.mp hmem with hmem | hmem
      · exact ih hmem
      · cases question with
        | run command =>
            obtain ⟨hline, hending⟩ := Event.ran.inj (List.mem_singleton.mp hmem)
            exact ⟨before, command, hline.symm, hending⟩
        | prompt text => exact absurd (List.mem_singleton.mp hmem) Event.did_ne_answered

/-- The log of a whole run. -/
def logOf {α : Type} (work : Script α) (console : Console) : List Event :=
  scenario.log (work.perform scenario.partner { state := console }).2.asked

end Scenario

/-! ## Logs that a script leads to -/

/-- The outcome of a script and the log after it are as they should be: when it returns something, when a
command that is checked fails, and when it stops for another reason. -/
def Meets {α : Type} (done : α → List Event → Prop) (failed stopped : List Event → Prop) :
    Except Stop α → List Event → Prop
  | .ok a, log => done a log
  | .error (.failed _), log => failed log
  | .error _, log => stopped log

/-- What holds in any case holds of the log. -/
theorem Meets.always {α : Type} {always : List Event → Prop} {result : Except Stop α} {log : List Event}
    (hmeets : Meets (fun _ => always) always always result log) : always log := by
  rcases result with stop | a
  · cases stop <;> exact hmeets
  · exact hmeets

/-- From every log that is as required, the script leads to one that is as it should be. -/
structure Triple {α : Type} (scenario : Scenario) (required : List Event → Prop) (work : Script α)
    (done : α → List Event → Prop) (failed stopped : List Event → Prop) : Prop where
  meets (session : Session Question Console) (hrequired : required (scenario.log session.asked)) :
    Meets done failed stopped (work.perform scenario.partner session).1
      (scenario.log (work.perform scenario.partner session).2.asked)

namespace Triple

variable {α β : Type} {scenario : Scenario} {required failed stopped : List Event → Prop}
  {done : α → List Event → Prop}

/-- A whole run begins with an empty log. -/
theorem logOf {work : Script α} {always : List Event → Prop}
    (hwork : Triple scenario required work (fun _ => always) always always) (hrequired : required [])
    (console : Console) : always (scenario.logOf work console) :=
  (hwork.meets { state := console } hrequired).always

/-- Work may start from fewer logs. -/
theorem of_imp {work : Script α} {fewer : List Event → Prop}
    (hwork : Triple scenario required work done failed stopped)
    (hfewer : ∀ log, fewer log → required log) :
    Triple scenario fewer work done failed stopped :=
  ⟨fun session hrequired => hwork.meets session (hfewer _ hrequired)⟩

theorem pure {a : α} (hdone : ∀ log, required log → done a log) :
    Triple scenario required (Pure.pure a) done failed stopped :=
  ⟨fun _ hrequired => hdone _ hrequired⟩

theorem exit {code : Nat} (hstopped : ∀ log, required log → stopped log) :
    Triple scenario required (Script.exit code) done failed stopped :=
  ⟨fun _ hrequired => hstopped _ hrequired⟩

theorem exit_bind {code : Nat} {next : β → Script α} (hstopped : ∀ log, required log → stopped log) :
    Triple scenario required (Script.exit code >>= next) done failed stopped :=
  ⟨fun _ hrequired => hstopped _ hrequired⟩

theorem bind {work : Script β} {next : β → Script α} {between : β → List Event → Prop}
    (hwork : Triple scenario required work between failed stopped)
    (hnext : ∀ b, Triple scenario (between b) (next b) done failed stopped) :
    Triple scenario required (work >>= next) done failed stopped := by
  constructor
  intro session hrequired
  have hmeets := hwork.meets session hrequired
  rw [Talk.perform_bind]
  rcases hperform : work.perform scenario.partner session with ⟨stop | b, later⟩ <;>
    rw [hperform] at hmeets
  · cases stop <;> exact hmeets
  · exact (hnext b).meets later hmeets

/-- What is known of a log beforehand. -/
theorem of_exists {ι : Type} {known : ι → Prop} {given : ι → List Event → Prop} {work : Script α}
    (hwork : ∀ x, known x → Triple scenario (given x) work done failed stopped) :
    Triple scenario (fun log => ∃ x, known x ∧ given x log) work done failed stopped := by
  constructor
  rintro session ⟨x, hknown, hgiven⟩
  exact (hwork x hknown).meets session hgiven

/-- What is printed is not in the log. -/
theorem say {line : String} {done : Unit → List Event → Prop}
    (hdone : ∀ log, required log → done () log) :
    Triple scenario required (Script.say line) done failed stopped :=
  ⟨fun _ hrequired => hdone _ hrequired⟩

theorem sayAll {lines : List String} {done : Unit → List Event → Prop}
    (hdone : ∀ log, required log → done () log) :
    Triple scenario required (Script.sayAll lines) done failed stopped := by
  induction lines with
  | nil => exact .pure hdone
  | cons line lines ih => exact (say fun _ hrequired => hrequired).bind fun _ => ih

theorem say_bind {line : String} {next : Script α}
    (hnext : Triple scenario required next done failed stopped) :
    Triple scenario required (Script.say line >>= fun _ => next) done failed stopped :=
  (say fun _ hrequired => hrequired).bind fun _ => hnext

theorem sayAll_bind {lines : List String} {next : Script α}
    (hnext : Triple scenario required next done failed stopped) :
    Triple scenario required (Script.sayAll lines >>= fun _ => next) done failed stopped :=
  (sayAll fun _ hrequired => hrequired).bind fun _ => hnext

theorem complain_bind {line : String} {next : Script α}
    (hnext : Triple scenario required next done failed stopped) :
    Triple scenario required (Script.complain line >>= fun _ => next) done failed stopped :=
  ⟨fun _ hrequired => hnext.meets _ hrequired⟩

/-- The work goes on with a result, where there is one. -/
theorem accept_bind {φ : Type} {failure : φ → Stop} {result : Except φ β} {next : β → Script α}
    (hfailure : ∀ e failed, failure e ≠ .failed failed)
    (hnext : ∀ b, result = .ok b → Triple scenario required (next b) done failed stopped)
    (hstopped : ∀ log, required log → stopped log) :
    Triple scenario required (Talk.accept failure result >>= next) done failed stopped := by
  constructor
  intro session hrequired
  rcases result with e | b
  · rw [Talk.perform_bind, Talk.perform_accept_error]
    cases hstop : failure e with
    | failed failed => exact absurd hstop (hfailure e failed)
    | _ => exact hstopped _ hrequired
  · exact (hnext b rfl).meets session hrequired

/-- The work goes on with the ending of a command, which is a success where that is checked. -/
theorem run_bind {lead : String} {words : List String} {check : Bool} {env : List (String × String)}
    {next : Outcome → Script α}
    (hnext : ∀ ending : Ending, (check = true → ending.Succeeded) →
      Triple scenario (fun log => ∃ before, log = before ++ [.did words ending] ∧ required before)
        (next ending.outcome) done failed stopped)
    (hfailed : ∀ (ending : Ending) before, check = true → ¬ ending.Succeeded → required before →
      failed (before ++ [.did words ending])) :
    Triple scenario required (Script.run lead words check env >>= next) done failed stopped := by
  rw [Script.run, bind_assoc]
  refine say_bind ⟨fun session hrequired => ?_⟩
  have hending := (scenario.ending session.asked (.ofWords words check env)).isTruthy_code
  rw [Script.execute, bind_assoc, Talk.perform_bind, Talk.perform_ask]
  dsimp only
  split
  next hstops =>
    rw [Bool.and_eq_true] at hstops
    exact hfailed _ _ hstops.1 (hending.mp hstops.2) hrequired
  next hgoes =>
    rw [pure_bind]
    refine (hnext _ fun hcheck => ?_).meets _ ⟨_, rfl, hrequired⟩
    by_contra hfails
    exact hgoes (Bool.and_eq_true _ _ ▸ ⟨hcheck, hending.mpr hfails⟩)

theorem run {lead : String} {words : List String} {check : Bool} {env : List (String × String)}
    {done : Outcome → List Event → Prop}
    (hdone : ∀ (ending : Ending) before, (check = true → ending.Succeeded) → required before →
      done ending.outcome (before ++ [.did words ending]))
    (hfailed : ∀ (ending : Ending) before, check = true → ¬ ending.Succeeded → required before →
      failed (before ++ [.did words ending])) :
    Triple scenario required (Script.run lead words check env) done failed stopped := by
  rw [← bind_pure (Script.run lead words check env)]
  refine run_bind (fun ending hending => .pure ?_) hfailed
  rintro log ⟨before, rfl, hrequired⟩
  exact hdone ending before hending hrequired

/-- The work goes on with the answer of the user, who may break off instead. -/
theorem prompt_bind {text : String} {next : Value → Script α}
    (hnext : ∀ answer : String,
      Triple scenario (fun log => ∃ before, log = before ++ [.answered text (some answer)] ∧
        required before) (next (.string answer)) done failed stopped)
    (hstopped : ∀ before, required before → stopped (before ++ [.answered text none])) :
    Triple scenario required (Script.prompt text >>= next) done failed stopped := by
  rw [Script.prompt, bind_assoc]
  refine say_bind ⟨fun session hrequired => ?_⟩
  rw [bind_assoc, Talk.perform_bind, Talk.perform_ask]
  have hpartner : scenario.partner session.asked (.prompt text) =
      (scenario.typed session.asked text).map Value.string := rfl
  have hlog : scenario.log (.prompt text :: session.asked) =
      scenario.log session.asked ++ [.answered text (scenario.typed session.asked text)] := rfl
  dsimp only
  rcases htyped : scenario.typed session.asked text with _ | answer <;>
    simp only [htyped, Option.map_none, Option.map_some] at hpartner hlog <;> rw [hpartner]
  · exact hlog ▸ hstopped _ hrequired
  · exact (hnext answer).meets _ ⟨_, hlog, hrequired⟩

/-- What fails in a piece of work goes on in another one. -/
theorem tryCatch {work : Script α} {handler : Stop → Script α} {midway : List Event → Prop}
    {halted : List Event → Prop}
    (hwork : Triple scenario required work done midway halted)
    (hfailed : ∀ failure, Triple scenario midway (handler (.failed failure)) done failed stopped)
    (hstopped : ∀ stop, (∀ failure, stop ≠ .failed failure) →
      Triple scenario halted (handler stop) done failed stopped) :
    Triple scenario required (MonadExcept.tryCatch work handler) done failed stopped := by
  constructor
  intro session hrequired
  have hmeets := hwork.meets session hrequired
  rw [Talk.perform_tryCatch]
  rcases hperform : work.perform scenario.partner session with ⟨stop | a, later⟩ <;>
    rw [hperform] at hmeets
  · cases stop with
    | failed failure => exact (hfailed failure).meets later hmeets
    | _ => exact (hstopped _ (by simp)).meets later hmeets
  · exact hmeets

theorem orOnFailure {work : Script α} {otherwise : Failure → Script α} {midway : List Event → Prop}
    (hwork : Triple scenario required work done midway stopped)
    (hotherwise : ∀ failure, Triple scenario midway (otherwise failure) done failed stopped) :
    Triple scenario required (Script.orOnFailure work otherwise) done failed stopped := by
  refine tryCatch hwork hotherwise fun stop hstop => ⟨fun session hstopped => ?_⟩
  cases stop with
  | failed failure => exact absurd rfl (hstop failure)
  | _ => exact hstopped

end Triple

/-! ## Events that depend on what came before -/

/-- Some events of a kind happened in their order. -/
def Includes (kind : List Event → Prop) (log : List Event) : Prop :=
  ∃ events, kind events ∧ events.Sublist log

/-- Wherever a critical event stands in the log, the events before it are as they should be. -/
def Guarded (critical : Event → Prop) (condition : List Event → Prop) (log : List Event) : Prop :=
  ∀ before event after, log = before ++ event :: after → critical event → condition before

theorem guarded_nil {critical : Event → Prop} {condition : List Event → Prop} :
    Guarded critical condition [] := by
  intro before event after hlog
  simp at hlog

/-- Nothing is asked of events that do not come. -/
theorem guarded_of_forall_not {critical : Event → Prop} {condition : List Event → Prop}
    {log : List Event} (hnone : ∀ event ∈ log, ¬ critical event) : Guarded critical condition log := by
  intro before event after hlog hcritical
  exact absurd hcritical (hnone event (by simp [hlog]))

theorem guarded_concat {critical : Event → Prop} {condition : List Event → Prop} {log : List Event}
    {event : Event} :
    Guarded critical condition (log ++ [event]) ↔
      Guarded critical condition log ∧ (critical event → condition log) := by
  constructor
  · intro hguarded
    refine ⟨fun before other after hlog => ?_, hguarded log event [] rfl⟩
    exact hguarded before other (after ++ [event]) (by rw [hlog]; simp)
  · rintro ⟨hguarded, hlast⟩ before other after hlog hcritical
    rcases List.eq_nil_or_concat after with rfl | ⟨rest, last, rfl⟩
    · obtain ⟨rfl, hevent⟩ := List.append_inj' hlog rfl
      obtain rfl : event = other := by simpa using hevent
      exact hlast hcritical
    · rw [List.concat_eq_append, ← List.cons_append, ← List.append_assoc] at hlog
      exact hguarded before other rest (List.append_inj' hlog rfl).1 hcritical

end AppSurvey.Release
