import AppSurvey.Proofs.Release.Log
import AppSurvey.Proofs.Text.Case
import AppSurvey.Release.Publish

/-!
# Nothing is pushed without every check

The checks before a release are kinds of events, one for each step of the script, and `Approval` and
`Clearance` put them in order: what must have happened before a release is made, and before it is pushed.
The steps are followed one by one. Each adds the events of its check to those that have happened before,
and ends the script where the check fails.
-/

namespace AppSurvey.Release.Publish

open Text Script

/-! ## The checks -/

/-- Nothing was left to commit. -/
def Clean (events : List Event) : Prop :=
  ∃ status : Ending, strip status.out = "" ∧ events = [.did ["git", "status", "--porcelain"] status]

/-- The remote was fetched, and the branch was where it is there, if it is there at all. -/
def InStep (events : List Event) : Prop :=
  ∃ fetched here there : Ending,
    fetched.Succeeded ∧ here.Succeeded ∧ (there.Succeeded → strip there.out = strip here.out) ∧
    events =
      [.did ["git", "fetch", "origin", "--tags"] fetched, .did ["git", "rev-parse", "@"] here,
        .did ["git", "rev-parse", "@\x7bu\x7d"] there]

/-- There was no tag, or the number of commits since the last one was enough. -/
inductive NewWork (enough : Int → Prop) : List Event → Prop
  | untagged (described : Ending) (hfailed : ¬ described.Succeeded) :
      NewWork enough [.did ["git", "describe", "--tags", "--abbrev=0"] described]
  | commits (described counted : Ending) (count : Int) (hdescribed : described.Succeeded)
      (hcounted : counted.Succeeded) (hcount : wholeNumber (strip counted.out) = .ok count)
      (henough : enough count) :
      NewWork enough
        [.did ["git", "describe", "--tags", "--abbrev=0"] described,
          .did ["git", "rev-list", s!"{strip described.out}..HEAD", "--count"] counted]

/-- The version was told. -/
def Previewed (version : String) (events : List Event) : Prop :=
  ∃ preview : Ending, preview.Succeeded ∧ strip preview.out = version ∧
    events = [.did ["semantic-release", "version", "--print"] preview]

/-- The user said yes. -/
def Agreed (question : String) (events : List Event) : Prop :=
  ∃ answer, (answer = "y" ∨ answer = "Y") ∧ events = [.answered question (some answer)]

def creation : List String := ["uv", "run", "poe", "release"]

/-- The release was made. -/
def Created (events : List Event) : Prop :=
  ∃ created : Ending, created.Succeeded ∧ events = [.did creation created]

/-- The tag was found on the last commit. -/
def Tagged (tag : String) (events : List Event) : Prop :=
  ∃ described : Ending, described.Succeeded ∧ strip described.out = tag ∧
    events = [.did ["git", "describe", "--tags", "--exact-match"] described]

def creationQuestion (version : String) : String := "Create release " ++ version ++ "? [y/N]: "

def pushQuestion : String := "\nPush to remote? [y/N]: "

/-- All that is checked before a release is made. -/
inductive Approval (enough : Int → Prop) : List Event → Prop
  | intro {clean step work preview yes : List Event} {version : String} (hclean : Clean clean)
      (hstep : InStep step) (hwork : NewWork enough work) (hpreview : Previewed version preview)
      (hyes : Agreed (creationQuestion version) yes) :
      Approval enough (clean ++ step ++ work ++ preview ++ yes)

/-- All that is checked before a release is pushed. -/
inductive Clearance (enough : Int → Prop) (tag : String) : List Event → Prop
  | intro {approval created tagged yes : List Event} (happroval : Approval enough approval)
      (hcreated : Created created) (htagged : Tagged tag tagged) (hyes : Agreed pushQuestion yes) :
      Clearance enough tag (approval ++ created ++ tagged ++ yes)

theorem Clearance.includes_newWork {enough : Int → Prop} {tag : String} {events : List Event}
    (hclearance : Clearance enough tag events) : Includes (NewWork enough) events := by
  obtain @⟨_, created, tagged, agreed,
    @⟨clean, step, work, preview, yes, -, -, -, hwork, -, -⟩⟩ := hclearance
  have hinfix : work <:+: clean ++ step ++ work ++ preview ++ yes ++ created ++ tagged ++ agreed :=
    ⟨clean ++ step, preview ++ yes ++ created ++ tagged ++ agreed, by simp⟩
  exact ⟨work, hwork, hinfix.sublist⟩

def branchPush : List String := ["git", "push", "origin", "main"]

def tagPush (tag : String) : List String := ["git", "push", "origin", tag, "--force"]

/-- The branch was pushed after all checks. -/
def BranchPushed (enough : Int → Prop) (tag : String) (events : List Event) : Prop :=
  ∃ checks pushed, Clearance enough tag checks ∧ pushed.Succeeded ∧
    events = checks ++ [.did branchPush pushed]

/-! ## What is asked of a log -/

def IsCreation (event : Event) : Prop := ∃ ending, event = .did creation ending

def IsPush (event : Event) : Prop := ∃ rest ending, event = .did ("git" :: "push" :: rest) ending

def IsBranchPush (event : Event) : Prop := ∃ ending, event = .did branchPush ending

instance : DecidablePred IsBranchPush := fun event =>
  decidable_of_iff (event.words? = some branchPush) Event.words?_eq_some_iff

def IsTagPush (tag : String) (event : Event) : Prop := ∃ ending, event = .did (tagPush tag) ending

/-- A release is made, the branch is pushed and a tag is pushed only after the checks that belong to it,
the pushes at most once each, and nothing else is pushed. -/
structure Safe (enough : Int → Prop) (log : List Event) : Prop where
  creation : Guarded IsCreation (Includes (Approval enough)) log
  branch : Guarded IsBranchPush (fun before => ∃ tag, Includes (Clearance enough tag) before) log
  branch_once : Guarded IsBranchPush (fun before => ∀ event ∈ before, ¬ IsBranchPush event) log
  tag (tag : String) : Guarded (IsTagPush tag) (Includes (BranchPushed enough tag)) log
  tag_once (tag : String) :
    Guarded (IsTagPush tag) (fun before => ∀ event ∈ before, ∀ other, ¬ IsTagPush other event) log
  only : ∀ event ∈ log, IsPush event → IsBranchPush event ∨ ∃ tag, IsTagPush tag event

/-- When the user agrees the branch is pushed, and when that succeeds the tag is. -/
structure Settled (log : List Event) : Prop where
  branch : Includes (Agreed pushQuestion) log → ∃ event ∈ log, IsBranchPush event
  tag : ∀ pushed : Ending, pushed.Succeeded → .did branchPush pushed ∈ log →
    ∃ tag, ∃ event ∈ log, IsTagPush tag event

theorem IsBranchPush.isPush {event : Event} (hbranch : IsBranchPush event) : IsPush event := by
  obtain ⟨ending, rfl⟩ := hbranch
  exact ⟨_, ending, rfl⟩

theorem IsTagPush.isPush {event : Event} {tag : String} (htag : IsTagPush tag event) : IsPush event := by
  obtain ⟨ending, rfl⟩ := htag
  exact ⟨_, ending, rfl⟩

theorem safe_nil {enough : Int → Prop} : Safe enough [] where
  creation := guarded_nil
  branch := guarded_nil
  branch_once := guarded_nil
  tag _ := guarded_nil
  tag_once _ := guarded_nil
  only := by simp

/-- One more event leaves a log safe if the checks that belong to the event have been made. -/
theorem Safe.concat {enough : Int → Prop} {log : List Event} (hsafe : Safe enough log) {event : Event}
    (hcreation : IsCreation event → Includes (Approval enough) log)
    (hbranch : IsBranchPush event → (∃ tag, Includes (Clearance enough tag) log) ∧
      ∀ other ∈ log, ¬ IsBranchPush other)
    (htag : ∀ tag, IsTagPush tag event → Includes (BranchPushed enough tag) log ∧
      ∀ other ∈ log, ∀ another, ¬ IsTagPush another other)
    (honly : IsPush event → IsBranchPush event ∨ ∃ tag, IsTagPush tag event) :
    Safe enough (log ++ [event]) where
  creation := guarded_concat.mpr ⟨hsafe.creation, hcreation⟩
  branch := guarded_concat.mpr ⟨hsafe.branch, fun h => (hbranch h).1⟩
  branch_once := guarded_concat.mpr ⟨hsafe.branch_once, fun h => (hbranch h).2⟩
  tag tag := guarded_concat.mpr ⟨hsafe.tag tag, fun h => (htag tag h).1⟩
  tag_once tag := guarded_concat.mpr ⟨hsafe.tag_once tag, fun h => (htag tag h).2⟩
  only other hother := by
    rcases List.mem_append.mp hother with hother | hother
    · exact hsafe.only other hother
    · rw [List.mem_singleton.mp hother]
      exact honly

theorem Safe.concat_of_not_isPush {enough : Int → Prop} {log : List Event} (hsafe : Safe enough log)
    {event : Event} (hcreation : IsCreation event → Includes (Approval enough) log)
    (hpush : ¬ IsPush event) : Safe enough (log ++ [event]) :=
  hsafe.concat hcreation (fun h => absurd h.isPush hpush) (fun _ h => absurd h.isPush hpush)
    fun h => absurd h hpush

theorem not_isPush_answered (text : String) (answer : Option String) :
    ¬ IsPush (.answered text answer) :=
  fun ⟨_, _, hevent⟩ => Event.did_ne_answered hevent.symm

theorem not_isCreation_answered (text : String) (answer : Option String) :
    ¬ IsCreation (.answered text answer) :=
  fun ⟨_, hevent⟩ => Event.did_ne_answered hevent.symm

theorem Safe.concat_answered {enough : Int → Prop} {log : List Event} (hsafe : Safe enough log)
    {text : String} {answer : Option String} : Safe enough (log ++ [.answered text answer]) :=
  hsafe.concat_of_not_isPush (fun h => absurd h (not_isCreation_answered text answer))
    (not_isPush_answered text answer)

/-! ## Along the way -/

/-- The log of a run that ends is safe and settled. -/
def Sound (log : List Event) : Prop := Safe (· ≠ 0) log ∧ Settled log

/-- The log on the way to the last question: some checks have been made, and nothing is pushed. -/
structure Stage (events log : List Event) : Prop where
  happened : events.Sublist log
  safe : Safe (· ≠ 0) log
  unpushed : ∀ event ∈ log, ¬ IsPush event
  unasked : ∀ answer, .answered pushQuestion answer ∉ log

namespace Stage

variable {events log : List Event}

theorem sound (hstage : Stage events log) : Sound log := by
  refine ⟨hstage.safe, ?_, ?_⟩
  · rintro ⟨_, ⟨answer, -, rfl⟩, hasked⟩
    exact absurd (List.singleton_sublist.mp hasked) (hstage.unasked _)
  · intro pushed _ hpushed
    exact absurd ⟨_, pushed, rfl⟩ (hstage.unpushed _ hpushed)

theorem mono (hstage : Stage events log) {fewer : List Event} (hfewer : fewer.Sublist events) :
    Stage fewer log :=
  { hstage with happened := hfewer.trans hstage.happened }

theorem concat (hstage : Stage events log) {event : Event}
    (hcreation : IsCreation event → Includes (Approval (· ≠ 0)) log) (hpush : ¬ IsPush event)
    (hasks : ∀ answer, .answered pushQuestion answer ≠ event) :
    Stage (events ++ [event]) (log ++ [event]) where
  happened := hstage.happened.append (List.Sublist.refl _)
  safe := hstage.safe.concat_of_not_isPush hcreation hpush
  unpushed := List.forall_mem_append.mpr ⟨hstage.unpushed, List.forall_mem_singleton.mpr hpush⟩
  unasked answer := by simpa [hstage.unasked answer] using hasks answer

theorem concat_did (hstage : Stage events log) {words : List String}
    (hcreation : words ≠ creation) (hpush : words.take 2 ≠ ["git", "push"]) (ending : Ending) :
    Stage (events ++ [.did words ending]) (log ++ [.did words ending]) := by
  refine hstage.concat ?_ ?_ fun _ => Event.did_ne_answered.symm
  · rintro ⟨_, hevent⟩
    exact absurd (Event.did_inj.mp hevent).1 hcreation
  · rintro ⟨rest, _, hevent⟩
    exact hpush ((Event.did_inj.mp hevent).1 ▸ rfl)

/-- An answer that is no yes to the last question leaves nothing to push. -/
theorem sound_answered (hstage : Stage events log) {answer : Option String}
    (hno : ∀ text ∈ answer, ¬ (text = "y" ∨ text = "Y")) :
    Sound (log ++ [.answered pushQuestion answer]) := by
  refine ⟨hstage.safe.concat_answered, ?_, ?_⟩
  · rintro ⟨_, ⟨text, hyes, rfl⟩, hasked⟩
    rcases List.mem_append.mp (List.singleton_sublist.mp hasked) with hasked | hasked
    · exact absurd hasked (hstage.unasked _)
    · obtain rfl : some text = answer := by simpa using hasked
      exact absurd hyes (hno text rfl)
  · intro pushed _ hpushed
    rcases List.mem_append.mp hpushed with hpushed | hpushed
    · exact absurd ⟨_, pushed, rfl⟩ (hstage.unpushed _ hpushed)
    · exact absurd (List.mem_singleton.mp hpushed) Event.did_ne_answered

end Stage

/-- A piece of the script, which may also end the script. -/
abbrev Proceeds {α : Type} (scenario : Scenario) (required : List Event → Prop) (work : Script α)
    (done : α → List Event → Prop) : Prop :=
  Triple scenario required work done Sound Sound

/-- One more check has been made. -/
def Reached (events : List Event) (kind : List Event → Prop) (log : List Event) : Prop :=
  ∃ added, kind added ∧ Stage (events ++ added) log

section Steps

variable {scenario : Scenario} {α : Type} {events : List Event} {done : α → List Event → Prop}

/-- A command that neither makes nor pushes a release. -/
theorem Proceeds.run_bind {words : List String} {check : Bool} {env : List (String × String)}
    {next : Outcome → Script α} (hcreation : words ≠ creation) (hpush : words.take 2 ≠ ["git", "push"])
    (hnext : ∀ ending : Ending, (check = true → ending.Succeeded) →
      Proceeds scenario (Stage (events ++ [.did words ending])) (next ending.outcome) done) :
    Proceeds scenario (Stage events) (run words check env >>= next) done := by
  refine Triple.run_bind (fun ending hending => (hnext ending hending).of_imp ?_)
    fun ending before _ _ hstage => (hstage.concat_did hcreation hpush ending).sound
  rintro log ⟨before, rfl, hstage⟩
  exact hstage.concat_did hcreation hpush ending

/-- A question other than the last one. -/
theorem Proceeds.prompt_bind {text : String} {next : Value → Script α} (htext : text ≠ pushQuestion)
    (hnext : ∀ answer : String, Proceeds scenario (Stage (events ++ [.answered text (some answer)]))
      (next (.string answer)) done) :
    Proceeds scenario (Stage events) (prompt text >>= next) done := by
  have hconcat (answer : Option String) {log : List Event} (hstage : Stage events log) :
      Stage (events ++ [.answered text answer]) (log ++ [.answered text answer]) :=
    hstage.concat (fun h => absurd h (not_isCreation_answered text answer))
      (not_isPush_answered text answer) (by simp [htext.symm])
  refine Triple.prompt_bind (fun answer => (hnext answer).of_imp ?_)
    fun before hstage => (hconcat none hstage).sound
  rintro log ⟨before, rfl, hstage⟩
  exact hconcat (some answer) hstage

@[simp] theorem isYes_string (answer : String) :
    isYes (.string answer) = pure (lower answer == "y") := rfl

theorem requireProject_proceeds :
    Proceeds scenario (Stage events) requireProject fun _ => Stage events := by
  unfold requireProject
  constructor
  intro session hstage
  rw [Talk.perform_bind, Talk.perform_state]
  dsimp only
  split
  · exact hstage
  · exact hstage.sound

theorem requireClean_proceeds :
    Proceeds scenario (Stage events) requireClean fun _ => Reached events Clean := by
  unfold requireClean
  refine Proceeds.run_bind (by decide) (by decide) fun status _ => ?_
  rw [Ending.trimmed_out, pure_bind]
  split
  next hempty =>
    have hclean : Clean [.did ["git", "status", "--porcelain"] status] :=
      ⟨status, String.isEmpty_iff.mp hempty, rfl⟩
    exact .say fun _ hstage => ⟨_, hclean, hstage⟩
  next => exact .sayAll_bind (.exit_bind fun _ hstage => hstage.sound)

/-- The place of the branch on the remote, or another text where it is not there. -/
theorem upstream_proceeds {words : List String} {local_ line : String} (hcreation : words ≠ creation)
    (hpush : words.take 2 ≠ ["git", "push"]) :
    Proceeds scenario (Stage events)
      (orOnFailure (output words) fun _ => do
        say line
        return local_)
      fun remote log => ∃ there : Ending, (there.Succeeded → strip there.out = remote) ∧
        Stage (events ++ [.did words there]) log := by
  have houtput : Triple scenario (Stage events) (output words)
      (fun remote log => ∃ there : Ending, (there.Succeeded → strip there.out = remote) ∧
        Stage (events ++ [.did words there]) log)
      (fun log => ∃ there : Ending, ¬ there.Succeeded ∧ Stage (events ++ [.did words there]) log)
      Sound := by
    refine Triple.run_bind (fun there _ => .pure ?_) fun there before _ hfailed hstage =>
      ⟨there, hfailed, hstage.concat_did hcreation hpush there⟩
    rintro log ⟨before, rfl, hstage⟩
    exact ⟨there, fun _ => rfl, hstage.concat_did hcreation hpush there⟩
  refine houtput.orOnFailure fun _ => .say_bind (.pure ?_)
  rintro log ⟨there, hfailed, hstage⟩
  exact ⟨there, fun hsucceeded => absurd hsucceeded hfailed, hstage⟩

theorem requireSync_proceeds :
    Proceeds scenario (Stage events) requireSync fun _ => Reached events InStep := by
  unfold requireSync
  refine .say_bind (Proceeds.run_bind (by decide) (by decide) fun fetched hfetched => ?_)
  rw [output, bind_assoc]
  refine Proceeds.run_bind (by decide) (by decide) fun here hhere => ?_
  rw [Ending.trimmed_out, pure_bind]
  refine (upstream_proceeds (by decide) (by decide)).bind fun remote => .of_exists fun there hthere => ?_
  split
  next hsame =>
    refine .say fun log hstage => ⟨_, ⟨fetched, here, there, hfetched rfl, hhere rfl, ?_, rfl⟩, ?_⟩
    · intro hsucceeded
      rw [hthere hsucceeded, hsame]
    · simpa using hstage
  next => exact .sayAll_bind (.exit_bind fun _ => Stage.sound)

theorem requireCommits_proceeds :
    Proceeds scenario (Stage events) requireCommits fun _ => Reached events (NewWork (· ≠ 0)) := by
  unfold requireCommits
  refine Proceeds.run_bind (by decide) (by decide) fun described _ => ?_
  split
  next hok =>
    rw [Ending.trimmed_out, pure_bind]
    refine .say_bind ?_
    rw [output, bind_assoc]
    refine Proceeds.run_bind (by simp [creation]) (by simp) fun counted hcounted => ?_
    rw [Ending.trimmed_out, pure_bind]
    -- Named, so that nothing tries to evaluate it.
    generalize hread : wholeNumber (strip counted.out) = read
    refine .accept_bind (by simp) (fun count hcount => ?_) fun _ => Stage.sound
    split
    next => exact .sayAll_bind (.exit_bind fun _ => Stage.sound)
    next hnew =>
      rw [hcount] at hread
      have hwork : NewWork (· ≠ 0) _ :=
        .commits described counted count (described.ok_outcome.mp hok) (hcounted rfl) hread hnew
      exact .say fun _ hstage => ⟨_, hwork, by simpa using hstage⟩
  next hfailed =>
    have hwork : NewWork (· ≠ 0) _ :=
      .untagged described fun hsucceeded => hfailed (described.ok_outcome.mpr hsucceeded)
    exact .say fun _ hstage => ⟨_, hwork, hstage⟩

theorem nextVersion_proceeds :
    Proceeds scenario (Stage events) nextVersion fun version => Reached events (Previewed version) := by
  unfold nextVersion
  refine .say_bind (Proceeds.run_bind (by decide) (by decide) fun preview _ => ?_)
  split
  next hok =>
    rw [Ending.trimmed_out, pure_bind]
    have hpreview : Previewed (strip preview.out)
        [.did ["semantic-release", "version", "--print"] preview] :=
      ⟨preview, preview.ok_outcome.mp hok, rfl, rfl⟩
    exact .say_bind (.pure fun _ hstage => ⟨_, hpreview, hstage⟩)
  next => exact .sayAll_bind (.exit_bind fun _ => Stage.sound)

/-- A release is made after all checks that belong to it. -/
theorem create_proceeds (happroval : Approval (· ≠ 0) events) :
    Proceeds scenario (Stage events) create fun _ => Reached events Created := by
  have hconcat (ending : Ending) {log : List Event} (hstage : Stage events log) :
      Stage (events ++ [.did creation ending]) (log ++ [.did creation ending]) := by
    refine hstage.concat (fun _ => ⟨events, happroval, hstage.happened⟩) ?_ fun _ =>
      Event.did_ne_answered.symm
    rintro ⟨rest, _, hevent⟩
    simp [creation] at hevent
  unfold create
  have hmade : Triple scenario (Stage events) (run creation true [("SKIP", "uv-lock")])
      (fun _ => Reached events Created) Sound Sound :=
    .run (fun ending before hending hstage => ⟨_, ⟨ending, hending rfl, rfl⟩, hconcat ending hstage⟩)
      fun ending before _ _ hstage => (hconcat ending hstage).sound
  refine .sayAll_bind ((hmade.orOnFailure fun _ => ?_).bind fun _ => .pure fun _ h => h)
  exact .sayAll_bind (.exit fun _ h => h)

theorem createdTag_proceeds :
    Proceeds scenario (Stage events) createdTag fun tag => Reached events (Tagged tag) := by
  unfold createdTag
  refine .say_bind ?_
  rw [output, bind_assoc]
  refine Proceeds.run_bind (by decide) (by decide) fun last _ => ?_
  rw [Ending.trimmed_out, pure_bind]
  refine .say_bind (Proceeds.run_bind (by decide) (by decide) fun described _ => ?_)
  split
  next hok =>
    rw [Ending.trimmed_out, pure_bind]
    have htagged : Tagged (strip described.out)
        [.did ["git", "describe", "--tags", "--exact-match"] described] :=
      ⟨described, described.ok_outcome.mp hok, rfl, rfl⟩
    -- The last commit is only shown.
    refine .say_bind (.pure fun _ hstage => ⟨_, htagged, hstage.mono ?_⟩)
    exact (List.sublist_append_left _ _).append (List.Sublist.refl _)
  next => exact .sayAll_bind (.exit_bind fun _ => Stage.sound)

/-! ## Pushing -/

/-- The log after the user has agreed: all checks have been made, and nothing is pushed. -/
structure Ready (tag : String) (log : List Event) : Prop where
  cleared : Includes (Clearance (· ≠ 0) tag) log
  safe : Safe (· ≠ 0) log
  unpushed : ∀ event ∈ log, ¬ IsPush event

theorem Ready.safe_branch {tag : String} {log : List Event} (hready : Ready tag log) (pushed : Ending) :
    Safe (· ≠ 0) (log ++ [.did branchPush pushed]) := by
  refine hready.safe.concat ?_ (fun _ => ⟨⟨tag, hready.cleared⟩, ?_⟩) ?_ fun _ => .inl ⟨pushed, rfl⟩
  · rintro ⟨_, hevent⟩
    simp [branchPush, creation] at hevent
  · exact fun other hother hbranch => hready.unpushed other hother hbranch.isPush
  · rintro other ⟨_, hevent⟩
    simp [branchPush, tagPush] at hevent

/-- The log after the branch was pushed. -/
def HalfPushed (tag : String) (log : List Event) : Prop :=
  ∃ before pushed, log = before ++ [.did branchPush pushed] ∧ pushed.Succeeded ∧ Ready tag before

theorem HalfPushed.sound_tag {tag : String} {log : List Event} (hhalf : HalfPushed tag log)
    (ending : Ending) : Sound (log ++ [.did (tagPush tag) ending]) := by
  obtain ⟨before, pushed, rfl, hpushed, hready⟩ := hhalf
  refine ⟨(hready.safe_branch pushed).concat ?_ ?_ ?_ fun _ => .inr ⟨tag, ending, rfl⟩, ?_, ?_⟩
  · rintro ⟨_, hevent⟩
    simp [tagPush, creation] at hevent
  · rintro ⟨_, hevent⟩
    simp [branchPush, tagPush] at hevent
  · -- The only push before is that of the branch, which stands right behind the checks.
    rintro other ⟨_, hevent⟩
    obtain rfl : tag = other := by simpa [tagPush] using (Event.did_inj.mp hevent).1
    obtain ⟨checks, hchecks, hsublist⟩ := hready.cleared
    refine ⟨⟨_, ⟨checks, pushed, hchecks, hpushed, rfl⟩, hsublist.append (List.Sublist.refl _)⟩, ?_⟩
    intro event hevent another hanother
    rcases List.mem_append.mp hevent with hevent | hevent
    · exact hready.unpushed event hevent hanother.isPush
    · obtain ⟨_, hanother⟩ := hanother
      simp [List.mem_singleton.mp hevent, branchPush, tagPush] at hanother
  · exact fun _ => ⟨_, by simp, pushed, rfl⟩
  · exact fun _ _ _ => ⟨tag, _, by simp, ending, rfl⟩

theorem pushBranch_proceeds {tag : String} :
    Proceeds scenario (Ready tag) (pushBranch tag) fun _ => HalfPushed tag := by
  have hpush : Triple scenario (Ready tag)
      (do
        let _ ← run branchPush
        say "   OK: main branch pushed")
      (fun _ => HalfPushed tag) Sound Sound := by
    refine Triple.run_bind (fun pushed hpushed => .say ?_) fun pushed before _ hfailed hready =>
      ⟨hready.safe_branch pushed, fun _ => ⟨_, by simp, pushed, rfl⟩, ?_⟩
    · rintro log ⟨before, rfl, hready⟩
      exact ⟨before, pushed, rfl, hpushed rfl, hready⟩
    · intro other hother hmem
      rcases List.mem_append.mp hmem with hmem | hmem
      · exact absurd ⟨_, other, rfl⟩ (hready.unpushed _ hmem)
      · rw [(Event.did_inj.mp (List.mem_singleton.mp hmem)).2] at hother
        exact absurd hother hfailed
  unfold pushBranch
  exact .say_bind (hpush.orOnFailure fun _ => .sayAll_bind (.exit fun _ h => h))

theorem pushTag_proceeds {tag : String} :
    Proceeds scenario (HalfPushed tag) (pushTag tag) fun _ => Sound := by
  have hpush : Triple scenario (HalfPushed tag)
      (do
        let _ ← run (tagPush tag)
        say s!"   OK: Tag {tag} pushed")
      (fun _ => Sound) Sound Sound := by
    refine Triple.run_bind (fun ending _ => .say ?_) fun ending _ _ _ hhalf => hhalf.sound_tag ending
    rintro log ⟨before, rfl, hhalf⟩
    exact hhalf.sound_tag ending
  unfold pushTag
  exact .say_bind (hpush.orOnFailure fun _ => .sayAll_bind (.exit fun _ h => h))

theorem push_proceeds {tag : String} : Proceeds scenario (Ready tag) (push tag) fun _ => Sound := by
  unfold push
  exact pushBranch_proceeds.bind fun _ => pushTag_proceeds.bind fun _ => .sayAll fun _ h => h

/-- The last question: a release is pushed only if the user agrees. -/
theorem pushQuestion_proceeds {checks : List Event} {tag : String}
    (hclear : ∀ yes, Agreed pushQuestion yes → Clearance (· ≠ 0) tag (checks ++ yes)) :
    Proceeds scenario (Stage checks)
      (do
        let answer ← prompt pushQuestion
        if ← isYes answer then push tag else keepLocal tag)
      fun _ => Sound := by
  refine Triple.prompt_bind (fun answer => ?_) fun before hstage => hstage.sound_answered (by simp)
  rw [isYes_string, pure_bind]
  split
  next hyes =>
    rw [beq_iff_eq, lower_eq_y_iff] at hyes
    refine push_proceeds.of_imp ?_
    rintro log ⟨before, rfl, hstage⟩
    refine ⟨⟨_, hclear _ ⟨answer, hyes, rfl⟩, ?_⟩, ?_, ?_⟩
    · exact hstage.happened.append (List.Sublist.refl _)
    · exact hstage.safe.concat_answered
    · exact List.forall_mem_append.mpr
        ⟨hstage.unpushed, List.forall_mem_singleton.mpr (not_isPush_answered _ _)⟩
  next hno =>
    rw [beq_iff_eq, lower_eq_y_iff] at hno
    refine .sayAll ?_
    rintro log ⟨before, rfl, hstage⟩
    exact hstage.sound_answered (by simpa using hno)

theorem creationQuestion_ne_pushQuestion (version : String) :
    creationQuestion version ≠ pushQuestion := by
  intro hsame
  have hfirst : ("Create release " ++ version ++ "? [y/N]: ").toList.head? = some '\n' :=
    congrArg (fun text => text.toList.head?) hsame
  simp at hfirst

/-- Each step starts where the one before it has ended, so the checks are gathered in their order. -/
theorem body_proceeds : Proceeds scenario (Stage []) body fun _ => Sound := by
  unfold body
  refine .say_bind (requireProject_proceeds.bind fun _ => ?_)
  refine requireClean_proceeds.bind fun _ => .of_exists fun clean hclean => ?_
  refine requireSync_proceeds.bind fun _ => .of_exists fun step hstep => ?_
  refine requireCommits_proceeds.bind fun _ => .of_exists fun work hwork => ?_
  refine nextVersion_proceeds.bind fun version => .of_exists fun preview hpreview => ?_
  refine Proceeds.prompt_bind (creationQuestion_ne_pushQuestion version) fun answer => ?_
  rw [isYes_string, pure_bind]
  split
  next hyes =>
    rw [beq_iff_eq, lower_eq_y_iff] at hyes
    have happroval : Approval (· ≠ 0) _ := .intro hclean hstep hwork hpreview ⟨answer, hyes, rfl⟩
    refine (create_proceeds happroval).bind fun _ => .of_exists fun created hcreated => ?_
    refine createdTag_proceeds.bind fun tag => .of_exists fun tagged htagged => ?_
    exact .say_bind (pushQuestion_proceeds fun yes hyes => .intro happroval hcreated htagged hyes)
  next => exact .say_bind (.exit_bind fun _ => Stage.sound)

end Steps

/-! ## The whole script -/

theorem script_proceeds {scenario : Scenario} : Proceeds scenario (Stage []) script fun _ => Sound := by
  unfold script
  have hexit : Triple scenario Sound (exit 1) (fun _ : Unit => Sound) Sound Sound := .exit fun _ h => h
  refine body_proceeds.tryCatch (fun failure => .say_bind ?_) fun stop hstop => ?_
  · dsimp only
    split
    · refine .say_bind ?_
      split
      · exact .say_bind hexit
      · exact hexit
    · split
      · exact .say_bind hexit
      · exact hexit
  · cases stop with
    | failed failure => exact absurd rfl (hstop failure)
    | interrupted => exact .say_bind hexit
    | _ => exact ⟨fun _ h => h⟩

/-- Nothing is pushed without every check: the branch only after all checks in their order and a second
yes, the tag that was found only after the branch, and each once. A release is made only after the first
yes. What the user agrees to is done. -/
theorem pushes_only_after_every_check (scenario : Scenario) (console : Console) :
    Safe (· ≠ 0) (scenario.logOf script console) ∧ Settled (scenario.logOf script console) :=
  script_proceeds.logOf ⟨List.Sublist.refl _, safe_nil, by simp, by simp⟩ console

/-- Every command succeeds and the user agrees to everything, but the number of commits is told as less
than nothing. -/
def negativeCount : Scenario where
  ending _ command :=
    match command.line with
    | .list [_, .string "describe", _, _] => { out := "v1.0.0" }
    | .list [_, .string "rev-list", _, _] => { out := "-1" }
    | _ => {}
  typed _ _ := some "y"

/-- The files of a project. -/
def project : File.Tree := (File.Tree.empty []).put ["pyproject.toml"] (.file [])

/-- The number of commits is compared with nothing only: a release may be pushed though there is not one
commit since the last tag. -/
theorem pushes_with_negative_count :
    ¬ Guarded IsBranchPush (fun before => ∃ tag, Includes (Clearance (1 ≤ ·) tag) before)
      (negativeCount.logOf script { tree := project }) := by
  intro hguarded
  have hpushed : ∃ event ∈ negativeCount.logOf script { tree := project }, IsBranchPush event := by
    decide +kernel
  obtain ⟨event, hmem, hpush⟩ := hpushed
  obtain ⟨before, after, hlog⟩ := List.append_of_mem hmem
  obtain ⟨tag, events, hclearance, hevents⟩ := hguarded before event after hlog hpush
  obtain ⟨work, hwork, hsublist⟩ := hclearance.includes_newWork
  have hmem (other : Event) (hother : other ∈ work) :
      other ∈ negativeCount.logOf script { tree := project } :=
    hlog ▸ List.mem_append_left _ (hevents.subset (hsublist.subset hother))
  -- No run of this scenario shows a missing tag or a count that is enough.
  cases hwork with
  | untagged described hfailed =>
      obtain ⟨_, command, hline, rfl⟩ := Scenario.exists_of_did_mem_log (hmem _ List.mem_cons_self)
      exact hfailed (by simp [negativeCount, hline, Ending.Succeeded])
  | commits described counted count _ _ hcount henough =>
      obtain ⟨_, command, hline, rfl⟩ := Scenario.exists_of_did_mem_log
        (hmem _ (List.mem_cons_of_mem _ List.mem_cons_self))
      have hread : wholeNumber (strip "-1") = .ok (-1) := rfl
      simp only [negativeCount, hline, List.map_cons, List.map_nil, hread] at hcount
      cases hcount
      simp at henough

end AppSurvey.Release.Publish
