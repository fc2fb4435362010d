import AppSurvey.Proofs.Release.Log
import AppSurvey.Release.Finalize

/-!
# The tag of a release is moved to its last commit

What happens before a tag is moved is put in order as kinds of events: the commit that the release has at
first, one amendment or two, and the tag that is found on the first commit. Up to there a run goes one way
only, so its log is known event by event, and every other run ends before it touches a tag.
-/

namespace AppSurvey.Release.Finalize

open Text Script

/-! ## On the way to a tag -/

/-- The last commit was told. -/
def Noted (commit : String) (events : List Event) : Prop :=
  ∃ head : Ending, head.Succeeded ∧ strip head.out = commit ∧
    events = [.did ["git", "rev-parse", "HEAD"] head]

def staging : List String := ["git", "add", "CHANGELOG.md", "docs/changelog.md"]

def amending : List String := ["git", "commit", "--amend", "--no-edit", "--no-verify"]

def formatting : List String :=
  ["pre-commit", "run", "mdformat", "--files", "CHANGELOG.md", "docs/changelog.md"]

/-- The changelogs were put into the last commit. -/
def Amended (events : List Event) : Prop :=
  ∃ staged amended : Ending, staged.Succeeded ∧ amended.Succeeded ∧
    events = [.did staging staged, .did amending amended]

/-- The changelogs were formatted, which may fail, and then the status was told. -/
def Formatted (status : String) (events : List Event) : Prop :=
  ∃ formatted told : Ending, strip told.out = status ∧
    events = [.did formatting formatted, .did ["git", "status", "--porcelain"] told]

/-- The last commit was amended, and once more if there were changes after formatting. -/
inductive Completed : List Event → Prop
  | once {first check : List Event} (hfirst : Amended first) (hcheck : Formatted "" check) :
      Completed (first ++ check)
  | twice {first check second : List Event} {status : String} (hfirst : Amended first)
      (hcheck : Formatted status check) (hchanges : status ≠ "") (hsecond : Amended second) :
      Completed (first ++ check ++ second)

/-- The last commit was shown. -/
def Shown (events : List Event) : Prop :=
  ∃ shown : Ending, shown.Succeeded ∧ events = [.did ["git", "log", "-1", "--oneline"] shown]

def describing (commit : String) : List String := ["git", "describe", "--tags", "--exact-match", commit]

/-- A tag was found on the commit. -/
def Found (commit tag : String) (events : List Event) : Prop :=
  ∃ described : Ending, described.Succeeded ∧ strip described.out = tag ∧
    events = [.did (describing commit) described]

/-- All that happens before the tag is touched. The tag is found on the commit that was the last one at
first. -/
inductive Ready (tag : String) : List Event → Prop
  | intro {noted completed shown found : List Event} {commit : String} (hnoted : Noted commit noted)
      (hcompleted : Completed completed) (hshown : Shown shown) (hfound : Found commit tag found) :
      Ready tag (noted ++ completed ++ shown ++ found)

def deletion (tag : String) : List String := ["git", "tag", "-d", tag]

def creation (tag : String) : List String := ["git", "tag", tag]

/-- The tag was deleted after all that happens before it is touched. -/
def Deleted (tag : String) (events : List Event) : Prop :=
  ∃ before deleted, Ready tag before ∧ deleted.Succeeded ∧
    events = before ++ [.did (deletion tag) deleted]

/-! ## What is asked of a log -/

def IsTagWork (event : Event) : Prop := ∃ rest ending, event = .did ("git" :: "tag" :: rest) ending

def IsCommit (event : Event) : Prop := ∃ rest ending, event = .did ("git" :: "commit" :: rest) ending

def IsDeletion (tag : String) (event : Event) : Prop := ∃ ending, event = .did (deletion tag) ending

def IsCreation (tag : String) (event : Event) : Prop := ∃ ending, event = .did (creation tag) ending

/-- A tag is created right after it was deleted and deleted right after it was found, no commit is made once
a tag was touched, and nothing else is done to tags. -/
structure Ordered (log : List Event) : Prop where
  created (tag : String) : Guarded (IsCreation tag) (Deleted tag) log
  deleted (tag : String) : Guarded (IsDeletion tag) (Ready tag) log
  commit : Guarded IsCommit (fun before => ∀ event ∈ before, ¬ IsTagWork event) log
  only : ∀ event ∈ log, IsTagWork event → ∃ tag, IsCreation tag event ∨ IsDeletion tag event

/-- A tag that is found is deleted, and when that succeeds it is created. -/
def Moved (log : List Event) : Prop :=
  ∀ commit tag found, Found commit tag [found] → found ∈ log →
    ∃ deleted, .did (deletion tag) deleted ∈ log ∧
      (deleted.Succeeded → ∃ event ∈ log, IsCreation tag event)

def Sound (log : List Event) : Prop := Ordered log ∧ Moved log

/-- Nothing is done to a tag, and none is found. -/
structure IsCalm (event : Event) : Prop where
  untagged : ¬ IsTagWork event
  unfound (commit tag : String) : ¬ Found commit tag [event]

def Calm (log : List Event) : Prop := ∀ event ∈ log, IsCalm event

theorem IsDeletion.isTagWork {tag : String} {event : Event} (hdeletion : IsDeletion tag event) :
    IsTagWork event := by
  obtain ⟨ending, rfl⟩ := hdeletion
  exact ⟨_, ending, rfl⟩

theorem IsCreation.isTagWork {tag : String} {event : Event} (hcreation : IsCreation tag event) :
    IsTagWork event := by
  obtain ⟨ending, rfl⟩ := hcreation
  exact ⟨_, ending, rfl⟩

theorem isCalm_did {words : List String} {ending : Ending} (htag : words.take 2 ≠ ["git", "tag"])
    (hfound : ∀ commit, words = describing commit → ¬ ending.Succeeded) : IsCalm (.did words ending) where
  untagged := by
    rintro ⟨rest, _, hevent⟩
    exact htag ((Event.did_inj.mp hevent).1 ▸ rfl)
  unfound commit tag := by
    rintro ⟨described, hsucceeded, -, hevent⟩
    obtain ⟨hwords, rfl⟩ := Event.did_inj.mp (List.singleton_inj.mp hevent)
    exact hfound commit hwords hsucceeded

theorem Calm.concat {log : List Event} {event : Event} (hcalm : Calm log) (hevent : IsCalm event) :
    Calm (log ++ [event]) :=
  List.forall_mem_append.mpr ⟨hcalm, List.forall_mem_singleton.mpr hevent⟩

theorem Calm.ordered {log : List Event} (hcalm : Calm log) : Ordered log where
  created tag := guarded_of_forall_not fun event hevent hcreation =>
    (hcalm event hevent).untagged hcreation.isTagWork
  deleted tag := guarded_of_forall_not fun event hevent hdeletion =>
    (hcalm event hevent).untagged hdeletion.isTagWork
  commit := by
    intro before event after hlog _ other hother
    exact (hcalm other (by simp [hlog, hother])).untagged
  only event hevent htag := absurd htag (hcalm event hevent).untagged

theorem Calm.sound {log : List Event} (hcalm : Calm log) : Sound log := by
  refine ⟨hcalm.ordered, ?_⟩
  intro commit tag found hfound hmem
  exact absurd hfound ((hcalm found hmem).unfound commit tag)

/-- One more event leaves a log in order if what belongs before the event is all that happened. -/
theorem Ordered.concat {log : List Event} (hordered : Ordered log) {event : Event}
    (hcreated : ∀ tag, IsCreation tag event → Deleted tag log)
    (hdeleted : ∀ tag, IsDeletion tag event → Ready tag log)
    (hcommit : ¬ IsCommit event)
    (honly : IsTagWork event → ∃ tag, IsCreation tag event ∨ IsDeletion tag event) :
    Ordered (log ++ [event]) where
  created tag := guarded_concat.mpr ⟨hordered.created tag, hcreated tag⟩
  deleted tag := guarded_concat.mpr ⟨hordered.deleted tag, hdeleted tag⟩
  commit := guarded_concat.mpr ⟨hordered.commit, fun h => absurd h hcommit⟩
  only other hother := by
    rcases List.mem_append.mp hother with hother | hother
    · exact hordered.only other hother
    · rw [List.mem_singleton.mp hother]
      exact honly

theorem Ordered.concat_of_not_isTagWork {log : List Event} (hordered : Ordered log) {event : Event}
    (htag : ¬ IsTagWork event) (hcommit : ¬ IsCommit event) : Ordered (log ++ [event]) :=
  hordered.concat (fun _ h => absurd h.isTagWork htag) (fun _ h => absurd h.isTagWork htag) hcommit
    fun h => absurd h htag

/-! ## Step by step -/

/-- A piece of the script, which may also end the script. -/
abbrev Proceeds {α : Type} (scenario : Scenario) (required : List Event → Prop) (work : Script α)
    (done : α → List Event → Prop) : Prop :=
  Triple scenario required work done Sound Sound

section Steps

variable {scenario : Scenario} {α : Type} {events : List Event} {done : α → List Event → Prop}

/-- The next command is the next event. -/
theorem run_bind_eq {words : List String} {check : Bool} {env : List (String × String)}
    {next : Outcome → Script α}
    (hnext : ∀ ending : Ending, (check = true → ending.Succeeded) →
      Proceeds scenario (· = events ++ [.did words ending]) (next ending.outcome) done)
    (hfailed : ∀ ending : Ending, check = true → ¬ ending.Succeeded →
      Sound (events ++ [.did words ending])) :
    Proceeds scenario (· = events) (run words check env >>= next) done := by
  apply Triple.run_bind
  · intro ending hending
    apply (hnext ending hending).of_imp
    rintro log ⟨before, rfl, rfl⟩
    rfl
  · rintro ending before hcheck hending rfl
    exact hfailed ending hcheck hending

/-- A command that does nothing to tags and looks for none on a commit. -/
theorem run_bind_calm {words : List String} {check : Bool} {env : List (String × String)}
    {next : Outcome → Script α} (hcalm : Calm events) (htag : words.take 2 ≠ ["git", "tag"])
    (hfound : ∀ commit, words ≠ describing commit)
    (hnext : ∀ ending : Ending, (check = true → ending.Succeeded) → Calm (events ++ [.did words ending]) →
      Proceeds scenario (· = events ++ [.did words ending]) (next ending.outcome) done) :
    Proceeds scenario (· = events) (run words check env >>= next) done := by
  have hmore (ending : Ending) : Calm (events ++ [.did words ending]) :=
    hcalm.concat (isCalm_did htag fun commit hwords => absurd hwords (hfound commit))
  apply run_bind_eq
  · exact fun ending hending => hnext ending hending (hmore ending)
  · exact fun ending _ _ => (hmore ending).sound

theorem describing_ne {words : List String} (hlength : words.length ≠ 5) (commit : String) :
    words ≠ describing commit := by
  rintro rfl
  exact hlength rfl

theorem stage_bind {next : Unit → Script α} (hcalm : Calm events)
    (hnext : ∀ staged : Ending, staged.Succeeded → Calm (events ++ [.did staging staged]) →
      Proceeds scenario (· = events ++ [.did staging staged]) (next ()) done) :
    Proceeds scenario (· = events) (stage >>= next) done := by
  rw [stage, bind_assoc]
  apply run_bind_calm hcalm (by decide) (describing_ne (by decide))
  intro staged hstaged hmore
  exact hnext staged (hstaged rfl) hmore

theorem amend_bind {next : Unit → Script α} (hcalm : Calm events)
    (hnext : ∀ amended : Ending, amended.Succeeded → Calm (events ++ [.did amending amended]) →
      Proceeds scenario (· = events ++ [.did amending amended]) (next ()) done) :
    Proceeds scenario (· = events) (amend >>= next) done := by
  rw [amend, bind_assoc]
  apply run_bind_calm hcalm (by decide) (by simp [describing])
  intro amended hamended hmore
  exact hnext amended (hamended rfl) hmore

/-- A part of the way has been gone, and nothing was done to a tag. -/
def Reached (events : List Event) (kind : List Event → Prop) (log : List Event) : Prop :=
  ∃ added, (kind added ∧ Calm (events ++ added)) ∧ log = events ++ added

/-- After formatting, what has changed is put into the commit as well. -/
theorem amendAgain_proceeds {first : List Event} {formatted : Ending}
    (hcalm : Calm (events ++ first ++ [.did formatting formatted])) (hfirst : Amended first) :
    Proceeds scenario (· = events ++ first ++ [.did formatting formatted])
      (do
        if ← hasChanges then
          say "4. Formatters modified files, amending again..."
          stage
          amend
          say "   OK: Changes incorporated into release commit"
        else say "4. No additional changes needed")
      fun _ => Reached events Completed := by
  rw [hasChanges, bind_assoc]
  apply run_bind_calm hcalm (by decide) (describing_ne (by decide))
  intro told _ hcalm
  have hcheck : Formatted (strip told.out)
      [.did formatting formatted, .did ["git", "status", "--porcelain"] told] :=
    ⟨formatted, told, rfl, rfl⟩
  rw [Ending.trimmed_out, pure_bind, pure_bind]
  split
  next hchanged =>
    have hchanges : strip told.out ≠ "" := by simpa using hchanged
    refine .say_bind (stage_bind hcalm fun staged hstaged hcalm => ?_)
    refine amend_bind hcalm fun amended hamended hcalm => ?_
    have hsecond : Amended [.did staging staged, .did amending amended] :=
      ⟨staged, amended, hstaged, hamended, rfl⟩
    apply Triple.say
    rintro log rfl
    refine ⟨_, ⟨.twice hfirst hcheck hchanges hsecond, ?_⟩, ?_⟩
    · simpa using hcalm
    · simp
  next hsame =>
    have hclean : strip told.out = "" := by simpa using hsame
    rw [hclean] at hcheck
    apply Triple.say
    rintro log rfl
    refine ⟨_, ⟨.once hfirst hcheck, ?_⟩, ?_⟩
    · simpa using hcalm
    · simp

theorem amendChangelogs_proceeds (hcalm : Calm events) :
    Proceeds scenario (· = events) amendChangelogs fun _ => Reached events Completed := by
  unfold amendChangelogs
  refine .say_bind (stage_bind hcalm fun staged hstaged hcalm => .say_bind ?_)
  refine amend_bind hcalm fun amended hamended hcalm => .say_bind ?_
  apply run_bind_calm hcalm (by decide) (by simp [describing, changelogs])
  intro formatted _ hcalm
  have hfirst : Amended [.did staging staged, .did amending amended] :=
    ⟨staged, amended, hstaged, hamended, rfl⟩
  rw [List.append_assoc events] at hcalm ⊢
  have hrest : Proceeds scenario _ _ _ := amendAgain_proceeds hcalm hfirst
  split
  · exact hrest
  · exact .say_bind hrest

theorem sayFinalized_bind {next : Unit → Script α} (hcalm : Calm events)
    (hnext : ∀ shown, Shown shown → Calm (events ++ shown) →
      Proceeds scenario (· = events ++ shown) (next ()) done) :
    Proceeds scenario (· = events) (sayFinalized >>= next) done := by
  rw [sayFinalized, output, bind_assoc, bind_assoc]
  apply run_bind_calm hcalm (by decide) (describing_ne (by decide))
  intro shown hshown hcalm
  rw [Ending.trimmed_out, pure_bind]
  exact .say_bind (hnext _ ⟨shown, hshown rfl, rfl⟩ hcalm)

/-- A tag on the last commit is only told. -/
theorem reportTag_proceeds (hcalm : Calm events) :
    Proceeds scenario (· = events) reportTag fun _ => Sound := by
  unfold reportTag
  apply run_bind_calm hcalm (by decide) (describing_ne (by decide))
  intro described _ hcalm
  have hsound : ∀ log, log = events ++ [.did ["git", "describe", "--tags", "--exact-match"] described] →
      Sound log := by
    rintro log rfl
    exact hcalm.sound
  split
  · rw [Ending.trimmed_out, pure_bind]
    exact .say_bind (.sayAll hsound)
  · exact .sayAll hsound

/-! ## Moving the tag -/

/-- The log once a tag was found: all is in order, and no other tag was found. -/
structure Touching (tag : String) (log : List Event) : Prop where
  ordered : Ordered log
  found (commit other : String) (event : Event) (hfound : Found commit other [event])
    (hmem : event ∈ log) : other = tag

namespace Touching

variable {tag : String} {log : List Event}

theorem concat (htouching : Touching tag log) {words : List String} {ending : Ending}
    (hordered : Ordered (log ++ [.did words ending])) (hwords : words.length ≠ 5) :
    Touching tag (log ++ [.did words ending]) where
  ordered := hordered
  found commit other event hfound hmem := by
    rcases List.mem_append.mp hmem with hmem | hmem
    · exact htouching.found commit other event hfound hmem
    · obtain ⟨described, -, -, hevent⟩ := hfound
      rw [List.mem_singleton.mp hmem, List.singleton_inj, Event.did_inj] at hevent
      exact absurd hevent.1 (describing_ne hwords commit)

theorem delete (htouching : Touching tag log) (hready : Ready tag log) (ending : Ending) :
    Touching tag (log ++ [.did (deletion tag) ending]) := by
  apply htouching.concat _ (by simp [deletion])
  apply htouching.ordered.concat
  · rintro other ⟨_, hevent⟩
    simp [deletion, creation] at hevent
  · rintro other ⟨_, hevent⟩
    obtain rfl : tag = other := by simpa [deletion] using (Event.did_inj.mp hevent).1
    exact hready
  · rintro ⟨rest, _, hevent⟩
    simp [deletion] at hevent
  · exact fun _ => ⟨tag, .inr ⟨ending, rfl⟩⟩

theorem create (htouching : Touching tag log) (hdeleted : Deleted tag log) (ending : Ending) :
    Touching tag (log ++ [.did (creation tag) ending]) := by
  apply htouching.concat _ (by simp [creation])
  apply htouching.ordered.concat
  · rintro other ⟨_, hevent⟩
    obtain rfl : tag = other := by simpa [creation] using (Event.did_inj.mp hevent).1
    exact hdeleted
  · rintro other ⟨_, hevent⟩
    simp [deletion, creation] at hevent
  · rintro ⟨rest, _, hevent⟩
    simp [creation] at hevent
  · exact fun _ => ⟨tag, .inl ⟨ending, rfl⟩⟩

theorem concat_shown (htouching : Touching tag log) (ending : Ending) :
    Touching tag (log ++ [.did ["git", "log", "-1", "--oneline"] ending]) := by
  apply htouching.concat _ (by decide)
  apply htouching.ordered.concat_of_not_isTagWork
  · rintro ⟨rest, _, hevent⟩
    simp at hevent
  · rintro ⟨rest, _, hevent⟩
    simp at hevent

theorem sound (htouching : Touching tag log) (deleted : Ending)
    (hdeleted : .did (deletion tag) deleted ∈ log)
    (hcreated : deleted.Succeeded → ∃ event ∈ log, IsCreation tag event) : Sound log := by
  refine ⟨htouching.ordered, ?_⟩
  intro commit other event hfound hmem
  obtain rfl := htouching.found commit other event hfound hmem
  exact ⟨deleted, hdeleted, hcreated⟩

end Touching

theorem moveTag_proceeds {tag commit : String} (hready : Ready tag events)
    (htouching : Touching tag events) :
    Proceeds scenario (· = events) (moveTag tag commit) fun _ => Sound := by
  unfold moveTag
  refine .say_bind (run_bind_eq (fun deleted hdeleted => ?_) fun deleted _ hfailed => ?_)
  · have hgone : Deleted tag (events ++ [.did (deletion tag) deleted]) :=
      ⟨events, deleted, hready, hdeleted rfl, rfl⟩
    have hcreated (created : Ending) := (htouching.delete hready deleted).create hgone created
    refine run_bind_eq (fun created _ => .say_bind ?_) fun created _ _ => ?_
    · have hsound (shown : Ending) := ((hcreated created).concat_shown shown).sound deleted (by simp)
        fun _ => ⟨_, by simp, created, rfl⟩
      rw [sayFinalized, output, bind_assoc, bind_assoc]
      refine run_bind_eq (fun shown _ => ?_) fun shown _ _ => hsound shown
      rw [Ending.trimmed_out, pure_bind]
      refine .say_bind (.say_bind (.sayAll ?_))
      rintro log rfl
      exact hsound shown
    · exact (hcreated created).sound deleted (by simp) fun _ => ⟨_, by simp, created, rfl⟩
  · exact (htouching.delete hready deleted).sound deleted (by simp) fun hdeleted =>
      absurd hdeleted hfailed

/-- The log once a tag was found on the first commit. -/
theorem touching_found {commit : String} {described : Ending} (hcalm : Calm events) :
    Touching (strip described.out) (events ++ [.did (describing commit) described]) where
  ordered := by
    apply hcalm.ordered.concat_of_not_isTagWork
    · rintro ⟨rest, _, hevent⟩
      simp [describing] at hevent
    · rintro ⟨rest, _, hevent⟩
      simp [describing] at hevent
  found other tag event hfound hmem := by
    rcases List.mem_append.mp hmem with hmem | hmem
    · exact absurd hfound ((hcalm event hmem).unfound other tag)
    · obtain ⟨found, -, rfl, hevent⟩ := hfound
      rw [List.mem_singleton.mp hmem, List.singleton_inj, Event.did_inj] at hevent
      rw [hevent.2]

theorem body_proceeds : Proceeds scenario (· = []) body fun _ => Sound := by
  unfold body
  refine .say_bind ?_
  rw [output, bind_assoc]
  refine run_bind_calm (by simp [Calm]) (by decide) (describing_ne (by decide)) fun head hhead hcalm => ?_
  have hnoted : Noted (strip head.out) [.did ["git", "rev-parse", "HEAD"] head] :=
    ⟨head, hhead rfl, rfl, rfl⟩
  rw [Ending.trimmed_out, pure_bind]
  refine .say_bind ((amendChangelogs_proceeds hcalm).bind fun _ => .of_exists fun completed hcompleted => ?_)
  refine sayFinalized_bind hcompleted.2 fun shown hshown hcalm => ?_
  refine run_bind_eq (fun described _ => ?_) (by simp)
  split
  next hok =>
    have hfound : Found (strip head.out) (strip described.out)
        [.did (describing (strip head.out)) described] :=
      ⟨described, described.ok_outcome.mp hok, rfl, rfl⟩
    rw [Ending.trimmed_out, pure_bind]
    exact moveTag_proceeds (.intro hnoted hcompleted.1 hshown hfound) (touching_found hcalm)
  next hfailed =>
    apply reportTag_proceeds
    apply hcalm.concat
    apply isCalm_did (by simp)
    exact fun _ _ hsucceeded => hfailed (described.ok_outcome.mpr hsucceeded)

end Steps

theorem script_proceeds {scenario : Scenario} : Proceeds scenario (· = []) script fun _ => Sound := by
  unfold script
  have hexit : Triple scenario Sound (exit 1) (fun _ : Unit => Sound) Sound Sound := .exit fun _ h => h
  have herr {failure : Failure} : Triple scenario Sound
      (do
        if failure.outcome.err.isTruthy then complain s!"stderr: {failure.outcome.err.text}"
        exit 1)
      (fun _ : Unit => Sound) Sound Sound := by
    dsimp only
    split
    · exact .complain_bind hexit
    · exact hexit
  apply body_proceeds.orOnFailure
  intro failure
  refine .complain_bind ?_
  dsimp only
  split
  · exact .complain_bind herr
  · exact herr

/-- Whatever the commands do, a tag is created only after it was found on the commit that was the last one at
first, after that commit was amended as often as there were changes, and right after the tag was deleted; no
commit is made after that, and no other tag is touched. A tag that is found is moved unless it cannot be
deleted. -/
theorem tag_moved_to_last_commit (scenario : Scenario) (console : Console) :
    Ordered (scenario.logOf script console) ∧ Moved (scenario.logOf script console) :=
  script_proceeds.logOf rfl console

end AppSurvey.Release.Finalize
