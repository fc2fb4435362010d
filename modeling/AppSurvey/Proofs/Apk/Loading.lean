import AppSurvey.Apk.Package
import AppSurvey.Proofs.Talk

/-!
# Parts that are loaded once

The study of a package gets three parts of it from the reader: the manifest, the classes and a survey of
the entry points. Many operations need them, and each gets them through the memory of the study. `Part.runs`
reads off the questions how every load of a part has ended. After any operations these are some failures
and then at most one success, whose object is the one that is remembered, and what an operation does is what
it does with the remembered objects at hand.
-/

namespace AppSurvey.Apk

/-! ## Parts and operations -/

/-- The parts that a study remembers. -/
inductive Part where
  | manifest
  | classes
  | survey

namespace Part

/-- What is remembered of a part. -/
abbrev Object : Part → Type
  | .manifest | .classes => Value
  | .survey => SurveyResults

/-- The object that is remembered, if the part is loaded. -/
def remembered : (part : Part) → Memory → Option part.Object
  | .manifest => Memory.manifest?
  | .classes => Memory.classes?
  | .survey => Memory.survey

/-- The memory with an object of the part. -/
def remember : (part : Part) → part.Object → Memory → Memory
  | .manifest => fun manifest memory => { memory with manifest }
  | .classes => fun classes memory => { memory with classes }
  | .survey => fun survey memory => { memory with survey := some survey }

/-- The load of the part that begins with a question. -/
def load? : (part : Part) → ReaderQuestion → Option (Study part.Object)
  | .manifest, .manifest path => some (Study.ask (.manifest path))
  | .classes, .classes path parallel => some (Study.ask (.classes path parallel))
  | .survey, .beginSurvey path => some (Package.readSurvey path)
  | _, _ => none

/-- How the loads of the part that were run have ended, the first of them first. The questions are given
latest first. -/
def runs (part : Part) (partner : Partner ReaderQuestion) :
    List ReaderQuestion → List (Except StudyError part.Object)
  | [] => []
  | question :: before =>
      part.runs partner before ++
        ((part.load? question).map fun load =>
          (load.perform partner { asked := before, state := {} }).1).toList

/-- The loads that were run have failed, up to one at the end, whose object is remembered. -/
def Kept (part : Part) (partner : Partner ReaderQuestion) (session : Session ReaderQuestion Memory) :
    Prop :=
  ∃ failures : List StudyError,
    part.runs partner session.asked =
      failures.map Except.error ++ (part.remembered session.state).toList.map Except.ok

/-- The object of the part that is at hand, or else a load, whose object is remembered. -/
def fetch (part : Part) (load : Study part.Object) : Option part.Object → Study part.Object
  | some object => pure object
  | none => do
      let object ← load
      Talk.change (part.remember object)
      return object

end Part

/-- Where the parts come from. -/
structure Sources where
  manifest : Study Value
  classes : (parallel : Value) → Study Value
  survey : Study SurveyResults

/-- The parts of a package as far as they are in a memory; the others are loaded from the reader. -/
def Package.sources (package : Package) (memory : Memory) : Sources where
  manifest := Part.manifest.fetch (Study.ask (.manifest package.path.text)) memory.manifest?
  classes parallel :=
    Part.classes.fetch (Study.ask (.classes package.path.text parallel)) memory.classes?
  survey := Part.survey.fetch (Package.readSurvey package.path.text) memory.survey

/-- What can be asked of a study and needs one of the parts. -/
inductive Operation where
  | manifest
  | classes (parallel : Value)
  | statistics
  | packageNames
  | packageGroups
  | libraries
  | webViewUsage
  | survey
  | text

namespace Operation

/-- What an operation answers. -/
abbrev Answer : Operation → Type
  | .manifest | .classes _ => Value
  | .statistics => Statistics
  | .packageNames => List Value
  | .packageGroups => Keyed String (List String)
  | .libraries => Keyed String Nat
  | .webViewUsage => WebViewUsage
  | .survey => SurveyResults
  | .text => String

/-- The operation on a package. -/
def run (package : Package) : (operation : Operation) → Study operation.Answer
  | .manifest => package.manifest
  | .classes parallel => package.classes parallel
  | .statistics => package.statistics
  | .packageNames => package.packageNames
  | .packageGroups => package.packageGroups
  | .libraries => package.libraries
  | .webViewUsage => package.webViewUsage
  | .survey => package.survey
  | .text => package.text

/-- What the operation makes of the parts, wherever they come from. -/
def runWith (package : Package) (sources : Sources) : (operation : Operation) → Study operation.Answer
  | .manifest => sources.manifest
  | .classes parallel => sources.classes parallel
  | .statistics => do
      let counts ← Study.use (ClassCounts.of (← sources.classes (.bool true)))
      let manifest ← sources.manifest
      Study.use (Statistics.ofParts (← Package.contents) counts manifest)
  | .packageNames => do Study.use (packageNamesOf (← sources.classes (.bool true)))
  | .packageGroups => do Study.use (packageGroupsOf (← sources.classes (.bool true)))
  | .libraries => do
      let groups ← Study.use (packageGroupsOf (← sources.classes (.bool true)))
      Study.use (librariesBeside (← sources.manifest) groups)
  | .webViewUsage => do
      let found ← package.findClasses (.string "WebView") .null .null {}
      Study.use (WebViewUsage.ofParts found (← sources.classes (.bool true)))
  | .survey => sources.survey
  | .text => do
      let manifest ← sources.manifest
      Study.use (package.describe (← Package.contents) manifest)

end Operation

/-- The session after operations, each of which may fail. -/
def Package.after (package : Package) (partner : Partner ReaderQuestion)
    (session : Session ReaderQuestion Memory) (operations : List Operation) :
    Session ReaderQuestion Memory :=
  operations.foldl (fun session operation => ((operation.run package).perform partner session).2) session

/-- The reader never tells nothing: it gives a value or fails. -/
def TellsValues (partner : Partner ReaderQuestion) : Prop :=
  ∀ before question value, partner before question = .ok value → value.isNull = false

/-! ## Single loads -/

/-- Work that begins no load. It leaves the memory as it is and does not depend on it. -/
def Study.IsAside {α : Type} (work : Study α) : Prop :=
  ∀ partner asked, ∃ outcome later, (∀ question ∈ later, ∀ part : Part, part.load? question = none) ∧
    ∀ memory, work.perform partner { asked, state := memory } =
      (outcome, { asked := later ++ asked, state := memory })

theorem perform_ask (question : ReaderQuestion) (partner : Partner ReaderQuestion)
    (asked : List ReaderQuestion) (memory : Memory) :
    (Study.ask question).perform partner { asked, state := memory } =
      ((partner asked question).mapError StudyError.reader,
        { asked := question :: asked, state := memory }) := by
  rw [Study.ask, Talk.perform_bind, Talk.perform_ask]
  cases partner asked question <;> rfl

namespace Study

variable {α β : Type}

theorem isAside_pure (a : α) : (pure a : Study α).IsAside :=
  fun _ _ => ⟨.ok a, [], by simp, fun _ => rfl⟩

theorem isAside_use (result : Except Misuse α) : (Study.use result).IsAside := by
  intro partner asked
  cases result with
  | error fault => exact ⟨.error (.misuse fault), [], by simp, fun _ => rfl⟩
  | ok a => exact ⟨.ok a, [], by simp, fun _ => rfl⟩

theorem isAside_ask {question : ReaderQuestion} (hquestion : ∀ part : Part, part.load? question = none) :
    (Study.ask question).IsAside := by
  intro partner asked
  exact ⟨_, [question], by simpa using hquestion, perform_ask question partner asked⟩

theorem IsAside.bind {work : Study α} (hwork : work.IsAside) {next : α → Study β}
    (hnext : ∀ a, (next a).IsAside) : (work >>= next).IsAside := by
  intro partner asked
  obtain ⟨outcome, later, hlater, hperform⟩ := hwork partner asked
  cases outcome with
  | error e => exact ⟨.error e, later, hlater, fun memory => by rw [Talk.perform_bind, hperform]⟩
  | ok a =>
      obtain ⟨outcome, latest, hlatest, hrest⟩ := hnext a partner (later ++ asked)
      refine ⟨outcome, latest ++ later, ?_, fun memory => ?_⟩
      · exact List.forall_mem_append.mpr ⟨hlatest, hlater⟩
      · rw [Talk.perform_bind, hperform, List.append_assoc]
        exact hrest memory

end Study

theorem isAside_surveyPart (begun : Value) (part : SurveyPart) :
    (Package.surveyPart begun part).IsAside :=
  (Study.isAside_use _).bind fun _ => Study.isAside_ask (by rintro (_ | _ | _) <;> rfl)

theorem isNull_of_perform_ask {partner : Partner ReaderQuestion} (hvalues : TellsValues partner)
    {question : ReaderQuestion} {session : Session ReaderQuestion Memory} {value : Value}
    (hask : ((Study.ask question).perform partner session).1 = .ok value) : value.isNull = false := by
  rw [perform_ask] at hask
  cases hanswer : partner session.asked question with
  | error message => rw [hanswer] at hask; cases hask
  | ok told =>
      rw [hanswer] at hask
      cases hask
      exact hvalues _ _ _ hanswer

namespace Part

/-- Work that loads a part: its first question begins the load, and no other begins one. It leaves the
memory as it is and does not depend on it, and its object can be remembered. -/
structure IsLoad (part : Part) (load : Study part.Object) (partner : Partner ReaderQuestion) : Prop where
  perform_eq : ∀ asked, ∃ outcome question later,
    part.load? question = some load ∧ (∀ other : Part, other ≠ part → other.load? question = none) ∧
      (∀ question ∈ later, ∀ part : Part, part.load? question = none) ∧
      ∀ memory, load.perform partner { asked, state := memory } =
        (outcome, { asked := later ++ question :: asked, state := memory })
  remembered_eq : ∀ session object, (load.perform partner session).1 = .ok object →
    ∀ memory, part.remembered (part.remember object memory) = some object

theorem isLoad_manifest {partner : Partner ReaderQuestion} (hvalues : TellsValues partner)
    (path : String) : Part.manifest.IsLoad (Study.ask (.manifest path)) partner where
  perform_eq asked := by
    refine ⟨_, .manifest path, [], rfl, ?_, by simp, perform_ask _ partner asked⟩
    rintro (_ | _ | _) hother
    exacts [absurd rfl hother, rfl, rfl]
  remembered_eq session manifest hload memory := by
    have hmanifest := isNull_of_perform_ask hvalues hload
    simp [remembered, remember, Memory.manifest?, hmanifest]

theorem isLoad_classes {partner : Partner ReaderQuestion} (hvalues : TellsValues partner)
    (path : String) (parallel : Value) :
    Part.classes.IsLoad (Study.ask (.classes path parallel)) partner where
  perform_eq asked := by
    refine ⟨_, .classes path parallel, [], rfl, ?_, by simp, perform_ask _ partner asked⟩
    rintro (_ | _ | _) hother
    exacts [rfl, absurd rfl hother, rfl]
  remembered_eq session classes hload memory := by
    have hclasses := isNull_of_perform_ask hvalues hload
    simp [remembered, remember, Memory.classes?, hclasses]

theorem isLoad_survey (partner : Partner ReaderQuestion) (path : String) :
    Part.survey.IsLoad (Package.readSurvey path) partner where
  perform_eq asked := by
    -- What comes after the first question begins no load.
    have hrest : ∀ begun, Study.IsAside (do
        let entryPoints ← Package.surveyPart begun .entryPoints
        let deeplinkHandlers ← Package.surveyPart begun .deeplinkHandlers
        let stats ← Package.surveyPart begun .stats
        return ({ begun, entryPoints, deeplinkHandlers, stats } : SurveyResults)) := fun begun =>
      (isAside_surveyPart begun _).bind fun _ => (isAside_surveyPart begun _).bind fun _ =>
        (isAside_surveyPart begun _).bind fun _ => Study.isAside_pure _
    have hother : ∀ other : Part, other ≠ .survey → other.load? (.beginSurvey path) = none := by
      rintro (_ | _ | _) hother
      exacts [rfl, rfl, absurd rfl hother]
    cases hanswer : partner asked (.beginSurvey path) with
    | error message =>
        refine ⟨.error (.reader message), .beginSurvey path, [], rfl, hother, by simp, fun memory => ?_⟩
        rw [Package.readSurvey, Talk.perform_bind, perform_ask, hanswer]
        rfl
    | ok begun =>
        obtain ⟨outcome, later, hlater, hperform⟩ := hrest begun partner (.beginSurvey path :: asked)
        refine ⟨outcome, .beginSurvey path, later, rfl, hother, hlater, fun memory => ?_⟩
        rw [Package.readSurvey, Talk.perform_bind, perform_ask, hanswer]
        exact hperform memory
  remembered_eq _ _ _ _ := rfl

/-! ## What a load leaves behind -/

variable {part : Part} {partner : Partner ReaderQuestion}

theorem runs_append {later : List ReaderQuestion}
    (hlater : ∀ question ∈ later, part.load? question = none) (before : List ReaderQuestion) :
    part.runs partner (later ++ before) = part.runs partner before := by
  induction later with
  | nil => rfl
  | cons question later ih =>
      obtain ⟨hquestion, hlater⟩ := List.forall_mem_cons.mp hlater
      rw [List.cons_append, runs, hquestion, ih hlater]
      exact List.append_nil _

theorem remembered_remember_of_ne {other : Part} (hother : other ≠ part) (object : part.Object)
    (memory : Memory) :
    other.remembered (part.remember object memory) = other.remembered memory := by
  cases part <;> cases other
  case manifest.manifest | classes.classes | survey.survey => exact absurd rfl hother
  all_goals rfl

/-- A part that is remembered is at hand, and any other is loaded. -/
theorem perform_once (part : Part) (load : Study part.Object) (session : Session ReaderQuestion Memory) :
    (Study.once part.remembered part.remember load).perform partner session =
      (part.fetch load (part.remembered session.state)).perform partner session := by
  rw [Study.once, Talk.perform_bind, Talk.perform_state]
  dsimp only
  cases part.remembered session.state <;> rfl

/-- The memory after a load: an object is remembered, a failure is not. -/
def noted (part : Part) : Except StudyError part.Object → Memory → Memory
  | .error _, memory => memory
  | .ok object, memory => part.remember object memory

theorem remembered_noted_of_ne {other : Part} (hother : other ≠ part)
    (outcome : Except StudyError part.Object) (memory : Memory) :
    other.remembered (part.noted outcome memory) = other.remembered memory := by
  cases outcome with
  | error e => rfl
  | ok object => exact remembered_remember_of_ne hother object memory

/-- A load that is run ends the list of loads of its part. The other parts have no load more. -/
theorem IsLoad.perform_fetch {load : Study part.Object} (hload : part.IsLoad load partner)
    (asked : List ReaderQuestion) (memory : Memory) :
    ∃ outcome asked', part.runs partner asked' = part.runs partner asked ++ [outcome] ∧
      (∀ other : Part, other ≠ part → other.runs partner asked' = other.runs partner asked) ∧
      (part.fetch load none).perform partner { asked, state := memory } =
        (outcome, { asked := asked', state := part.noted outcome memory }) ∧
      ∀ object, outcome = .ok object → part.remembered (part.remember object memory) = some object := by
  obtain ⟨outcome, question, later, hbegins, hothers, hlater, hperform⟩ := hload.perform_eq asked
  refine ⟨outcome, later ++ question :: asked, ?_, ?_, ?_, ?_⟩
  · rw [runs_append fun question hquestion => hlater question hquestion part, runs, hbegins,
      Option.map_some, hperform]
    rfl
  · intro other hother
    rw [runs_append fun question hquestion => hlater question hquestion other, runs,
      hothers other hother]
    exact List.append_nil _
  · rw [fetch, Talk.perform_bind, hperform]
    cases outcome <;> rfl
  · rintro object rfl
    exact hload.remembered_eq { asked, state := memory } object (by rw [hperform]) memory

theorem IsLoad.remembered_once_of_ne {load : Study part.Object} (hload : part.IsLoad load partner)
    {other : Part} (hother : other ≠ part) (session : Session ReaderQuestion Memory) :
    other.remembered
        ((Study.once part.remembered part.remember load).perform partner session).2.state =
      other.remembered session.state := by
  rw [perform_once]
  cases part.remembered session.state with
  | some object => rfl
  | none =>
      obtain ⟨outcome, asked, -, -, hperform, -⟩ := hload.perform_fetch session.asked session.state
      rw [hperform]
      exact remembered_noted_of_ne hother outcome session.state

end Part

/-! ## Work that uses the memory -/

/-- A session goes on from an earlier one: further loads of the part may have been run, and what was
remembered still is. -/
structure Part.Continues (part : Part) (partner : Partner ReaderQuestion)
    (earlier later : Session ReaderQuestion Memory) : Prop where
  kept : part.Kept partner later
  runs_prefix : part.runs partner earlier.asked <+: part.runs partner later.asked
  remembered : ∀ object, part.remembered earlier.state = some object →
    part.remembered later.state = some object

/-- Once a part is remembered, no load of it is run any more. -/
theorem Part.Continues.runs_eq {part : Part} {partner : Partner ReaderQuestion}
    {earlier later : Session ReaderQuestion Memory} (hcontinues : part.Continues partner earlier later)
    (hkept : part.Kept partner earlier) {object : part.Object}
    (hobject : part.remembered earlier.state = some object) :
    part.runs partner later.asked = part.runs partner earlier.asked := by
  obtain ⟨⟨failures, hlater⟩, hruns, hremembered⟩ := hcontinues
  obtain ⟨others, hearlier⟩ := hkept
  rw [hobject] at hearlier
  rw [hremembered object hobject] at hlater
  rw [hlater, hearlier] at hruns ⊢
  -- The success is the last load of both lists, since it is none of the failures.
  rcases List.prefix_concat_iff.mp hruns with heq | hfailures
  · exact heq.symm
  · have hmem := hfailures.subset (List.mem_append_right _ (List.mem_singleton_self _))
    simp at hmem

/-- Work from whose sessions a study goes on with all parts. -/
def Study.Upholds {α : Type} (work : Study α) (partner : Partner ReaderQuestion) : Prop :=
  ∀ (session : Session ReaderQuestion Memory) (part : Part), part.Kept partner session →
    part.Continues partner session (work.perform partner session).2

namespace Study

variable {α β : Type} {partner : Partner ReaderQuestion}

theorem upholds_of_isQuiet {work : Study α} (hwork : Talk.IsQuiet work) : work.Upholds partner := by
  intro session part hkept
  rw [hwork partner session]
  exact ⟨hkept, List.prefix_rfl, fun _ hobject => hobject⟩

theorem IsAside.upholds {work : Study α} (hwork : work.IsAside) : work.Upholds partner := by
  rintro ⟨asked, memory⟩ part ⟨failures, hruns⟩
  obtain ⟨outcome, later, hlater, hperform⟩ := hwork partner asked
  have hsame : part.runs partner (later ++ asked) = part.runs partner asked :=
    Part.runs_append (fun question hquestion => hlater question hquestion part) asked
  rw [hperform]
  exact ⟨⟨failures, hsame.trans hruns⟩, hsame ▸ List.prefix_rfl, fun _ hobject => hobject⟩

theorem upholds_change {change : Memory → Memory}
    (hchange : ∀ (part : Part) memory, part.remembered (change memory) = part.remembered memory) :
    Upholds (Talk.change change) partner := by
  rintro ⟨asked, memory⟩ part ⟨failures, hruns⟩
  rw [Talk.perform_change]
  refine ⟨⟨failures, ?_⟩, List.prefix_rfl, fun object hobject => (hchange part memory).trans hobject⟩
  rw [hruns, hchange part memory]

theorem Upholds.bind {work : Study α} (hwork : work.Upholds partner) {next : α → Study β}
    (hnext : ∀ a, (next a).Upholds partner) : (work >>= next).Upholds partner := by
  intro session part hkept
  have hlater := hwork session part hkept
  rw [Talk.perform_bind]
  rcases hperform : work.perform partner session with ⟨_ | a, later⟩ <;> rw [hperform] at hlater
  · exact hlater
  · have hlast := hnext a later part hlater.kept
    exact ⟨hlast.kept, hlater.runs_prefix.trans hlast.runs_prefix,
      fun object hobject => hlast.remembered object (hlater.remembered object hobject)⟩

/-- A part that is got through the memory. -/
theorem upholds_once {part : Part} {load : Study part.Object} (hload : part.IsLoad load partner) :
    (Study.once part.remembered part.remember load).Upholds partner := by
  rintro ⟨asked, memory⟩ other ⟨failures, hruns⟩
  rw [Part.perform_once]
  cases hremembered : part.remembered memory with
  | some object => exact ⟨⟨failures, hruns⟩, List.prefix_rfl, fun _ hobject => hobject⟩
  | none =>
      obtain ⟨outcome, later, hpart, hothers, hperform, hobject⟩ := hload.perform_fetch asked memory
      rw [hperform]
      by_cases hother : other = part
      · subst hother
        rw [hremembered] at hruns
        refine ⟨?_, hpart ▸ List.prefix_append _ _, fun object hloaded => ?_⟩
        · cases outcome with
          | error e => exact ⟨failures ++ [e], by simp [hpart, hruns, hremembered, Part.noted]⟩
          | ok object => exact ⟨failures, by simp [hpart, hruns, hobject, Part.noted]⟩
        · rw [hremembered] at hloaded
          cases hloaded
      · have hsame := Part.remembered_noted_of_ne hother outcome memory
        refine ⟨⟨failures, ?_⟩, hothers other hother ▸ List.prefix_rfl, fun object hloaded => ?_⟩
        · rw [hothers other hother, hruns, hsame]
        · exact hsame.trans hloaded

end Study

/-! ## Operations -/

theorem isAside_findClasses (package : Package) (name inPackage excludePackages : Value)
    (search : Search) : (package.findClasses name inPackage excludePackages search).IsAside :=
  Study.isAside_ask (by rintro (_ | _ | _) <;> rfl)

section Operations

variable {partner : Partner ReaderQuestion} (package : Package)

theorem upholds_contents : Study.Upholds Package.contents partner :=
  Study.upholds_of_isQuiet (Talk.isQuiet_state.bind fun _ => Talk.isQuiet_pure _)

theorem upholds_manifest (hvalues : TellsValues partner) : package.manifest.Upholds partner :=
  Study.upholds_once (Part.isLoad_manifest hvalues _)

theorem upholds_classes (hvalues : TellsValues partner) (parallel : Value) :
    (package.classes parallel).Upholds partner :=
  Study.upholds_once (Part.isLoad_classes hvalues _ parallel)

theorem upholds_use {α : Type} (result : Except Misuse α) : (Study.use result).Upholds partner :=
  (Study.isAside_use result).upholds

theorem Operation.upholds_run (hvalues : TellsValues partner) (operation : Operation) :
    (operation.run package).Upholds partner := by
  have hmanifest := upholds_manifest package hvalues
  have hclasses := upholds_classes package hvalues
  cases operation with
  | manifest => exact hmanifest
  | classes parallel => exact hclasses parallel
  | statistics =>
      exact (hclasses _).bind fun _ => (upholds_use _).bind fun _ => hmanifest.bind fun _ =>
        upholds_contents.bind fun _ => upholds_use _
  | packageNames => exact (hclasses _).bind fun _ => upholds_use _
  | packageGroups => exact (hclasses _).bind fun _ => upholds_use _
  | libraries =>
      exact ((hclasses _).bind fun _ => upholds_use _).bind fun _ => hmanifest.bind fun _ => upholds_use _
  | webViewUsage =>
      exact (isAside_findClasses package _ _ _ _).upholds.bind fun _ => (hclasses _).bind fun _ =>
        upholds_use _
  | survey => exact Study.upholds_once (Part.isLoad_survey partner _)
  | text => exact hmanifest.bind fun _ => upholds_contents.bind fun _ => upholds_use _

theorem upholds_readContents : package.readContents.Upholds partner := by
  have hask : (Study.ask (.contents package.path.text)).IsAside :=
    Study.isAside_ask (by rintro (_ | _ | _) <;> rfl)
  refine hask.upholds.bind fun _ => (upholds_use _).bind fun _ => ?_
  exact Study.upholds_change (by rintro (_ | _ | _) memory <;> rfl)

theorem upholds_find (hvalues : TellsValues partner) (tree : File.Tree) (given : Value)
    (readClasses : Bool) : (Package.find tree given readClasses).Upholds partner := by
  refine (upholds_use _).bind fun text => ?_
  refine (Study.upholds_of_isQuiet (Talk.isQuiet_accept _ _)).bind fun there => ?_
  cases there with
  | false => exact Study.upholds_of_isQuiet (Talk.isQuiet_throw_bind _ _)
  | true =>
      refine (upholds_readContents _).bind fun _ => ?_
      cases readClasses with
      | false => exact Study.upholds_of_isQuiet (Talk.isQuiet_pure _)
      | true => exact (upholds_classes _ hvalues _).bind fun _ =>
          Study.upholds_of_isQuiet (Talk.isQuiet_pure _)

theorem perform_manifest {session : Session ReaderQuestion Memory} {memory : Memory}
    (hmemory : session.state.manifest? = memory.manifest?) :
    package.manifest.perform partner session =
      (package.sources memory).manifest.perform partner session := by
  rw [Package.sources, ← hmemory]
  exact Part.manifest.perform_once _ session

theorem perform_classes {session : Session ReaderQuestion Memory} {memory : Memory}
    (hmemory : session.state.classes? = memory.classes?) (parallel : Value) :
    (package.classes parallel).perform partner session =
      ((package.sources memory).classes parallel).perform partner session := by
  rw [Package.sources, ← hmemory]
  exact Part.classes.perform_once _ session

/-- The manifest is remembered or not as before the classes. -/
theorem manifest?_of_perform_classes (hvalues : TellsValues partner) {parallel classes : Value}
    {session later : Session ReaderQuestion Memory}
    (hclasses : (package.classes parallel).perform partner session = (.ok classes, later)) :
    later.state.manifest? = session.state.manifest? := by
  have hother : Part.manifest ≠ Part.classes := by simp
  have hload := Part.isLoad_classes hvalues package.path.text parallel
  have hkept := hload.remembered_once_of_ne hother session
  exact (congrArg (fun result => result.2.state.manifest?) hclasses).symm.trans hkept

theorem state_of_perform_use {α : Type} {result : Except Misuse α} {a : α}
    {session later : Session ReaderQuestion Memory}
    (huse : (Study.use result).perform partner session = (.ok a, later)) : later = session :=
  (congrArg Prod.snd huse).symm.trans (Talk.isQuiet_accept _ _ partner session)

/-- Work that gets the classes, makes something of them and gets the manifest. -/
theorem perform_classes_then_manifest (hvalues : TellsValues partner) {α β : Type}
    (made : Value → Except Misuse α) (next : α → Value → Study β)
    (session : Session ReaderQuestion Memory) :
    Talk.perform (do
        let made ← Study.use (made (← package.classes))
        next made (← package.manifest)) partner session =
      Talk.perform (do
        let made ← Study.use (made (← (package.sources session.state).classes (.bool true)))
        next made (← (package.sources session.state).manifest)) partner session := by
  refine Talk.perform_bind_congr _ _ (perform_classes package rfl _) fun classes later hclasses => ?_
  refine Talk.perform_bind_congr _ _ rfl fun a last huse => ?_
  obtain rfl := state_of_perform_use huse
  have hmanifest := manifest?_of_perform_classes package hvalues hclasses
  exact Talk.perform_bind_congr _ _ (perform_manifest package hmanifest) fun _ _ _ => rfl

/-- What an operation does is what it does with the parts that are remembered at hand. -/
theorem Operation.perform_run (hvalues : TellsValues partner) (operation : Operation)
    (session : Session ReaderQuestion Memory) :
    (operation.run package).perform partner session =
      (operation.runWith package (package.sources session.state)).perform partner session := by
  cases operation with
  | manifest => exact perform_manifest package rfl
  | classes parallel => exact perform_classes package rfl parallel
  | statistics => exact perform_classes_then_manifest package hvalues _ _ session
  | packageNames => exact Talk.perform_bind_congr _ _ (perform_classes package rfl _) fun _ _ _ => rfl
  | packageGroups => exact Talk.perform_bind_congr _ _ (perform_classes package rfl _) fun _ _ _ => rfl
  | libraries =>
      refine (congrArg (Talk.perform · partner session) (bind_assoc _ _ _)).trans ?_
      exact perform_classes_then_manifest package hvalues _ _ session
  | webViewUsage =>
      refine Talk.perform_bind_congr _ _ rfl fun found later hfound => ?_
      have hstate : later.state = session.state := by
        rw [Package.findClasses, perform_ask] at hfound
        exact (congrArg (fun result => result.2.state) hfound).symm
      exact Talk.perform_bind_congr _ _ (perform_classes package (by rw [hstate]) _) fun _ _ _ => rfl
  | survey => exact Part.survey.perform_once _ session
  | text => exact Talk.perform_bind_congr _ _ (perform_manifest package rfl) fun _ _ _ => rfl

theorem kept_start (partner : Partner ReaderQuestion) (part : Part) :
    part.Kept partner { state := {} } := by
  refine ⟨[], ?_⟩
  cases part <;> rfl

theorem kept_after (hvalues : TellsValues partner) {session : Session ReaderQuestion Memory}
    {part : Part} (hkept : part.Kept partner session) (operations : List Operation) :
    part.Kept partner (package.after partner session operations) := by
  induction operations generalizing session with
  | nil => exact hkept
  | cons operation rest ih => exact ih (operation.upholds_run package hvalues session part hkept).kept

end Operations

/-- However a package is studied, the loads of each part fail up to at most one at the end, whose object
is remembered. What any operation does next is what it does with the remembered objects at hand: those it
keeps, and it runs no load of theirs any more. -/
theorem parts_loaded_until_first_success {partner : Partner ReaderQuestion}
    (hvalues : TellsValues partner) {tree : File.Tree} {given : Value} {readClasses : Bool}
    {package : Package} {start : Session ReaderQuestion Memory}
    (hfound : (Package.find tree given readClasses).perform partner { state := {} } =
      (.ok package, start)) (operations : List Operation) :
    let session := package.after partner start operations
    (∀ part : Part, ∃ failures : List StudyError,
      part.runs partner session.asked =
        failures.map Except.error ++ (part.remembered session.state).toList.map Except.ok) ∧
    ∀ operation : Operation,
      (operation.run package).perform partner session =
        (operation.runWith package (package.sources session.state)).perform partner session ∧
      ∀ (part : Part) (object : part.Object), part.remembered session.state = some object →
        let later := ((operation.run package).perform partner session).2
        part.remembered later.state = some object ∧
          part.runs partner later.asked = part.runs partner session.asked := by
  intro session
  have hstart (part : Part) : part.Kept partner start := by
    have hfind := (upholds_find hvalues tree given readClasses _ part (kept_start partner part)).kept
    rwa [hfound] at hfind
  have hkept (part : Part) : part.Kept partner session :=
    kept_after package hvalues (hstart part) operations
  refine ⟨hkept, fun operation => ⟨operation.perform_run package hvalues session, ?_⟩⟩
  intro part object hobject later
  have hlater := operation.upholds_run package hvalues session part (hkept part)
  exact ⟨hlater.remembered object hobject, hlater.runs_eq (hkept part) hobject⟩

/-- A reader of a package without classes, which cannot read the manifest at first. -/
def hesitantReader : Partner ReaderQuestion := fun before question =>
  match question with
  | .contents _ => .ok (.list [.ofNat 1, .bool true, .bool false, .list []])
  | .manifest _ => if before.length < 2 then .error "busy" else .ok (.record [])
  | .classes _ _ => .ok (.list [])
  | _ => .error "unknown"

theorem tellsValues_hesitantReader : TellsValues hesitantReader := by
  rintro before (_ | _ | _ | _ | _ | _ | _ | _ | _ | _) value htold <;> simp only [hesitantReader] at htold
  case manifest =>
    split at htold
    · cases htold
    · cases htold
      rfl
  all_goals cases htold
  all_goals rfl

/-- The manifest is asked for again after it could not be read, and the classes are not, although there
are none. -/
theorem empty_classes_loaded_once :
    let tree : File.Tree := { here := [], nodes := [(["app.apk"], .file [])] }
    let package : Package := ⟨{ names := ["app.apk"] }⟩
    let start : Session ReaderQuestion Memory :=
      { asked := [.contents "app.apk"]
        state := { contents := ⟨.ofNat 1, .bool true, .bool false, .list []⟩ } }
    let session := package.after hesitantReader start [.text, .packageNames, .manifest]
    let later := ((Operation.packageGroups.run package).perform hesitantReader session).2
    (Package.find tree (.string "app.apk") false).perform hesitantReader { state := {} } =
        (.ok package, start) ∧
      Part.manifest.runs hesitantReader session.asked =
        [.error (.reader "busy"), .ok (.record [])] ∧
      Part.classes.runs hesitantReader session.asked = [.ok (.list [])] ∧
      Part.classes.remembered later.state = some (.list []) ∧
      Part.classes.runs hesitantReader later.asked = [.ok (.list [])] := by
  intro tree package start session later
  have hfound : (Package.find tree (.string "app.apk") false).perform hesitantReader { state := {} } =
      (.ok package, start) := rfl
  have honce := (parts_loaded_until_first_success tellsValues_hesitantReader hfound
    [.text, .packageNames, .manifest]).2 .packageGroups
  exact ⟨hfound, rfl, rfl, honce.2 .classes (.list []) rfl⟩

end AppSurvey.Apk
