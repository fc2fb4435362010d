import AppSurvey.Apk.EntryPoint
import Mathlib.Data.List.Basic
import Mathlib.Data.List.Count
import Mathlib.Data.List.Induction
import Mathlib.Data.Prod.Basic

/-!
# Which entry points a survey lists

A survey lists an entry point for every activity, service and receiver that the manifest declares, as
often as it is declared, and none for a provider. Where an entry point is told together with its class,
it is the class that was given last under the name, and the several ways to ask for both agree.
-/

namespace AppSurvey.Apk

open Dex

/-! ## Declared components -/

/-- The components of a type that a manifest declares. -/
def Manifest.declared (manifest : Manifest) : ComponentType → List String
  | .activity => manifest.activities
  | .service => manifest.services
  | .broadcastReceiver => manifest.receivers
  | .contentProvider => manifest.providers

/-- The component that is entered: its type and its name. -/
def EntryPoint.component (entry : EntryPoint) : ComponentType × String :=
  (entry.type, entry.className)

theorem count_map_mk (type other : ComponentType) (names : List String) (name : String) :
    (names.map (Prod.mk other)).count (type, name) = if other = type then names.count name else 0 := by
  split
  next htype =>
    subst htype
    exact List.count_map_of_injective names (Prod.mk other) (Prod.mk_right_injective other) name
  next htype =>
    rw [List.count_eq_zero]
    intro hmem
    obtain ⟨_, -, heq⟩ := List.mem_map.mp hmem
    exact htype (Prod.mk.inj heq).1

namespace Survey

theorem map_component_entryPoints (survey : Survey) :
    survey.entryPoints.map EntryPoint.component =
      survey.manifest.activities.map (Prod.mk ComponentType.activity) ++
        survey.manifest.services.map (Prod.mk ComponentType.service) ++
        survey.manifest.receivers.map (Prod.mk ComponentType.broadcastReceiver) := by
  simp only [entryPoints, List.map_append, List.map_map]
  rfl

/-- How often a component is an entry point. -/
theorem count_component (survey : Survey) (type : ComponentType) (name : String) :
    (survey.entryPoints.map EntryPoint.component).count (type, name) =
      if type = .contentProvider then 0 else (survey.manifest.declared type).count name := by
  rw [map_component_entryPoints]
  simp only [List.count_append, count_map_mk]
  cases type <;> simp [Manifest.declared]

end Survey

/-- Activities, services and receivers are entry points as often as the manifest declares them, and
providers never are. So the entry points are the declared components exactly if there is no provider. -/
theorem components_entered_iff_no_provider (manifest : Manifest) (outlines : List ClassOutline) :
    let entered := (Survey.make manifest outlines).entryPoints.map EntryPoint.component
    (∀ type name, entered.count (type, name) =
      if type = .contentProvider then 0 else (manifest.declared type).count name) ∧
    ((∀ type name, entered.count (type, name) = (manifest.declared type).count name) ↔
      manifest.providers = []) := by
  intro entered
  have hcount := (Survey.make manifest outlines).count_component
  refine ⟨hcount, ?_, ?_⟩
  · intro hall
    rw [List.eq_nil_iff_forall_not_mem]
    intro name hprovider
    have hnone : manifest.providers.count name = 0 :=
      (hall .contentProvider name).symm.trans (hcount .contentProvider name)
    exact List.count_eq_zero.mp hnone hprovider
  · intro hproviders type name
    rw [hcount type name]
    split
    next htype => rw [htype, Manifest.declared, hproviders, List.count_nil]
    next => rfl

/-- An app whose activity is declared twice, and which shares its notes with other apps. -/
def notesApp : Manifest :=
  { package := "app", activities := ["A", "A"], services := ["A"], providers := ["Notes"] }

/-- The activity is entered twice and once more as a service, but the notes are not entered at all. -/
theorem notes_never_entered :
    let entered := (Survey.make notesApp []).entryPoints.map EntryPoint.component
    entered.count (.activity, "A") = 2 ∧ entered.count (.service, "A") = 1 ∧
      (notesApp.declared .contentProvider).count "Notes" = 1 ∧
      entered.count (.contentProvider, "Notes") = 0 ∧
      ¬ ∀ type name, entered.count (type, name) = (notesApp.declared type).count name := by
  intro entered
  obtain ⟨hcount, hall⟩ := components_entered_iff_no_provider notesApp []
  refine ⟨hcount .activity "A", hcount .service "A", by decide, hcount .contentProvider "Notes", ?_⟩
  rw [hall]
  exact List.cons_ne_nil "Notes" []

/-! ## Classes of entry points -/

/-- The last of some classes that bears the name. -/
def lastNamed (outlines : List ClassOutline) (name : String) : Option ClassOutline :=
  (outlines.filter fun outline => outline.className == name).getLast?

theorem isSome_lastNamed {outlines : List ClassOutline} {name : String} :
    (lastNamed outlines name).isSome = true ↔ ∃ outline ∈ outlines, outline.className = name := by
  simp [lastNamed]

namespace Survey

/-- One more class takes the place of those given before under its name. -/
theorem class?_make_concat (manifest : Manifest) (outlines : List ClassOutline)
    (outline : ClassOutline) (name : String) :
    (make manifest (outlines ++ [outline])).class? name =
      if outline.className = name then some outline else (make manifest outlines).class? name := by
  simp [make, class?, List.foldl_append, Std.HashMap.getElem?_insert]

theorem class?_make (manifest : Manifest) (outlines : List ClassOutline) (name : String) :
    (make manifest outlines).class? name = lastNamed outlines name := by
  induction outlines using List.reverseRecOn with
  | nil => simp [make, class?, lastNamed]
  | append_singleton outlines outline ih =>
      rw [class?_make_concat, ih, lastNamed, lastNamed, List.filter_append]
      by_cases hname : outline.className = name
      · simp [hname]
      · simp [hname]

theorem hasClass_eq (survey : Survey) (name : String) :
    survey.hasClass name = (survey.class? name).isSome :=
  Std.HashMap.contains_eq_isSome_getElem?

theorem classFound_of_mem {survey : Survey} {entry : EntryPoint}
    (hentry : entry ∈ survey.entryPoints) :
    entry.classFound = (survey.class? entry.className).isSome := by
  rw [← hasClass_eq]
  simp only [entryPoints, List.mem_append, List.mem_map] at hentry
  rcases hentry with (⟨name, -, rfl⟩ | ⟨name, -, rfl⟩) | ⟨name, -, rfl⟩
  · rfl
  · rfl
  · rfl

theorem map_fst_analyzedEntryPoints (survey : Survey) :
    survey.analyzedEntryPoints.map Prod.fst = survey.foundEntryPoints := by
  rw [analyzedEntryPoints, foundEntryPoints, List.map_filterMap, ← List.filterMap_eq_filter]
  apply List.filterMap_congr
  intro entry hentry
  rw [Option.guard, classFound_of_mem hentry]
  cases survey.class? entry.className with
  | none => rfl
  | some outline => rfl

theorem class?_of_mem_analyzedEntryPoints {survey : Survey} {pair : EntryPoint × ClassOutline}
    (hpair : pair ∈ survey.analyzedEntryPoints) : survey.class? pair.1.className = some pair.2 := by
  obtain ⟨entry, -, hsome⟩ := List.mem_filterMap.mp hpair
  obtain ⟨outline, houtline, rfl⟩ := Option.map_eq_some_iff.mp hsome
  exact houtline

/-- Looking for a name first and for its class then comes to the same as the other way round. -/
theorem entryWithClass?_eq (survey : Survey) (name : String) :
    survey.entryWithClass? name =
      survey.analyzedEntryPoints.find? fun pair => pair.1.className == name := by
  rw [entryWithClass?, analyzedEntryPoints]
  induction survey.entryPoints with
  | nil => rfl
  | cons entry rest ih =>
      by_cases hname : entry.className = name
      · cases hclass : survey.class? name with
        | none =>
            -- No entry point of the name has a class, so none of the rest is found either.
            simpa [hname, hclass] using ih
        | some outline => simp [hname, hclass]
      · cases hclass : survey.class? entry.className with
        | none => simpa [hname, hclass] using ih
        | some outline => simpa [hname, hclass] using ih

theorem stats_eq (survey : Survey) :
    let total := survey.entryPoints.length
    let found := survey.foundEntryPoints.length
    let deeplinks := survey.deeplinkHandlers.length
    survey.stats = s!"Total: {total}, Found in DEX: {found}, Deeplink handlers: {deeplinks}" := by
  simp only [stats, foundEntryPoints, deeplinkHandlers, List.countP_eq_length_filter]

end Survey

/-- The entry points that are told with a class are those whose class was found, in order, each with the
class that was given last under its name. The entry point that is told for a name is the first of them
that bears it, and their number is the one that the survey tells as found. -/
theorem class_views_agree (manifest : Manifest) (outlines : List ClassOutline) :
    let survey := Survey.make manifest outlines
    let analyzed := survey.analyzedEntryPoints
    let total := survey.entryPoints.length
    let deeplinks := survey.deeplinkHandlers.length
    (∀ entry ∈ survey.entryPoints,
      entry.classFound = true ↔ ∃ outline ∈ outlines, outline.className = entry.className) ∧
    ((analyzed.map fun pair => (pair.1, some pair.2)) =
      (survey.entryPoints.filter EntryPoint.classFound).map fun entry =>
        (entry, lastNamed outlines entry.className)) ∧
    analyzed.map Prod.fst = survey.foundEntryPoints ∧
    (∀ name, survey.entryWithClass? name = analyzed.find? fun pair => pair.1.className == name) ∧
    (∀ name, survey.entryWithClass? name = none ↔ ∀ pair ∈ analyzed, pair.1.className ≠ name) ∧
    survey.stats =
      s!"Total: {total}, Found in DEX: {analyzed.length}, Deeplink handlers: {deeplinks}" := by
  intro survey analyzed total deeplinks
  have hfirst : analyzed.map Prod.fst = survey.foundEntryPoints := survey.map_fst_analyzedEntryPoints
  refine ⟨?_, ?_, hfirst, survey.entryWithClass?_eq, ?_, ?_⟩
  · intro entry hentry
    rw [Survey.classFound_of_mem hentry, Survey.class?_make, isSome_lastNamed]
  · rw [← Survey.foundEntryPoints, ← hfirst, List.map_map]
    apply List.map_congr_left
    intro pair hpair
    rw [Function.comp_apply, ← Survey.class?_make manifest,
      Survey.class?_of_mem_analyzedEntryPoints hpair]
  · intro name
    rw [survey.entryWithClass?_eq, List.find?_eq_none]
    simp only [beq_iff_eq]
    rfl
  · rw [survey.stats_eq, ← hfirst, List.length_map]

/-- A class of the name that the activity and the service share, read from one of the files of the app. -/
def sharedClass (fields : List String) : ClassOutline :=
  { className := "A", package := "", simpleName := "A", superclass := none, interfaces := [], fields,
    methods := [], access := ⟨1⟩ }

/-- The class that was given last is told with the activity, which comes before the service. -/
theorem last_sharedClass_told :
    let survey := Survey.make notesApp [sharedClass ["old"], sharedClass ["new"]]
    (∃ entry, entry.type = .activity ∧
      survey.entryWithClass? "A" = some (entry, sharedClass ["new"])) ∧
    survey.entryWithClass? "Notes" = none ∧
    survey.stats = "Total: 3, Found in DEX: 3, Deeplink handlers: 0" := by
  intro survey
  obtain ⟨hfound, hpairs, hentries, hfirst, hnone, hstats⟩ :=
    class_views_agree notesApp [sharedClass ["old"], sharedClass ["new"]]
  have hnames : ∀ entry ∈ survey.entryPoints, entry.className = "A" := by
    have hlisted : survey.entryPoints.map EntryPoint.className = ["A", "A", "A"] := rfl
    rw [← List.forall_mem_map (P := fun name => name = "A"), hlisted]
    decide
  have hall : survey.entryPoints.filter EntryPoint.classFound = survey.entryPoints := by
    rw [List.filter_eq_self]
    intro entry hentry
    exact (hfound entry hentry).mpr ⟨sharedClass ["new"], by simp, (hnames entry hentry).symm⟩
  rw [hall] at hpairs
  have hlength : survey.analyzedEntryPoints.length = survey.entryPoints.length := by
    simpa using congrArg List.length hpairs
  obtain ⟨⟨entry, outline⟩, rest, hcons, hpair, -⟩ := List.map_eq_cons_iff.mp hpairs
  obtain ⟨rfl, houtline⟩ := Prod.mk.inj hpair
  obtain rfl : outline = sharedClass ["new"] := Option.some.inj houtline
  refine ⟨⟨survey.activityEntry "A", rfl, ?_⟩, ?_, ?_⟩
  · rw [hfirst, hcons]
    rfl
  · rw [hnone]
    intro pair hpair
    have hentry : pair.1 ∈ survey.foundEntryPoints := hentries ▸ List.mem_map_of_mem hpair
    rw [hnames pair.1 (List.mem_of_mem_filter hentry)]
    decide
  · rw [hstats, hlength]
    change s!"Total: {3}, Found in DEX: {3}, Deeplink handlers: {0}" = _
    decide

end AppSurvey.Apk
