import AppSurvey.Flow.Analysis
import AppSurvey.Proofs.Apk.EntryPoint

/-!
# Which entry points answer links

A manifest looks for deeplinks among all its filters, whatever activity they belong to. A survey looks
for them among the filters of each activity that is declared. Both find the same: an activity handles
links exactly if one of the deeplinks belongs to it. A handler is told as often as it is declared, and
every count of handlers counts it so.
-/

namespace AppSurvey.Apk

/-- Does a deeplink of the manifest belong to the activity? -/
def Manifest.isLinked (manifest : Manifest) (activity : String) : Bool :=
  manifest.deeplinks.any fun filter => filter.activity == activity

theorem Manifest.isLinked_iff {manifest : Manifest} {activity : String} :
    manifest.isLinked activity = true ↔ ∃ filter ∈ manifest.deeplinks, filter.activity = activity := by
  simp [isLinked]

namespace Survey

/-- There is a deeplink among the filters of an activity if one of the deeplinks belongs to it. -/
theorem isDeeplink_activityEntry (survey : Survey) (name : String) :
    (survey.activityEntry name).isDeeplink = survey.manifest.isLinked name := by
  change (survey.manifest.filtersOf name).any IntentFilter.isDeeplink = survey.manifest.isLinked name
  rw [Manifest.filtersOf, Manifest.isLinked, Manifest.deeplinks, List.any_filter, List.any_filter]
  congr 1
  funext filter
  exact Bool.and_comm _ _

/-- The handlers of links are the activities that are linked. Services and receivers have no filters and
are not among them. -/
theorem deeplinkHandlers_eq (survey : Survey) :
    survey.deeplinkHandlers =
      (survey.manifest.activities.filter survey.manifest.isLinked).map survey.activityEntry := by
  have hactivities : (survey.manifest.activities.map survey.activityEntry).filter
      EntryPoint.isDeeplink =
        (survey.manifest.activities.filter survey.manifest.isLinked).map survey.activityEntry := by
    rw [List.filter_map]
    congr 2
    funext name
    exact survey.isDeeplink_activityEntry name
  have hplain (type : ComponentType) (names : List String) :
      (names.map (survey.plainEntry type)).filter EntryPoint.isDeeplink = [] := by
    simp [plainEntry]
  rw [deeplinkHandlers, entryPoints, List.filter_append, List.filter_append, hactivities, hplain,
    hplain, List.append_nil, List.append_nil]

theorem map_className_deeplinkHandlers (survey : Survey) :
    survey.deeplinkHandlers.map EntryPoint.className =
      survey.manifest.activities.filter survey.manifest.isLinked := by
  rw [deeplinkHandlers_eq, List.map_map]
  exact List.map_id _

end Survey

end AppSurvey.Apk

namespace AppSurvey.Flow

open Apk Dex

/-- The handlers of links are, in order and as often as they are declared, the activities to which a
deeplink of the manifest belongs. Each has the filters of its activity in the order of the manifest, and
the counts of the survey and of an analysis both tell how many there are. -/
theorem deeplink_handlers_agree (manifest : Manifest) (outlines : List ClassOutline)
    (graph : CallGraph) :
    let survey := Survey.make manifest outlines
    let handlers := survey.deeplinkHandlers
    let total := survey.entryPoints.length
    let found := survey.foundEntryPoints.length
    (∀ activity, activity ∈ handlers.map EntryPoint.className ↔
      activity ∈ manifest.activities ∧ ∃ filter ∈ manifest.deeplinks, filter.activity = activity) ∧
    handlers.map EntryPoint.className = manifest.activities.filter manifest.isLinked ∧
    (∀ handler ∈ handlers, handler.type = .activity ∧
      handler.filters = manifest.filters.filter fun filter => filter.activity == handler.className) ∧
    survey.stats =
      s!"Total: {total}, Found in DEX: {found}, Deeplink handlers: {handlers.length}" ∧
    (Analyzer.mk survey graph).deeplinkCount = handlers.length := by
  intro survey handlers total found
  have hnames : handlers.map EntryPoint.className = manifest.activities.filter manifest.isLinked :=
    survey.map_className_deeplinkHandlers
  refine ⟨?_, hnames, ?_, survey.stats_eq, List.countP_eq_length_filter⟩
  · intro activity
    rw [hnames, List.mem_filter, Manifest.isLinked_iff]
  · intro handler hhandler
    rw [show handlers = _ from survey.deeplinkHandlers_eq] at hhandler
    obtain ⟨name, -, rfl⟩ := List.mem_map.mp hhandler
    exact ⟨rfl, rfl⟩

def startFilter : IntentFilter := { activity := "A", actions := ["MAIN"] }

def linkFilter (activity : String) : IntentFilter :=
  { activity, actions := ["VIEW"], categories := ["BROWSABLE"], links := [{}] }

/-- An app with an activity that is declared twice and answers links, and with links for a component
that is not an activity. -/
def linksApp : Manifest :=
  { package := "app", activities := ["A", "B", "A"], services := ["C"],
    filters := [startFilter, linkFilter "C", linkFilter "A"] }

/-- The activity handles links as often as it is declared, with both its filters; the service does not. -/
theorem linksApp_handlers :
    let survey := Survey.make linksApp []
    survey.deeplinkHandlers.map EntryPoint.className = ["A", "A"] ∧
      "C" ∉ survey.deeplinkHandlers.map EntryPoint.className ∧
      (∃ handler ∈ survey.deeplinkHandlers, handler.type = .activity ∧
        handler.filters = [startFilter, linkFilter "A"]) ∧
      (Analyzer.mk survey .empty).deeplinkCount = 2 := by
  intro survey
  obtain ⟨hmem, hnames, hhandlers, -, hcount⟩ := deeplink_handlers_agree linksApp [] .empty
  have htwice : survey.deeplinkHandlers.map EntryPoint.className = ["A", "A"] :=
    hnames.trans (by cbv)
  obtain ⟨handler, hhandler, hname⟩ : ∃ handler ∈ survey.deeplinkHandlers, handler.className = "A" := by
    rw [← List.mem_map, htwice]
    exact List.mem_cons_self
  obtain ⟨htype, hfilters⟩ := hhandlers handler hhandler
  refine ⟨htwice, ?_, ⟨handler, hhandler, htype, ?_⟩, ?_⟩
  · intro hservice
    have hactivity := ((hmem "C").mp hservice).1
    revert hactivity
    decide
  · rw [hfilters, hname]
    cbv
  · rw [hcount, ← List.length_map EntryPoint.className, htwice]
    rfl

end AppSurvey.Flow
