import AppSurvey.Proofs.Flow.Analysis
import Mathlib.Data.List.Nodup

/-!
# How often a flow is reported

Sinks are looked up pattern by pattern, so a method whose name includes several patterns is listed as
often as there are such patterns, and every flow to it is reported as often. Nothing else repeats a
flow if the components of the app have different names: the entry point, the lifecycle method that it
is entered by and the sink tell the flows apart. Some of the built-in patterns overlap, `loadData` and
`loadDataWithBaseURL` among them.
-/

namespace AppSurvey.Flow

open Text Apk Dex

/-- What tells flows apart: the entry point, the lifecycle method it is entered by and the sink. -/
def SinkFlow.route (flow : SinkFlow) : String × String × String :=
  (flow.entryPoint, flow.source, flow.sink)

/-- If only one of some items gives rise to results of a kind, the others do not count. -/
theorem countP_flatMap_of_only {α β : Type} {items : List α} (hnodup : items.Nodup) {item : α}
    (hitem : item ∈ items) {results : α → List β} {kind : β → Bool}
    (honly : ∀ other ∈ items, ∀ result ∈ results other, kind result = true → other = item) :
    (items.flatMap results).countP kind = (results item).countP kind := by
  induction items with
  | nil => exact absurd hitem List.not_mem_nil
  | cons head rest ih =>
      obtain ⟨hhead, hnodup⟩ := List.nodup_cons.mp hnodup
      obtain ⟨honlyHead, honlyRest⟩ := List.forall_mem_cons.mp honly
      rw [List.flatMap_cons, List.countP_append]
      rcases List.mem_cons.mp hitem with rfl | hrest
      · have hnone : (rest.flatMap results).countP kind = 0 := by
          rw [List.countP_eq_zero]
          intro result hresult hkind
          obtain ⟨other, hother, hresult⟩ := List.mem_flatMap.mp hresult
          exact hhead (honlyRest other hother result hresult hkind ▸ hother)
        rw [hnone, Nat.add_zero]
      · have hnone : (results head).countP kind = 0 := by
          rw [List.countP_eq_zero]
          intro result hresult hkind
          exact hhead (honlyHead result hresult hkind ▸ hrest)
        rw [hnone, Nat.zero_add, ih hnodup hrest honlyRest]

namespace Analyzer

/-- A method is listed as a sink once for each pattern that its name includes. -/
theorem count_sinks {analyzer : Analyzer} {sink : String}
    (hsink : sink ∈ analyzer.graph.allMethods) (patterns : List String) :
    (analyzer.sinks patterns).count sink = patterns.countP (includes sink) := by
  have hone : analyzer.graph.allMethods.count sink = 1 :=
    List.count_eq_one_of_mem analyzer.graph.nodup_allMethods hsink
  induction patterns with
  | nil => rfl
  | cons pattern rest ih =>
      rw [sinks] at ih
      rw [sinks, List.flatMap_cons, List.count_append, ih, List.countP_cons, Nat.add_comm]
      congr 1
      by_cases hincludes : includes sink pattern = true
      · rw [if_pos hincludes, ← hone]
        exact List.count_filter hincludes
      · rw [if_neg hincludes, List.count_eq_zero]
        intro hmatching
        exact hincludes (List.mem_filter.mp hmatching).2

theorem entered_inj {entryPoint first second : String}
    (hentered : entered entryPoint first = entered entryPoint second) : first = second := by
  have hchars : (entryPoint ++ "." ++ first).toList = (entryPoint ++ "." ++ second).toList :=
    congrArg String.toList hentered
  simpa [String.toList_inj] using hchars

/-- Where a flow was looked for tells its route. -/
theorem route_of_flow? {analyzer : Analyzer} (hfiled : analyzer.graph.Filed) {depth : Nat}
    {entry : EntryPoint} {lifecycle sink : String} {flow : SinkFlow}
    (hflow : analyzer.flow? depth entry lifecycle sink = some flow) :
    flow.route = (entry.className, entered entry.className lifecycle, sink) := by
  obtain ⟨hname, hsink, -, -⟩ := flow?_eq_some hflow
  rw [SinkFlow.route, hname, hsink, source_of_flow? hfiled hflow]

/-- If the entry points have different names, the route of a flow tells where it was looked for. -/
theorem looked_for_of_route_eq {analyzer : Analyzer} (hfiled : analyzer.graph.Filed)
    (hdistinct : (analyzer.survey.entryPoints.map EntryPoint.className).Nodup) {depth : Nat}
    {entry other : EntryPoint} (hentry : entry ∈ analyzer.survey.entryPoints)
    (hother : other ∈ analyzer.survey.entryPoints) {lifecycle sink otherLifecycle otherSink : String}
    {flow otherFlow : SinkFlow} (hflow : analyzer.flow? depth entry lifecycle sink = some flow)
    (hotherFlow : analyzer.flow? depth other otherLifecycle otherSink = some otherFlow)
    (hroute : otherFlow.route = flow.route) :
    other = entry ∧ otherLifecycle = lifecycle ∧ otherSink = sink := by
  rw [route_of_flow? hfiled hflow, route_of_flow? hfiled hotherFlow] at hroute
  simp only [Prod.mk.injEq] at hroute
  obtain ⟨hname, hentered, hsink⟩ := hroute
  obtain rfl := List.inj_on_of_nodup_map hdistinct hother hentry hname
  exact ⟨rfl, entered_inj hentered, hsink⟩

section Distinct

variable {analyzer : Analyzer} (hfiled : analyzer.graph.Filed)
  (hdistinct : (analyzer.survey.entryPoints.map EntryPoint.className).Nodup)
  {patterns : List String} {depth : Nat}

include hfiled hdistinct

theorem eq_of_route_eq {flow other : SinkFlow} (hflow : flow ∈ analyzer.flowsTo patterns depth)
    (hother : other ∈ analyzer.flowsTo patterns depth) (hroute : other.route = flow.route) :
    other = flow := by
  obtain ⟨entry, hentry, lifecycle, -, sink, -, hflow⟩ := mem_flowsTo.mp hflow
  obtain ⟨otherEntry, hotherEntry, otherLifecycle, -, otherSink, -, hother⟩ := mem_flowsTo.mp hother
  obtain ⟨rfl, rfl, rfl⟩ :=
    looked_for_of_route_eq hfiled hdistinct hentry hotherEntry hflow hother hroute
  exact Option.some.inj (hother.symm.trans hflow)

/-- A flow is reported once for each pattern that its sink includes. -/
theorem count_route {flow : SinkFlow} (hflow : flow ∈ analyzer.flowsTo patterns depth) :
    ((analyzer.flowsTo patterns depth).map SinkFlow.route).count flow.route =
      patterns.countP (includes flow.sink) := by
  obtain ⟨entry, hentry, lifecycle, hlifecycle, sink, hsink, hflow⟩ := mem_flowsTo.mp hflow
  obtain ⟨-, hsame, -, -⟩ := flow?_eq_some hflow
  have hlooked {other : EntryPoint} (hother : other ∈ analyzer.survey.entryPoints)
      {otherLifecycle otherSink : String} {result : SinkFlow}
      (hresult : analyzer.flow? depth other otherLifecycle otherSink = some result)
      (hroute : (result.route == flow.route) = true) :=
    looked_for_of_route_eq hfiled hdistinct hentry hother hflow hresult (beq_iff_eq.mp hroute)
  rw [hsame, ← count_sinks (mem_sinks.mp hsink).1, List.count_eq_countP, List.countP_map, flowsTo]
  -- Of the entry points and the lifecycle methods only those of the flow itself count.
  rw [countP_flatMap_of_only hdistinct.of_map hentry, countP_flatMap_of_only (by decide) hlifecycle]
  · -- A sink gives a flow of this route only if it is that of the flow.
    rw [List.countP_filterMap, List.count_eq_countP]
    apply List.countP_congr
    intro other _
    constructor
    · intro hcounted
      cases hresult : analyzer.flow? depth entry lifecycle other with
      | none => simp [hresult] at hcounted
      | some result =>
          rw [hresult] at hcounted
          exact beq_iff_eq.mpr (hlooked hentry hresult hcounted).2.2
    · intro hother
      rw [beq_iff_eq.mp hother, hflow]
      simp
  · intro otherLifecycle _ result hresult hroute
    obtain ⟨otherSink, -, hresult⟩ := List.mem_filterMap.mp hresult
    exact (hlooked hentry hresult hroute).2.1
  · intro other hother result hresult hroute
    obtain ⟨otherLifecycle, -, hresult⟩ := List.mem_flatMap.mp hresult
    obtain ⟨otherSink, -, hresult⟩ := List.mem_filterMap.mp hresult
    exact (hlooked hother hresult hroute).1

end Distinct

/-- Two of the patterns for web views stand in every name that includes the longer of them. -/
theorem two_le_countP_webViewPatterns {sink : String}
    (hincludes : includes sink "loadDataWithBaseURL" = true) :
    2 ≤ webViewPatterns.countP (includes sink) := by
  have hshorter : includes sink "loadData" = true := by
    rw [includes_iff] at hincludes ⊢
    exact List.IsInfix.trans (includes_iff.mp (by cbv)) hincludes
  have hpair : ["loadData", "loadDataWithBaseURL"].Sublist webViewPatterns := by
    decide
  calc 2 = ["loadData", "loadDataWithBaseURL"].countP (includes sink) := by
        simp [hincludes, hshorter]
    _ ≤ webViewPatterns.countP (includes sink) := hpair.countP_le

end Analyzer

/-- In an app whose components have different names, a flow is reported once for each pattern that its
sink includes, so no flow is reported twice exactly if no two patterns meet in the sink of one. The
flows to a method that includes the longer of two built-in patterns are all reported twice or more. -/
theorem flow_reported_once_per_pattern (manifest : Manifest)
    (hdistinct : (manifest.activities ++ manifest.services ++ manifest.receivers).Nodup)
    (outlines : List ClassOutline) (calls : List Call) (depth : Nat) :
    let flowsTo := fun patterns => (Analyzer.ofApp manifest outlines calls).flowsTo patterns depth
    (∀ patterns, ∀ flow ∈ flowsTo patterns,
      (∀ path ∈ flow.paths, path.source? = some flow.source) ∧
      ((flowsTo patterns).map SinkFlow.route).count flow.route =
        patterns.countP (includes flow.sink) ∧
      ∀ other ∈ flowsTo patterns, other.route = flow.route → other = flow) ∧
    (∀ patterns, ((flowsTo patterns).map SinkFlow.route).Nodup ↔
      ∀ flow ∈ flowsTo patterns, patterns.countP (includes flow.sink) = 1) ∧
    (∀ flow ∈ flowsTo Analyzer.webViewPatterns,
      includes flow.sink "loadDataWithBaseURL" = true →
        2 ≤ ((flowsTo Analyzer.webViewPatterns).map SinkFlow.route).count flow.route) := by
  intro flowsTo
  have hfiled := CallGraph.filed_ofCalls calls
  have hnames : ((Analyzer.ofApp manifest outlines calls).survey.entryPoints.map
      EntryPoint.className).Nodup := by
    rw [map_className_entryPoints]
    exact hdistinct
  have hcount {patterns : List String} {flow : SinkFlow} (hflow : flow ∈ flowsTo patterns) :
      ((flowsTo patterns).map SinkFlow.route).count flow.route = patterns.countP (includes flow.sink) :=
    Analyzer.count_route hfiled hnames hflow
  refine ⟨fun patterns flow hflow => ⟨?_, hcount hflow, ?_⟩, fun patterns => ?_, ?_⟩
  · intro path hpath
    rw [(Analyzer.paths_of_mem_flowsTo hfiled hflow).2] at hpath
    exact CallGraph.source?_of_mem_paths hfiled hpath
  · intro other hother hroute
    exact Analyzer.eq_of_route_eq hfiled hnames hflow hother hroute
  · rw [List.nodup_iff_count_eq_one, List.forall_mem_map]
    exact forall₂_congr fun flow hflow => by rw [hcount hflow]
  · intro flow hflow hincludes
    rw [hcount hflow]
    exact Analyzer.two_le_countP_webViewPatterns hincludes

/-- The activity hands the web view a text. -/
def showText : Call := ⟨"A.onCreate", "Web.loadDataWithBaseURL(): void", "1"⟩

/-- The flow from the activity to the web view is reported twice. -/
theorem showText_reported_twice :
    let flows := (Analyzer.ofApp oneActivity [] [showText]).flowsTo Analyzer.webViewPatterns 5
    (flows.map SinkFlow.route).count
        ("A", "A.onCreate", "Web.loadDataWithBaseURL(): void") = 2 ∧
      ¬ (flows.map SinkFlow.route).Nodup := by
  intro flows
  have hshown : IsFlow oneActivity [showText] Analyzer.webViewPatterns 5 "A" showText.callee
      ⟨[showText.caller, showText.callee], [showText], 1⟩ :=
    isFlow_of_call (by simp [oneActivity]) (show "onCreate" ∈ _ by simp [Analyzer.entryMethods])
      List.mem_cons_self (by decide) ⟨showText, List.mem_cons_self, .inr rfl⟩
      (show "loadData" ∈ _ by simp [Analyzer.webViewPatterns]) (by cbv) (by decide) (by cbv) (by cbv)
  obtain ⟨flow, hflow, hentry, hsink, hpath⟩ := shown_iff_isFlow.mpr hshown
  obtain ⟨hflows, honce, -⟩ :=
    flow_reported_once_per_pattern oneActivity (by decide) [] [showText] 5
  obtain ⟨hsources, hcount, -⟩ := hflows _ flow hflow
  have hsource : flow.source = "A.onCreate" := (Option.some.inj (hsources _ hpath)).symm
  have hroute : flow.route = ("A", "A.onCreate", "Web.loadDataWithBaseURL(): void") := by
    rw [SinkFlow.route, hentry, hsource, hsink]
    rfl
  have htwice : Analyzer.webViewPatterns.countP (includes flow.sink) = 2 := by
    rw [hsink]
    cbv
  constructor
  · rw [← hroute]
    exact hcount.trans htwice
  · intro hnodup
    have hone := (honce Analyzer.webViewPatterns).mp hnodup flow hflow
    rw [htwice] at hone
    cases hone

end AppSurvey.Flow
