import AppSurvey.Flow.Analysis
import AppSurvey.Proofs.Flow.Walk

/-!
# Which flows an analysis shows

`IsFlow` says of an app, without a search, which paths are flows. The analysis shows exactly these, so
more calls, more patterns or a greater depth hide none of them. A path of a flow ends at the first
method whose name includes that of the sink; this is the sink itself only where no other method on the
way bears a name that includes it.
-/

namespace AppSurvey.Flow

open Text Apk Dex

theorem map_className_entryPoints (survey : Survey) :
    survey.entryPoints.map EntryPoint.className =
      survey.manifest.activities ++ survey.manifest.services ++ survey.manifest.receivers := by
  simp [Survey.entryPoints, Survey.activityEntry, Survey.plainEntry, Function.comp_def]

/-- Some flow from the entry point to the sink has the path. -/
def SinkFlow.Shown (flows : List SinkFlow) (entryPoint sink : String) (path : CallPath) : Prop :=
  ∃ flow ∈ flows, flow.entryPoint = entryPoint ∧ flow.sink = sink ∧ path ∈ flow.paths

namespace Analyzer

/-- The analyzer of an app, given by its manifest, its classes and the calls between its methods. -/
def ofApp (manifest : Manifest) (outlines : List ClassOutline) (calls : List Call) : Analyzer :=
  { survey := .make manifest outlines, graph := .ofCalls calls }

/-- Where a flow of an entry point begins. -/
def entered (entryPoint lifecycle : String) : String := s!"{entryPoint}.{lifecycle}"

theorem mem_sinks {analyzer : Analyzer} {patterns : List String} {sink : String} :
    sink ∈ analyzer.sinks patterns ↔
      sink ∈ analyzer.graph.allMethods ∧
        ∃ pattern ∈ patterns, pattern.toList <:+: sink.toList := by
  simp only [sinks, CallGraph.methodsMatching, List.mem_flatMap, List.mem_filter, includes_iff]
  constructor
  · rintro ⟨pattern, hpattern, hsink, hincludes⟩
    exact ⟨hsink, pattern, hpattern, hincludes⟩
  · rintro ⟨hsink, pattern, hpattern, hincludes⟩
    exact ⟨pattern, hpattern, hsink, hincludes⟩

theorem flow?_eq_some {analyzer : Analyzer} {depth : Nat} {entry : EntryPoint}
    {lifecycle sink : String} {flow : SinkFlow}
    (hflow : analyzer.flow? depth entry lifecycle sink = some flow) :
    flow.entryPoint = entry.className ∧ flow.sink = sink ∧ flow.paths ≠ [] ∧
      flow.paths = analyzer.graph.paths (entered entry.className lifecycle) sink depth := by
  simp only [flow?] at hflow
  split at hflow
  · cases hflow
  · next hpaths =>
      cases hflow
      exact ⟨rfl, rfl, fun hnil => hpaths (List.isEmpty_iff.mpr hnil), rfl⟩

theorem flow?_isSome {analyzer : Analyzer} {depth : Nat} {entry : EntryPoint}
    {lifecycle sink : String} {path : CallPath}
    (hpath : path ∈ analyzer.graph.paths (entered entry.className lifecycle) sink depth) :
    ∃ flow, analyzer.flow? depth entry lifecycle sink = some flow := by
  have hsome : (analyzer.graph.paths (entered entry.className lifecycle) sink depth).isEmpty = false :=
    List.isEmpty_eq_false_iff.mpr (List.ne_nil_of_mem hpath)
  exact ⟨_, if_neg (Bool.eq_false_iff.mp hsome)⟩

theorem mem_flowsTo {analyzer : Analyzer} {patterns : List String} {depth : Nat} {flow : SinkFlow} :
    flow ∈ analyzer.flowsTo patterns depth ↔
      ∃ entry ∈ analyzer.survey.entryPoints, ∃ lifecycle ∈ entryMethods,
        ∃ sink ∈ analyzer.sinks patterns,
          analyzer.flow? depth entry lifecycle sink = some flow := by
  simp only [flowsTo, List.mem_flatMap, List.mem_filterMap]

/-- A path is shown if a search from a lifecycle method of the entry point to the sink finds it. -/
theorem shown_flowsTo_iff {analyzer : Analyzer} {patterns : List String} {depth : Nat}
    {entryPoint sink : String} {path : CallPath} :
    SinkFlow.Shown (analyzer.flowsTo patterns depth) entryPoint sink path ↔
      entryPoint ∈ analyzer.survey.entryPoints.map EntryPoint.className ∧
        sink ∈ analyzer.sinks patterns ∧
        ∃ lifecycle ∈ entryMethods,
          path ∈ analyzer.graph.paths (entered entryPoint lifecycle) sink depth := by
  constructor
  · rintro ⟨flow, hflow, rfl, rfl, hpath⟩
    obtain ⟨entry, hentry, lifecycle, hlifecycle, sink, hsink, hflow⟩ := mem_flowsTo.mp hflow
    obtain ⟨hname, rfl, -, hpaths⟩ := flow?_eq_some hflow
    rw [hname]
    exact ⟨List.mem_map_of_mem hentry, hsink, lifecycle, hlifecycle, hpaths ▸ hpath⟩
  · rintro ⟨hdeclared, hsink, lifecycle, hlifecycle, hpath⟩
    obtain ⟨entry, hentry, rfl⟩ := List.mem_map.mp hdeclared
    obtain ⟨flow, hflow⟩ := flow?_isSome hpath
    obtain ⟨hname, hsame, -, hpaths⟩ := flow?_eq_some hflow
    refine ⟨flow, mem_flowsTo.mpr ⟨entry, hentry, lifecycle, hlifecycle, sink, hsink, hflow⟩, hname,
      hsame, ?_⟩
    rwa [hpaths]

end Analyzer

/-! ## Flows of an app -/

/-- The path is a flow of the app: the manifest declares the entry point, the sink stands in a call and
its name includes a pattern, and a chain leads along the path from a lifecycle method to the first
method that includes the sink. -/
structure IsFlow (manifest : Manifest) (calls : List Call) (patterns : List String) (depth : Nat)
    (entryPoint sink : String) (path : CallPath) : Prop where
  declared : entryPoint ∈ manifest.activities ++ manifest.services ++ manifest.receivers
  occurs : ∃ call ∈ calls, call.caller = sink ∨ call.callee = sink
  matched : ∃ pattern ∈ patterns, pattern.toList <:+: sink.toList
  led : ∃ lifecycle ∈ Analyzer.entryMethods, ∃ chain : Chain,
    chain.Leads (.ofCalls calls) (Analyzer.entered entryPoint lifecycle) sink depth ∧
      chain.toPath (Analyzer.entered entryPoint lifecycle) = path

theorem IsFlow.mono {manifest : Manifest} {calls more : List Call} {patterns further : List String}
    {depth deeper : Nat} (hcalls : calls ⊆ more) (hpatterns : patterns ⊆ further)
    (hdepth : depth ≤ deeper) {entryPoint sink : String} {path : CallPath}
    (hflow : IsFlow manifest calls patterns depth entryPoint sink path) :
    IsFlow manifest more further deeper entryPoint sink path := by
  obtain ⟨hdeclared, ⟨call, hcall, hends⟩, ⟨pattern, hpattern, hincludes⟩, lifecycle, hlifecycle,
    chain, hleads, rfl⟩ := hflow
  refine ⟨hdeclared, ⟨call, hcalls hcall, hends⟩, ⟨pattern, hpatterns hpattern, hincludes⟩,
    lifecycle, hlifecycle, ?_⟩
  exact hleads.exists_larger (CallGraph.callsFrom_subset_ofCalls hcalls) hdepth

theorem shown_iff_isFlow {manifest : Manifest} {outlines : List ClassOutline} {calls : List Call}
    {patterns : List String} {depth : Nat} {entryPoint sink : String} {path : CallPath} :
    SinkFlow.Shown ((Analyzer.ofApp manifest outlines calls).flowsTo patterns depth) entryPoint sink
        path ↔
      IsFlow manifest calls patterns depth entryPoint sink path := by
  simp only [Analyzer.shown_flowsTo_iff, map_className_entryPoints, Analyzer.mem_sinks,
    Analyzer.ofApp, CallGraph.mem_allMethods_ofCalls,
    CallGraph.mem_paths (CallGraph.filed_ofCalls calls)]
  constructor
  · rintro ⟨hdeclared, ⟨hoccurs, hmatched⟩, hled⟩
    exact ⟨hdeclared, hoccurs, hmatched, hled⟩
  · rintro ⟨hdeclared, hoccurs, hmatched, hled⟩
    exact ⟨hdeclared, ⟨hoccurs, hmatched⟩, hled⟩

/-- The analysis shows exactly the flows of an app, and none is lost with more calls, more patterns
or a greater depth. -/
theorem larger_analysis_shows_flows (manifest : Manifest) (outlines : List ClassOutline)
    {calls more : List Call} {patterns further : List String} {depth deeper : Nat}
    (hcalls : calls ⊆ more) (hpatterns : patterns ⊆ further) (hdepth : depth ≤ deeper)
    (entryPoint sink : String) (path : CallPath) :
    (SinkFlow.Shown ((Analyzer.ofApp manifest outlines calls).flowsTo patterns depth) entryPoint sink
        path ↔
      IsFlow manifest calls patterns depth entryPoint sink path) ∧
    (SinkFlow.Shown ((Analyzer.ofApp manifest outlines calls).flowsTo patterns depth) entryPoint sink
        path →
      SinkFlow.Shown ((Analyzer.ofApp manifest outlines more).flowsTo further deeper) entryPoint sink
        path) := by
  refine ⟨shown_iff_isFlow, ?_⟩
  intro hshown
  rw [shown_iff_isFlow] at hshown ⊢
  exact hshown.mono hcalls hpatterns hdepth

/-- A lifecycle method that calls a method including the sink is a flow of its own. -/
theorem isFlow_of_call {manifest : Manifest} {calls : List Call} {patterns : List String} {depth : Nat}
    {entryPoint lifecycle sink pattern : String} {call : Call}
    (hdeclared : entryPoint ∈ manifest.activities ++ manifest.services ++ manifest.receivers)
    (hlifecycle : lifecycle ∈ Analyzer.entryMethods) (hcall : call ∈ calls)
    (hcaller : call.caller = Analyzer.entered entryPoint lifecycle)
    (hoccurs : ∃ other ∈ calls, other.caller = sink ∨ other.callee = sink)
    (hpattern : pattern ∈ patterns) (hmatched : includes sink pattern = true) (hdepth : 2 ≤ depth)
    (hopen : includes call.caller sink = false) (hreaches : includes call.callee sink = true) :
    IsFlow manifest calls patterns depth entryPoint sink ⟨[call.caller, call.callee], [call], 1⟩ := by
  have hfiled : call ∈ (CallGraph.ofCalls calls).callsFrom call.caller := by
    rw [CallGraph.callsFrom_ofCalls]
    exact List.mem_filter.mpr ⟨hcall, decide_eq_true rfl⟩
  obtain ⟨place, hplace⟩ := List.mem_iff_getElem?.mp hfiled
  have hdifferent : call.caller ≠ call.callee := by
    intro hsame
    rw [hsame, hreaches] at hopen
    cases hopen
  refine ⟨hdeclared, hoccurs, ⟨pattern, hpattern, includes_iff.mp hmatched⟩, lifecycle, hlifecycle,
    [⟨call, place⟩], ?_, ?_⟩
  · rw [← hcaller]
    refine ⟨⟨List.forall_mem_singleton.mpr hplace, ⟨rfl, trivial⟩, ?_⟩, hdepth,
      includes_iff.mp hreaches, ?_⟩
    · simpa [Chain.visited] using hdifferent
    · simpa [Chain.behind, Chain.visited, ← includes_iff] using hopen
  · rw [← hcaller]
    rfl

/-- The activity opens a page in the web view of the app. -/
def openPage : Call := ⟨"A.onCreate", "app.Web.loadUrl(): void", "1"⟩

/-- Another class opens one in a web view whose name ends that of the first. -/
def openElsewhere : Call := ⟨"B.run", "Web.loadUrl(): void", "2"⟩

def oneActivity : Manifest := { package := "app", activities := ["A"] }

def openedPath : CallPath := ⟨["A.onCreate", "app.Web.loadUrl(): void"], [openPage], 1⟩

theorem isFlow_openedPath {rest : List Call} {patterns : List String} {depth : Nat} {sink : String}
    (hoccurs : ∃ call ∈ openPage :: rest, call.caller = sink ∨ call.callee = sink)
    (hpattern : "loadUrl" ∈ patterns) (hmatched : includes sink "loadUrl" = true)
    (hdepth : 2 ≤ depth) (hopen : includes "A.onCreate" sink = false)
    (hreaches : includes "app.Web.loadUrl(): void" sink = true) :
    IsFlow oneActivity (openPage :: rest) patterns depth "A" sink openedPath :=
  isFlow_of_call (by simp [oneActivity]) (show "onCreate" ∈ _ by simp [Analyzer.entryMethods])
    List.mem_cons_self (by decide) hoccurs hpattern hmatched hdepth hopen hreaches

/-- The opened page is shown, and still shown where another class opens one, too. -/
theorem openedPath_stays_shown :
    SinkFlow.Shown ((Analyzer.ofApp oneActivity [] [openPage]).flowsTo ["loadUrl"] 2) "A"
      "app.Web.loadUrl(): void" openedPath ∧
    SinkFlow.Shown ((Analyzer.ofApp oneActivity [] [openElsewhere, openPage]).flowsTo
      Analyzer.webViewPatterns 5) "A" "app.Web.loadUrl(): void" openedPath := by
  obtain ⟨hiff, hlarger⟩ := larger_analysis_shows_flows oneActivity []
    (show [openPage] ⊆ [openElsewhere, openPage] by simp)
    (show ["loadUrl"] ⊆ Analyzer.webViewPatterns by simp [Analyzer.webViewPatterns])
    (show 2 ≤ 5 by decide) "A" "app.Web.loadUrl(): void" openedPath
  have hshown := hiff.mpr (isFlow_openedPath ⟨openPage, List.mem_cons_self, .inr rfl⟩
    List.mem_cons_self (by cbv) (Nat.le_refl 2) (by cbv) (by cbv))
  exact ⟨hshown, hlarger hshown⟩

/-! ## The end of a flow -/

theorem CallGraph.source?_of_mem_paths {graph : CallGraph} (hfiled : graph.Filed)
    {source target : String} {depth : Nat} {path : CallPath}
    (hpath : path ∈ graph.paths source target depth) : path.source? = some source := by
  obtain ⟨chain, -, rfl⟩ := (mem_paths hfiled).mp hpath
  rfl

theorem Analyzer.source_of_flow? {analyzer : Analyzer} (hfiled : analyzer.graph.Filed) {depth : Nat}
    {entry : EntryPoint} {lifecycle sink : String} {flow : SinkFlow}
    (hflow : analyzer.flow? depth entry lifecycle sink = some flow) :
    flow.source = entered entry.className lifecycle := by
  obtain ⟨-, -, hsome, hpaths⟩ := flow?_eq_some hflow
  obtain ⟨path, rest, hcons⟩ := List.exists_cons_of_ne_nil hsome
  have hpath : path ∈ analyzer.graph.paths (entered entry.className lifecycle) sink depth := by
    rw [← hpaths, hcons]
    exact List.mem_cons_self
  rw [SinkFlow.source, hcons, List.head?_cons, Option.bind_some,
    CallGraph.source?_of_mem_paths hfiled hpath, Option.getD_some]

/-- A flow begins at the lifecycle method by which its entry point is entered, and its paths are those
that a search from there to its sink finds. -/
theorem Analyzer.paths_of_mem_flowsTo {analyzer : Analyzer} (hfiled : analyzer.graph.Filed)
    {patterns : List String} {depth : Nat} {flow : SinkFlow}
    (hflow : flow ∈ analyzer.flowsTo patterns depth) :
    (∃ lifecycle ∈ entryMethods, flow.source = entered flow.entryPoint lifecycle) ∧
      flow.paths = analyzer.graph.paths flow.source flow.sink depth := by
  obtain ⟨entry, -, lifecycle, hlifecycle, sink, -, hflow⟩ := mem_flowsTo.mp hflow
  have hsource := source_of_flow? hfiled hflow
  obtain ⟨hname, rfl, -, hpaths⟩ := flow?_eq_some hflow
  rw [hname, hsource]
  exact ⟨⟨lifecycle, hlifecycle, rfl⟩, hpaths⟩

/-- A flow comes to exactly those methods that include its sink and can be approached from its
lifecycle method. All its paths end in the sink itself exactly if no other method with such a name can
be approached. -/
theorem flow_ends_in_sink_iff (manifest : Manifest) (outlines : List ClassOutline)
    (calls : List Call) (patterns : List String) (depth : Nat) {flow : SinkFlow}
    (hflow : flow ∈ (Analyzer.ofApp manifest outlines calls).flowsTo patterns depth) :
    (∃ lifecycle ∈ Analyzer.entryMethods,
      flow.source = Analyzer.entered flow.entryPoint lifecycle) ∧
    (∀ method, (∃ path ∈ flow.paths, path.target? = some method) ↔
      flow.sink.toList <:+: method.toList ∧
        ∃ n < depth, Approach (.ofCalls calls) flow.source flow.sink n method) ∧
    ((∀ path ∈ flow.paths, path.target? = some flow.sink) ↔
      ∀ n < depth, ∀ method, Approach (.ofCalls calls) flow.source flow.sink n method →
        flow.sink.toList <:+: method.toList → method = flow.sink) := by
  have hfiled := CallGraph.filed_ofCalls calls
  obtain ⟨hsource, hpaths⟩ := Analyzer.paths_of_mem_flowsTo hfiled hflow
  have hends (method : String) : (∃ path ∈ flow.paths, path.target? = some method) ↔
      flow.sink.toList <:+: method.toList ∧
        ∃ n < depth, Approach (.ofCalls calls) flow.source flow.sink n method := by
    rw [hpaths]
    exact CallGraph.exists_path_to_iff hfiled
  refine ⟨hsource, hends, ?_, ?_⟩
  · intro hexact n hn method happroach hincludes
    obtain ⟨path, hpath, hend⟩ := (hends method).mpr ⟨hincludes, n, hn, happroach⟩
    exact Option.some.inj (hend.symm.trans (hexact path hpath))
  · intro honly path hpath
    obtain ⟨chain, -, hchain⟩ := (CallGraph.mem_paths hfiled).mp (hpaths ▸ hpath)
    have hend : path.target? = some (chain.here flow.source) := by
      rw [← hchain]
      exact chain.target?_toPath flow.source
    obtain ⟨hincludes, n, hn, happroach⟩ := (hends _).mp ⟨path, hpath, hend⟩
    rw [hend, honly n hn _ happroach hincludes]

/-- Neither the other class nor the web view that it calls is ever approached. -/
theorem not_approach_openElsewhere {lifecycle target : String}
    (hlifecycle : lifecycle ∈ Analyzer.entryMethods) {n : Nat} {method : String}
    (happroach : Approach (.ofCalls [openPage, openElsewhere]) (Analyzer.entered "A" lifecycle) target
      n method) :
    method ≠ "B.run" ∧ method ≠ "Web.loadUrl(): void" := by
  induction happroach with
  | start =>
      revert lifecycle
      decide
  | call _ _ hcallee ih =>
      obtain ⟨call, hcall, rfl, rfl⟩ := CallGraph.mem_callees_ofCalls.mp hcallee
      simp only [List.mem_cons, List.not_mem_nil, or_false] at hcall
      rcases hcall with rfl | rfl
      · decide
      · exact absurd rfl ih.1

/-- The page that the activity opens is shown as a flow to the web view of the other class, which it
never comes to. -/
theorem openedPath_shown_for_other_sink :
    ∃ flow ∈ (Analyzer.ofApp oneActivity [] [openPage, openElsewhere]).flowsTo
        Analyzer.webViewPatterns 5,
      flow.entryPoint = "A" ∧ flow.sink = "Web.loadUrl(): void" ∧
      (∃ path ∈ flow.paths, path.target? = some "app.Web.loadUrl(): void") ∧
      ¬ ∃ path ∈ flow.paths, path.target? = some flow.sink := by
  have hshown : IsFlow oneActivity [openPage, openElsewhere] Analyzer.webViewPatterns 5 "A"
      "Web.loadUrl(): void" openedPath :=
    isFlow_openedPath ⟨openElsewhere, by simp, .inr rfl⟩ (by simp [Analyzer.webViewPatterns]) (by cbv)
      (by decide) (by cbv) (by cbv)
  obtain ⟨flow, hflow, hentry, hsink, hpath⟩ := shown_iff_isFlow.mpr hshown
  obtain ⟨⟨lifecycle, hlifecycle, hsource⟩, hends, -⟩ :=
    flow_ends_in_sink_iff oneActivity [] _ _ _ hflow
  refine ⟨flow, hflow, hentry, hsink, ⟨openedPath, hpath, rfl⟩, ?_⟩
  intro hexact
  obtain ⟨-, n, -, happroach⟩ := (hends flow.sink).mp hexact
  rw [hsource, hentry] at happroach
  exact (not_approach_openElsewhere hlifecycle happroach).2 hsink

end AppSurvey.Flow
