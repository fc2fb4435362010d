import AppSurvey.Proofs.Flow.Analysis
import AppSurvey.Proofs.Flow.PathOrder

/-!
# What a flow says of its paths

A flow tells how many paths it has, how long the shortest of them are and which path is a shortest one.
Each of these is worked out on its own from the list of paths. They fit one another because a search
lists shorter paths first, so that the path at the head of the list is the one to be told.
-/

namespace AppSurvey.Flow

open Text Apk Dex

namespace CallGraph

theorem pairwise_length_paths {graph : CallGraph} (hfiled : graph.Filed) (source target : String)
    (depth : Nat) :
    (graph.paths source target depth).Pairwise fun first second => first.length ≤ second.length := by
  rw [paths_eq_map_found, List.pairwise_map]
  apply (pairwise_found hfiled source target depth).imp
  intro first second hprecedes
  rcases hprecedes with hshorter | ⟨hsame, -⟩
  · exact Nat.le_of_lt hshorter
  · exact Nat.le_of_eq hsame

/-- A path that a search finds has one method more than calls, each of them once and no more than the
depth allows, and ends in a method that includes the target. -/
theorem methods_of_mem_paths {graph : CallGraph} (hfiled : graph.Filed) {source target : String}
    {depth : Nat} {path : CallPath} (hpath : path ∈ graph.paths source target depth) :
    path.methods.length = path.length + 1 ∧ path.methods.length ≤ depth ∧ path.methods.Nodup ∧
      ∃ last, path.target? = some last ∧ target.toList <:+: last.toList := by
  obtain ⟨chain, hleads, rfl⟩ := (mem_paths hfiled).mp hpath
  have hlength := chain.length_methods_toPath source
  refine ⟨hlength, ?_, hleads.simple.nodup, chain.here source, ?_, hleads.reaches⟩
  · rw [hlength]
    exact hleads.bounded
  · exact chain.target?_toPath source

end CallGraph

namespace SinkFlow

theorem mem_of_shortest? {paths : List CallPath} {path : CallPath}
    (hpath : shortest? paths = some path) : path ∈ paths := by
  induction paths generalizing path with
  | nil => cases hpath
  | cons head rest ih =>
      rw [shortest?] at hpath
      split at hpath
      next other hother =>
        split at hpath
        · cases hpath
          exact List.mem_cons_of_mem _ (ih hother)
        · cases hpath
          exact List.mem_cons_self
      next =>
        cases hpath
        exact List.mem_cons_self

/-- If none of the others is shorter, the path at the head is the one to be told. -/
theorem shortest?_cons_of_le {head : CallPath} {rest : List CallPath}
    (hle : ∀ path ∈ rest, head.length ≤ path.length) : shortest? (head :: rest) = some head := by
  rw [shortest?]
  split
  next other hother =>
    rw [if_neg]
    exact Nat.not_lt_of_le (hle other (mem_of_shortest? hother))
  next => rfl

end SinkFlow

namespace Analyzer

theorem minLength_cons_of_le {head : CallPath} {rest : List CallPath}
    (hle : ∀ path ∈ rest, head.length ≤ path.length) : minLength (head :: rest) = head.length := by
  have hleast : ((head :: rest).map CallPath.length).min? = some head.length := by
    rw [List.min?_eq_some_iff]
    simpa using hle
  rw [minLength, hleast, Option.getD_some]

/-- What a flow takes over from its entry point, and what it tells of its paths. -/
theorem summary_of_flow? {analyzer : Analyzer} {depth : Nat} {entry : EntryPoint}
    {lifecycle sink : String} {flow : SinkFlow}
    (hflow : analyzer.flow? depth entry lifecycle sink = some flow) :
    flow.componentType = entry.type.name ∧ flow.isDeeplink = entry.isDeeplink ∧
      flow.minLength = minLength flow.paths ∧ flow.pathCount = flow.paths.length := by
  simp only [flow?] at hflow
  split at hflow
  · cases hflow
  · cases hflow
    exact ⟨rfl, rfl, rfl, rfl⟩

end Analyzer

/-- What a flow of an app says of itself fits its paths: the first of them is the one told as shortest,
its length is the one told as least, and their number is the one told. They all begin at one lifecycle
method of the entry point, keep to the depth, visit no method twice and end in a method that includes the
sink. The sink is a method of the app that includes a pattern, and the entry point is one of its own. -/
theorem flow_fits_its_paths (manifest : Manifest) (outlines : List ClassOutline) (calls : List Call)
    (patterns : List String) (depth : Nat) {flow : SinkFlow}
    (hflow : flow ∈ (Analyzer.ofApp manifest outlines calls).flowsTo patterns depth) :
    (∃ first rest, flow.paths = first :: rest ∧ flow.shortestPath? = some first ∧
      flow.minLength = first.length ∧ ∀ path ∈ flow.paths, flow.minLength ≤ path.length) ∧
    flow.pathCount = flow.paths.length ∧
    (∃ lifecycle ∈ ["onCreate", "onStart", "onResume", "onNewIntent"],
      ∀ path ∈ flow.paths, path.source? = some (flow.entryPoint ++ "." ++ lifecycle)) ∧
    (∀ path ∈ flow.paths, path.methods.length = path.length + 1 ∧ path.methods.length ≤ depth ∧
      path.methods.Nodup ∧ ∃ last, path.target? = some last ∧ flow.sink.toList <:+: last.toList) ∧
    (flow.sink ∈ (CallGraph.ofCalls calls).allMethods ∧
      ∃ pattern ∈ patterns, pattern.toList <:+: flow.sink.toList) ∧
    ∃ entry ∈ (Survey.make manifest outlines).entryPoints,
      flow.entryPoint = entry.className ∧ flow.componentType = entry.type.name ∧
        flow.isDeeplink = entry.isDeeplink := by
  have hfiled := CallGraph.filed_ofCalls calls
  obtain ⟨entry, hentry, lifecycle, hlifecycle, sink, hsink, hflow⟩ := Analyzer.mem_flowsTo.mp hflow
  obtain ⟨hname, rfl, hsome, hpaths⟩ := Analyzer.flow?_eq_some hflow
  obtain ⟨htype, hdeeplink, hleast, hcount⟩ := Analyzer.summary_of_flow? hflow
  refine ⟨?_, hcount, ?_, ?_, Analyzer.mem_sinks.mp hsink, entry, hentry, hname, htype, hdeeplink⟩
  · obtain ⟨first, rest, hcons⟩ := List.exists_cons_of_ne_nil hsome
    have hordered : (first :: rest).Pairwise fun one other => one.length ≤ other.length := by
      rw [← hcons, hpaths]
      exact CallGraph.pairwise_length_paths hfiled _ _ depth
    have hle := (List.pairwise_cons.mp hordered).1
    rw [hcons, Analyzer.minLength_cons_of_le hle] at hleast
    refine ⟨first, rest, hcons, ?_, hleast, ?_⟩
    · rw [SinkFlow.shortestPath?, hcons, SinkFlow.shortest?_cons_of_le hle]
    · rw [hleast, hcons]
      exact List.forall_mem_cons.mpr ⟨Nat.le_refl _, hle⟩
  · refine ⟨lifecycle, hlifecycle, ?_⟩
    intro path hpath
    rw [hpaths] at hpath
    rw [hname]
    exact CallGraph.source?_of_mem_paths hfiled hpath
  · intro path hpath
    rw [hpaths] at hpath
    exact CallGraph.methods_of_mem_paths hfiled hpath

/-- An activity that answers links. -/
def linkedActivity : Manifest :=
  { package := "app"
    activities := ["A"]
    filters := [{ activity := "A", actions := ["VIEW"], categories := ["BROWSABLE"], links := [{}] }] }

/-- The activity asks a helper to open a page before it opens one itself. -/
def pageOpenedTwice : List Call :=
  [⟨"A.onCreate", "B.go", "1"⟩, ⟨"B.go", "Web.loadUrl", "2"⟩, ⟨"A.onCreate", "Web.loadUrl", "3"⟩]

def directPath : CallPath :=
  ⟨["A.onCreate", "Web.loadUrl"], [⟨"A.onCreate", "Web.loadUrl", "3"⟩], 1⟩

def helpedPath : CallPath :=
  ⟨["A.onCreate", "B.go", "Web.loadUrl"],
    [⟨"A.onCreate", "B.go", "1"⟩, ⟨"B.go", "Web.loadUrl", "2"⟩], 2⟩

theorem paths_pageOpenedTwice :
    (CallGraph.ofCalls pageOpenedTwice).paths (Analyzer.entered "A" "onCreate") "Web.loadUrl" 3 =
      [directPath, helpedPath] := by
  have hstart : includes "A.onCreate" "Web.loadUrl" = false := by cbv
  have hhelper : includes "B.go" "Web.loadUrl" = false := by cbv
  have hend : includes "Web.loadUrl" "Web.loadUrl" = true := by cbv
  have hentered : Analyzer.entered "A" "onCreate" = "A.onCreate" := by decide
  simp [hentered, CallGraph.paths, CallGraph.search_succ, CallGraph.search, Trail.start, Trail.reaches,
    Trail.next, Trail.follow?, Trail.visited, Trail.toPath, CallGraph.callsFrom_ofCalls,
    pageOpenedTwice, directPath, helpedPath, hstart, hhelper, hend]

/-- The direct call is told as the shortest of two paths, although it was recorded last. -/
theorem directPath_told_as_shortest :
    ∃ flow ∈ (Analyzer.ofApp linkedActivity [] pageOpenedTwice).flowsTo ["loadUrl"] 3,
      flow.entryPoint = "A" ∧ flow.sink = "Web.loadUrl" ∧ flow.isDeeplink = true ∧
        flow.paths = [directPath, helpedPath] ∧ flow.shortestPath? = some directPath ∧
        flow.minLength = 1 ∧ flow.pathCount = 2 := by
  let analyzer := Analyzer.ofApp linkedActivity [] pageOpenedTwice
  let entry := analyzer.survey.activityEntry "A"
  have hfound : analyzer.graph.paths (Analyzer.entered entry.className "onCreate") "Web.loadUrl" 3 =
      [directPath, helpedPath] := paths_pageOpenedTwice
  obtain ⟨flow, hflow⟩ : ∃ flow, analyzer.flow? 3 entry "onCreate" "Web.loadUrl" = some flow := by
    apply Analyzer.flow?_isSome
    rw [hfound]
    exact List.mem_cons_self
  have hlisted : flow ∈ analyzer.flowsTo ["loadUrl"] 3 := by
    refine Analyzer.mem_flowsTo.mpr ⟨entry, ?_, "onCreate", List.mem_cons_self, "Web.loadUrl", ?_, hflow⟩
    · exact List.mem_append_left _ (List.mem_append_left _ List.mem_cons_self)
    · refine Analyzer.mem_sinks.mpr ⟨CallGraph.mem_allMethods_ofCalls.mpr ?_, "loadUrl",
        List.mem_cons_self, includes_iff.mp (by cbv)⟩
      exact ⟨⟨"B.go", "Web.loadUrl", "2"⟩, by simp [pageOpenedTwice], .inr rfl⟩
  obtain ⟨hname, hsink, -, hpaths⟩ := Analyzer.flow?_eq_some hflow
  rw [hfound] at hpaths
  obtain ⟨⟨first, rest, hcons, hshortest, hleast, -⟩, hcount, -⟩ :=
    flow_fits_its_paths linkedActivity [] pageOpenedTwice ["loadUrl"] 3 hlisted
  obtain ⟨rfl, -⟩ := List.cons.inj (hpaths.symm.trans hcons)
  have hdeeplink : entry.isDeeplink = true := by cbv
  rw [← (Analyzer.summary_of_flow? hflow).2.1] at hdeeplink
  rw [hpaths] at hcount
  exact ⟨flow, hlisted, hname, hsink, hdeeplink, hpaths, hshortest, hleast, hcount⟩

end AppSurvey.Flow
