import AppSurvey.Apk.EntryPoint
import AppSurvey.Flow.Path

/-!
# Flows from entry points to sinks

A flow says that a component, entered through one of its lifecycle methods, can come to a method of
interest, its sink. Flows are looked for from every entry point, through every lifecycle method by
which the system enters a component, to every method whose name includes one of the sink patterns.
-/

namespace AppSurvey.Flow

open Text Apk

/-- The paths from one lifecycle method of a component to a sink. -/
structure SinkFlow where
  entryPoint : String
  componentType : String
  sink : String
  paths : List CallPath
  isDeeplink : Bool
  minLength : Nat
  pathCount : Nat

namespace SinkFlow

def summary (flow : SinkFlow) : String :=
  s!"Flow({flow.entryPoint} → {flow.sink} via {flow.pathCount} path(s), depth={flow.minLength})"

/-- The first of the shortest paths. -/
def shortest? : List CallPath → Option CallPath
  | [] => none
  | path :: rest =>
      match shortest? rest with
      | some other => if other.length < path.length then some other else some path
      | none => some path

/-- The first of the flow's shortest paths. -/
def shortestPath? (flow : SinkFlow) : Option CallPath := shortest? flow.paths

/-- The methods by which the system drives a component. -/
def lifecycleNames : List String :=
  ["onCreate", "onStart", "onResume", "onPause", "onStop", "onDestroy", "onNewIntent",
    "onActivityResult", "onRequestPermissionsResult"]

/-- The lifecycle methods on the paths, each once, sorted. -/
def lifecycleMethods (flow : SinkFlow) : List String :=
  let found := (flow.paths.flatMap CallPath.methods).filter fun method =>
    includesAny method lifecycleNames
  found.eraseDups.mergeSort fun a b => decide (a ≤ b)

/-- The method that the first path of the flow begins with. -/
def source (flow : SinkFlow) : String :=
  (flow.paths.head?.bind CallPath.source?).getD ""

/-- The order of report: by entry point, component type, sink and first method. -/
def precedes (a b : SinkFlow) : Bool :=
  let key (flow : SinkFlow) := [flow.entryPoint, flow.componentType, flow.sink, flow.source]
  !List.lex (key b) (key a) fun x y => decide (x < y)

/-- The flows in the order of report. -/
def inOrder (flows : List SinkFlow) : List SinkFlow := flows.mergeSort precedes

end SinkFlow

/-- How sure it is that data travels along a path, in tenths. -/
inductive Confidence where
  | high
  | good
  | fair
  | low
  deriving DecidableEq

namespace Confidence

/-- The shorter the path, the surer. -/
def ofLength (length : Nat) : Confidence :=
  if length ≤ 3 then .high
  else if length ≤ 5 then .good
  else if length ≤ 8 then .fair
  else .low

def tenths : Confidence → Nat
  | .high => 9
  | .good => 7
  | .fair => 5
  | .low => 3

end Confidence

/-- Data of a request that travels along a path to a sink. -/
structure DataFlow where
  source : String
  sink : String
  path : List String
  confidence : Confidence

namespace DataFlow

def summary (flow : DataFlow) : String :=
  s!"DataFlow({flow.source} → {flow.sink} via {flow.path.length} hops, "
    ++ s!"confidence=0.{flow.confidence.tenths}0)"

/-- The methods that take data out of a request. -/
def extractors : List String :=
  ["getStringExtra", "getIntExtra", "getBooleanExtra", "getData", "getDataString", "getExtras"]

/-- The data flow along a path: its source is the first method that takes data out of a request. -/
def ofPath? (sink : String) (path : CallPath) : Option DataFlow :=
  (path.methods.find? fun method => includesAny method extractors).map fun source =>
    { source, sink, path := path.methods, confidence := .ofLength path.length }

/-- The data flows along the paths of some flows. -/
def ofFlows (flows : List SinkFlow) : List DataFlow :=
  flows.flatMap fun flow => flow.paths.filterMap (ofPath? flow.sink)

end DataFlow

/-- What flows are looked for in: the entry points of an app and its call graph. -/
structure Analyzer where
  survey : Survey
  graph : CallGraph

namespace Analyzer

/-- The lifecycle methods by which the system enters a component. -/
def entryMethods : List String := ["onCreate", "onStart", "onResume", "onNewIntent"]

/-- The methods that match a pattern, pattern by pattern. -/
def sinks (analyzer : Analyzer) (patterns : List String) : List String :=
  patterns.flatMap analyzer.graph.methodsMatching

/-- The least length of some paths. -/
def minLength (paths : List CallPath) : Nat :=
  (paths.map CallPath.length).min?.getD 0

/-- The flow from one lifecycle method to one sink, if there is a path. -/
def flow? (analyzer : Analyzer) (depth : Nat) (entry : EntryPoint) (lifecycle sink : String) :
    Option SinkFlow :=
  let paths := analyzer.graph.paths s!"{entry.className}.{lifecycle}" sink depth
  if paths.isEmpty then none
  else
    some {
      entryPoint := entry.className
      componentType := entry.type.name
      sink
      paths
      isDeeplink := entry.isDeeplink
      minLength := minLength paths
      pathCount := paths.length }

/-- The flows from every entry point to every sink that matches a pattern. -/
def flowsTo (analyzer : Analyzer) (patterns : List String) (depth : Nat) : List SinkFlow :=
  let sinks := analyzer.sinks patterns
  analyzer.survey.entryPoints.flatMap fun entry =>
    entryMethods.flatMap fun lifecycle =>
      sinks.filterMap (analyzer.flow? depth entry lifecycle)

/-- The flows from entry points that answer links from elsewhere. -/
def deeplinkFlows (analyzer : Analyzer) (patterns : List String) (depth : Nat) : List SinkFlow :=
  (analyzer.flowsTo patterns depth).filter SinkFlow.isDeeplink

/-- The methods that hand something to a web view. -/
def webViewPatterns : List String :=
  ["loadUrl", "loadData", "loadDataWithBaseURL", "evaluateJavascript", "addJavascriptInterface",
    "setWebViewClient", "setWebChromeClient"]

/-- The methods that write files. -/
def filePatterns : List String :=
  ["FileOutputStream", "FileWriter", "RandomAccessFile.write", "Files.write"]

/-- The methods that open connections. -/
def networkPatterns : List String :=
  ["HttpURLConnection", "OkHttp", "URLConnection.connect", "Socket.connect"]

/-- The methods that run database statements. -/
def sqlPatterns : List String := ["execSQL", "rawQuery", "SQLiteDatabase.query"]

/-- How many entry points there are. -/
def entryPointCount (analyzer : Analyzer) : Nat := analyzer.survey.entryPoints.length

/-- How many entry points answer links from elsewhere. -/
def deeplinkCount (analyzer : Analyzer) : Nat :=
  analyzer.survey.entryPoints.countP EntryPoint.isDeeplink

def summary (analyzer : Analyzer) : String :=
  s!"DataFlowAnalyzer(entry_points={analyzer.entryPointCount}, "
    ++ s!"deeplink_handlers={analyzer.deeplinkCount})"

end Analyzer

end AppSurvey.Flow
