import AppSurvey.Flow.Analysis
import AppSurvey.Record.Apk

/-!
# Records of calls, paths and flows
-/

namespace AppSurvey.Flow

instance : OfValue Call :=
  ⟨fun value => { caller := value.nth 0, callee := value.nth 1, site := value.nth 2 }⟩

instance : ToValue CallPath where
  toValue path := .record [
    ("methods", toValue path.methods),
    ("length", toValue path.length),
    ("source", toValue path.source?),
    ("target", toValue path.target?)]

/-- A path of which the calls are not known. -/
instance : OfValue CallPath where
  ofValue value := { methods := value.get "methods", calls := [], length := value.get "length" }

instance : ToValue SinkFlow where
  toValue flow := .record [
    ("entry_point", toValue flow.entryPoint),
    ("component_type", toValue flow.componentType),
    ("sink_method", toValue flow.sink),
    ("paths", toValue flow.paths),
    ("is_deeplink_handler", toValue flow.isDeeplink),
    ("min_path_length", toValue flow.minLength),
    ("path_count", toValue flow.pathCount),
    ("shortest_path", toValue (flow.shortestPath?.map CallPath.summary)),
    ("lifecycle_methods", toValue flow.lifecycleMethods)]

instance : OfValue SinkFlow where
  ofValue value :=
    { entryPoint := value.get "entry_point"
      componentType := value.get "component_type"
      sink := value.get "sink_method"
      paths := value.get "paths"
      isDeeplink := value.get "is_deeplink_handler"
      minLength := value.get "min_path_length"
      pathCount := value.get "path_count" }

instance : ToValue Confidence :=
  ⟨fun confidence => .number (.float (.ofDecimal false confidence.tenths (-1)))⟩

instance : ToValue DataFlow where
  toValue flow := .record [
    ("source", toValue flow.source),
    ("sink", toValue flow.sink),
    ("flow_path", toValue flow.path),
    ("confidence", toValue flow.confidence)]

end AppSurvey.Flow
