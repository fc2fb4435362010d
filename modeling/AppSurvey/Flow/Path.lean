import AppSurvey.Flow.CallGraph

/-!
# Call paths

A path leads from a method through calls to the first method whose name includes a text, and visits
no method twice. `CallGraph.paths` lists every path of bounded length. It goes on level by level: all
trails of one length are looked at before the longer ones, so shorter paths come first, and trails
of one length keep the order of the calls they follow.
-/

namespace AppSurvey.Flow

open Text

/-- The methods of a path in order, the calls between them and how many there are. -/
structure CallPath where
  methods : List String
  calls : List Call
  length : Nat
  deriving DecidableEq

namespace CallPath

def source? (path : CallPath) : Option String := path.methods.head?

def target? (path : CallPath) : Option String := path.methods.getLast?

/-- Does the name of a method of the path include a text? -/
def visits (path : CallPath) (text : String) : Bool :=
  path.methods.any fun method => includes method text

def summary (path : CallPath) : String :=
  String.intercalate " → " path.methods

end CallPath

/-- The beginning of a path: the method it has come to, the methods behind it and the calls that led
here, latest first. -/
structure Trail where
  here : String
  behind : List String
  calls : List Call

namespace Trail

/-- The trail that has not left its first method. -/
def start (method : String) : Trail := ⟨method, [], []⟩

/-- Every method of the trail, latest first. -/
def visited (trail : Trail) : List String := trail.here :: trail.behind

/-- The trail after one more call, unless it leads back to a method of the trail. -/
def follow? (trail : Trail) (call : Call) : Option Trail :=
  if call.callee ∈ trail.visited then none
  else some ⟨call.callee, trail.visited, call :: trail.calls⟩

/-- The trails that go on from this one. -/
def next (trail : Trail) (graph : CallGraph) : List Trail :=
  (graph.callsFrom trail.here).filterMap trail.follow?

/-- Has the trail come to a method whose name includes the target? -/
def reaches (trail : Trail) (target : String) : Bool := includes trail.here target

/-- The trail as a path. -/
def toPath (trail : Trail) : CallPath :=
  { methods := trail.visited.reverse
    calls := trail.calls.reverse
    length := trail.behind.length }

end Trail

namespace CallGraph

/-- The paths that go on from a level of trails, for `depth` levels at most. -/
def search (graph : CallGraph) (target : String) : (depth : Nat) → List Trail → List CallPath
  | 0, _ => []
  | _ + 1, [] => []
  | depth + 1, trail :: level =>
      let (hits, open_) := (trail :: level).partition fun trail => trail.reaches target
      hits.map Trail.toPath ++ search graph target depth (open_.flatMap fun trail => trail.next graph)

/-- The paths from a method to the first one whose name includes the target, with at most `depth`
methods on each. -/
def paths (graph : CallGraph) (source target : String) (depth : Nat) : List CallPath :=
  graph.search target depth [Trail.start source]

/-- The depth of a search for which none is given. -/
def defaultDepth : Nat := 10

end CallGraph

end AppSurvey.Flow
