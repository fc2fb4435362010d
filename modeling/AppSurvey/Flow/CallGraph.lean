import Std.Data.HashMap
import Std.Data.HashSet
import AppSurvey.Text.Search

/-!
# Call graphs

A call graph records which method calls which. Calls are kept in the order in which they were added,
one record for each, so that two calls of the same method count twice. `CallGraph.ofCalls` is the
graph of a list of calls.
-/

namespace AppSurvey.Flow

open Text

/-- A call of one method by another, and where it stands. -/
structure Call where
  caller : String
  callee : String
  site : String
  deriving DecidableEq

def Call.summary (call : Call) : String :=
  s!"{call.caller} → {call.callee}"

/-- The calls by caller, the callers by callee, and every method that occurs. -/
structure CallGraph where
  outgoing : Std.HashMap String (Array Call) := ∅
  incoming : Std.HashMap String (Array String) := ∅
  methods : Std.HashSet String := ∅

namespace CallGraph

/-- The graph without calls. -/
def empty : CallGraph := {}

/-- Adds a call behind those that the graph has. -/
def add (graph : CallGraph) (call : Call) : CallGraph :=
  { outgoing :=
      graph.outgoing.insert call.caller ((graph.outgoing.getD call.caller #[]).push call)
    incoming :=
      graph.incoming.insert call.callee ((graph.incoming.getD call.callee #[]).push call.caller)
    methods := (graph.methods.insert call.caller).insert call.callee }

/-- The graph of a list of calls. -/
def ofCalls (calls : List Call) : CallGraph :=
  calls.foldl add empty

/-- The calls that a method makes, in order. -/
def callsFrom (graph : CallGraph) (method : String) : List Call :=
  (graph.outgoing.getD method #[]).toList

/-- The methods that a method calls, in order. -/
def callees (graph : CallGraph) (method : String) : List String :=
  (graph.callsFrom method).map Call.callee

/-- The methods that call a method, in order. -/
def callers (graph : CallGraph) (method : String) : List String :=
  (graph.incoming.getD method #[]).toList

/-- Every method of the graph once, sorted. -/
def allMethods (graph : CallGraph) : List String :=
  graph.methods.toList.mergeSort fun a b => decide (a ≤ b)

/-- How many methods the graph has. -/
def methodCount (graph : CallGraph) : Nat :=
  graph.methods.size

/-- How many calls are filed under all the callers. -/
def edgeCount (graph : CallGraph) : Nat :=
  graph.outgoing.fold (fun total _ calls => total + calls.size) 0

/-- The methods whose name includes a pattern, sorted. -/
def methodsMatching (graph : CallGraph) (pattern : String) : List String :=
  graph.allMethods.filter fun method => includes method pattern

def summary (graph : CallGraph) : String :=
  s!"CallGraph(methods={graph.methodCount}, edges={graph.edgeCount})"

end CallGraph

end AppSurvey.Flow
