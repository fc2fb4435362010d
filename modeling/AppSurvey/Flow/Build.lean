import AppSurvey.Dex.Outline
import AppSurvey.Flow.CallGraph
import AppSurvey.Text.Bytes

/-!
# The call graph of classes

A class adds a call for every expression of its methods that calls a method. The expression names its
target by a signature, or else by a descriptor inside its text such as `Lapp/Page;->open(`.
-/

namespace AppSurvey.Flow

open Text Dex

/-- An expression whose text has an arrow, but its first `L` only behind it. -/
structure MisplacedArrow where
  text : String

/-- The method that a descriptor inside a text names: what stands between the first `L` and the
first arrow, and behind the arrow up to a parenthesis. The two are looked for on their own, so they need
not stand in this order. -/
def descriptorTarget (text : String) : Except MisplacedArrow (Option String) :=
  match bytePosition? ['L'] text.toList, bytePosition? ['-', '>'] text.toList with
  | some start, some arrow =>
      match between? (start + 1) arrow text.toList, behind? (arrow + 2) text.toList with
      | some className, some after =>
          let className := className.map fun c => if c = '/' then '.' else c
          let methodName := after.takeWhile (· != '(')
          .ok (some (String.ofList (className ++ '.' :: methodName)))
      | _, _ => .error ⟨text⟩
  | _, _ => .ok none

/-- The method that an expression calls. -/
def targetOf (expression : Expression) : Except MisplacedArrow (Option String) :=
  if expression.isMethodCall then
    match expression.signature with
    | some signature => .ok (some signature)
    | none => descriptorTarget expression.text
  else .ok none

/-- The call that an expression of a method stands for. -/
def callOf (className : String) (method : MethodOutline) (expression : Expression) :
    Except MisplacedArrow (Option Call) :=
  (targetOf expression).map fun target => target.map fun callee =>
    { caller := s!"{className}.{method.name}"
      callee
      site := s!"{method.name}:{expression.valueType}" }

/-- What the expressions of a class stand for, in order. -/
def callsOf (outline : ClassOutline) : List (Except MisplacedArrow (Option Call)) :=
  outline.methods.flatMap fun method =>
    method.expressions.map (callOf outline.className method)

namespace CallGraph

/-- Adds calls up to the first expression that cannot be read. The graph keeps what was added
before it. -/
def addReadable (graph : CallGraph) :
    List (Except MisplacedArrow (Option Call)) → CallGraph × Option MisplacedArrow
  | [] => (graph, none)
  | .error misplaced :: _ => (graph, some misplaced)
  | .ok none :: rest => graph.addReadable rest
  | .ok (some call) :: rest => (graph.add call).addReadable rest

/-- Adds the calls of a class, and says where it had to stop. -/
def addClass (graph : CallGraph) (outline : ClassOutline) : CallGraph × Option MisplacedArrow :=
  graph.addReadable (callsOf outline)

end CallGraph

end AppSurvey.Flow
