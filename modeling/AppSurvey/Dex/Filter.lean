import AppSurvey.Dex.Bundle

/-!
# Searching classes and methods

Filters say which classes and methods are looked for. A search over a bundle lists the matches in
the order of the files, or the first one alone. It visits one item after the other, and the methods
of a class within the visit to the class, and it ends with the visit that brings enough results.
-/

namespace AppSurvey.Dex

open Text

/-- Which classes are looked for. A criterion that is absent or empty is met by every class. -/
structure ClassFilter where
  packages : List String := []
  excludePackages : List String := []
  className : Option String := none
  modifiers : Option UInt32 := none

namespace ClassFilter

/-- Does a class meet every criterion? -/
def accepts (filter : ClassFilter) (c : Class) : Bool :=
  (filter.packages.isEmpty || startsWithAny c.package filter.packages)
    && !startsWithAny c.package filter.excludePackages
    && filter.className.all (fun name => includes c.className name || includes c.simpleName name)
    && filter.modifiers.all c.access.covers

end ClassFilter

/-- Which methods are looked for. A criterion that is absent or empty is met by every method. -/
structure MethodFilter where
  methodName : Option String := none
  paramCount : Option Nat := none
  paramTypes : List String := []
  returnType : Option String := none
  modifiers : Option UInt32 := none

namespace MethodFilter

/-- Do the parameter types include the given texts, one for one? -/
def acceptsTypes : List String → List String → Bool
  | [], [] => true
  | parameter :: parameters, wanted :: rest =>
      includes parameter wanted && acceptsTypes parameters rest
  | _, _ => false

/-- Does a method meet every criterion? -/
def accepts (filter : MethodFilter) (method : Method) : Bool :=
  filter.methodName.all (includes method.name)
    && filter.paramCount.all (· == method.parameters.length)
    && (filter.paramTypes.isEmpty || acceptsTypes method.parameters filter.paramTypes)
    && filter.returnType.all (includes method.returnType)
    && filter.modifiers.all method.access.covers

end MethodFilter

namespace Search

/-- Takes in a result, and ends the search if there are now as many as are wanted. Results are
counted when they have been taken in, so that a limit takes effect from the first result on, even a
limit of zero. -/
def takeIn {α : Type} (limit : Option Nat) (found : Array α) (result : α) : ForInStep (Array α) :=
  let results := found.push result
  if limit.any (· ≤ results.size) then .done results else .yield results

/-- Takes in an item if it is accepted. -/
def consider {α : Type} (accepts : α → Bool) (limit : Option Nat) (found : Array α) (item : α) :
    ForInStep (Array α) :=
  if accepts item then takeIn limit found item else .yield found

/-- Goes on with the search unless it has ended. -/
def goOn {α : Type} (outcome : ForInStep (Array α)) (next : Array α → ForInStep (Array α)) :
    ForInStep (Array α) :=
  match outcome with
  | .done results => .done results
  | .yield results => next results

/-- Visits one item after the other until a visit ends the search. -/
def visit {α β : Type} (step : Array α → β → ForInStep (Array α)) (found : Array α) :
    List β → ForInStep (Array α)
  | [] => .yield found
  | item :: rest => goOn (step found item) fun results => visit step results rest

/-- Visits the methods of a class. -/
def visitMethods (filter : MethodFilter) (limit : Option Nat) (found : Array Method) (c : Class) :
    ForInStep (Array Method) :=
  visit (consider filter.accepts limit) found c.methods

end Search

namespace Bundle

/-- The classes that a filter accepts. -/
def findClasses (bundle : Bundle) (filter : ClassFilter) (limit : Option Nat) :
    Except Fault (List Class) :=
  bundle.classes.map fun classes =>
    (Search.visit (Search.consider filter.accepts limit) #[] classes).value.toList

/-- The first class that a filter accepts. -/
def findClass (bundle : Bundle) (filter : ClassFilter) : Except Fault (Option Class) :=
  bundle.classes.map fun classes => classes.find? filter.accepts

/-- The methods that a filter accepts, of the classes that another one accepts. -/
def findMethods (bundle : Bundle) (filter : ClassFilter) (methods : MethodFilter)
    (limit : Option Nat) : Except Fault (List Method) :=
  (bundle.findClasses filter none).map fun classes =>
    (Search.visit (Search.visitMethods methods limit) #[] classes).value.toList

/-- The first method that a filter accepts, of the classes that another one accepts. -/
def findMethod (bundle : Bundle) (filter : ClassFilter) (methods : MethodFilter) :
    Except Fault (Option Method) :=
  (bundle.findClasses filter none).map fun classes =>
    classes.findSome? fun c => c.methods.find? methods.accepts

end Bundle

end AppSurvey.Dex
