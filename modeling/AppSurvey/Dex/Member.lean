import AppSurvey.Dex.Access
import AppSurvey.Dex.ClassName

/-!
# Classes and their members

The classes of an app as a survey of it shows them: names, modifiers and types in plain text, with
the pools of what a class or method refers to.
-/

namespace AppSurvey.Dex

open Text

/-- What a class or a method refers to. -/
structure ReferencePool where
  strings : List String := []
  types : List String := []
  fields : List String := []
  methods : List String := []
  deriving DecidableEq

namespace ReferencePool

/-- Is `value` part of an entry of the list? -/
def someIncludes (entries : List String) (value : String) : Bool :=
  entries.any fun entry => includes entry value

def containsString (pool : ReferencePool) (value : String) : Bool :=
  someIncludes pool.strings value

def containsType (pool : ReferencePool) (value : String) : Bool :=
  someIncludes pool.types value

def containsField (pool : ReferencePool) (value : String) : Bool :=
  someIncludes pool.fields value

def containsMethod (pool : ReferencePool) (value : String) : Bool :=
  someIncludes pool.methods value

/-- Is `value` part of an entry of any of the four lists? -/
def contains (pool : ReferencePool) (value : String) : Bool :=
  pool.containsString value || pool.containsType value || pool.containsField value
    || pool.containsMethod value

def summary (pool : ReferencePool) : String :=
  s!"RustReferencePool(strings={pool.strings.length}, types={pool.types.length}, "
    ++ s!"fields={pool.fields.length}, methods={pool.methods.length})"

end ReferencePool

/-- A field of a class. -/
structure Field where
  name : String
  type : String
  owner : String
  access : Access
  deriving DecidableEq

def Field.summary (field : Field) : String :=
  s!"RustDexField(name='{field.name}', type='{field.type}', class='{field.owner}')"

/-- A method of a class. -/
structure Method where
  name : String
  parameters : List String
  returnType : String
  owner : String
  access : Access
  references : ReferencePool := {}
  deriving DecidableEq

namespace Method

def isConstructor (method : Method) : Bool := method.name == "<init>"

def isStaticInitializer (method : Method) : Bool := method.name == "<clinit>"

/-- The method with its parameter types. -/
def signature (method : Method) : String :=
  s!"{method.name}({commaList method.parameters})"

def summary (method : Method) : String :=
  s!"RustDexMethod(name='{method.name}', params=[{commaList method.parameters}], "
    ++ s!"return='{method.returnType}')"

end Method

/-- A class. -/
structure Class where
  className : String
  package : String
  simpleName : String
  superclass : Option String := none
  interfaces : List String := []
  access : Access := ⟨0⟩
  fields : List Field := []
  methods : List Method := []
  references : ReferencePool := {}
  deriving DecidableEq

namespace Class

/-- A class of which only the name is known. -/
def named (className : String) : Class :=
  let parts := ClassName.split className
  { className, package := parts.package, simpleName := parts.simple }

def summary (c : Class) : String :=
  s!"RustDexClass(name='{c.className}', methods={c.methods.length}, fields={c.fields.length})"

end Class

end AppSurvey.Dex
