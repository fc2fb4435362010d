import AppSurvey.Dex.Access
import AppSurvey.Dex.ClassData
import AppSurvey.Dex.ClassName
import AppSurvey.Dex.Expression

/-!
# Class outlines

The outline of a class shows its members and, for each method, the reported calls of its code. A
member that cannot be read is left out; only an unreadable class name makes the outline fail.
-/

namespace AppSurvey.Dex

open Text

/-- A method with the calls reported from its code. -/
structure MethodOutline where
  name : String
  signature : String
  access : Access
  isPublic : Bool
  isPrivate : Bool
  isStatic : Bool
  parameters : List String
  returnType : String
  expressions : List Expression
  codeSize : Nat
  deriving DecidableEq

namespace MethodOutline

def hasSecurityCalls (method : MethodOutline) : Bool :=
  method.expressions.any Expression.isSecurityRelevant

def webViewExpressions (method : MethodOutline) : List Expression :=
  method.expressions.filter Expression.isWebView

def summary (method : MethodOutline) : String :=
  s!"DecompiledMethod(name='{method.name}', expressions={method.expressions.length})"

end MethodOutline

/-- A class with its members. -/
structure ClassOutline where
  className : String
  package : String
  simpleName : String
  superclass : Option String
  interfaces : List String
  fields : List String
  methods : List MethodOutline
  access : Access
  deriving DecidableEq

namespace ClassOutline

def securityMethods (outline : ClassOutline) : List MethodOutline :=
  outline.methods.filter MethodOutline.hasSecurityCalls

def webViewMethods (outline : ClassOutline) : List MethodOutline :=
  outline.methods.filter fun method => !method.webViewExpressions.isEmpty

/-- The counts of a class, one in a line. -/
def report (outline : ClassOutline) : String :=
  s!"Class: {outline.className}\nMethods: {outline.methods.length}\n"
    ++ s!"Security-relevant: {outline.securityMethods.length}\n"
    ++ s!"WebView usage: {outline.webViewMethods.length}"

def summary (outline : ClassOutline) : String :=
  s!"DecompiledClass(name='{outline.className}', methods={outline.methods.length})"

end ClassOutline

namespace File

/-- The number that stands for no type. -/
def noIndex : UInt32 := 0xFFFFFFFF

/-- The name of the superclass, if there is one and it can be read. -/
def superclassName (file : File) (definition : ClassDef) : Option String :=
  if definition.superclass = noIndex then none
  else (file.typeName definition.superclass.toNat).toOption

/-- The words of a method that can be read; a method without code has none. -/
def readableCode (file : File) (entry : MethodEntry) : List UInt16 :=
  match file.code entry.code.toNat with
  | .ok words => words
  | .error _ => []

/-- The outline of a method. Each method is followed from unwritten registers. -/
def outlineMethod (file : File) (entry : MethodEntry) : Except Fault MethodOutline := do
  let method ← file.method entry.method.toNat
  let name ← file.string method.name.toNat
  let proto ← file.proto method.proto.toNat
  let returnType ← file.typeName proto.returnType.toNat
  let parameters ← file.typeNames proto.parameters
  let access : Access := ⟨entry.access⟩
  let words := file.readableCode entry
  return {
    name
    signature := Signature.memberText name parameters returnType
    access
    isPublic := access.isPublic
    isPrivate := access.isPrivate
    isStatic := access.isStatic
    parameters
    returnType
    expressions := (Registers.empty.run file words).2
    codeSize := words.length }

/-- A field as its name and type. -/
def outlineField (file : File) (entry : FieldEntry) : Except Fault String := do
  let field ← file.field entry.field.toNat
  let name ← file.string field.name.toNat
  let type ← file.typeName field.type.toNat
  return s!"{name}: {type}"

/-- The outline of a class. Members that cannot be read count as none. -/
def outline (file : File) (definition : ClassDef) : Except Fault ClassOutline := do
  let className ← file.typeName definition.type.toNat
  let parts := ClassName.splitBothEnds className
  let data := (file.classData definition.classData.toNat).toOption.getD {}
  return {
    className
    package := parts.package
    simpleName := parts.simple
    superclass := file.superclassName definition
    interfaces := []
    fields := data.fields.filterMap fun entry => (file.outlineField entry).toOption
    methods := data.methods.filterMap fun entry => (file.outlineMethod entry).toOption
    access := ⟨definition.access⟩ }

/-- The first method of the given name among some entries, and its code. -/
def codeIn (file : File) (methodName : String) :
    List MethodEntry → Except Fault (Option (List UInt16))
  | [] => .ok none
  | entry :: rest => do
      let method ← file.method entry.method.toNat
      let name ← file.string method.name.toNat
      if name = methodName then
        let words ← file.code entry.code.toNat
        return some words
      else file.codeIn methodName rest

/-- The code of the first method of the given name in a class of the given name, among so many
classes from a number on. The search stops at the first item that cannot be read. -/
def codeFrom (file : File) (className methodName : String) :
    (count index : Nat) → Except Fault (Option (List UInt16))
  | 0, _ => .ok none
  | count + 1, index => do
      let definition ← file.classDef index
      let name ← file.typeName definition.type.toNat
      if name = className then
        let data ← file.classData definition.classData.toNat
        match ← file.codeIn methodName data.methods with
        | some words => return some words
        | none => file.codeFrom className methodName count (index + 1)
      else file.codeFrom className methodName count (index + 1)

/-- The code of the first method of the given name in a class of the given name. -/
def findCode (file : File) (className methodName : String) : Except Fault (Option (List UInt16)) :=
  file.codeFrom className methodName file.classCount 0

end File

end AppSurvey.Dex
