import AppSurvey.Dex.File
import AppSurvey.Text.Bytes
import AppSurvey.Text.Case

/-!
# Method signatures

A call names its target by number. `File.resolve` follows the number through the tables of the file
to the names of the class, the method and its types.
-/

namespace AppSurvey.Dex

open Text

/-- A method with the names of its class and types, and all of them in one line. -/
structure Signature where
  className : String
  methodName : String
  parameters : List String
  returnType : String
  full : String
  deriving DecidableEq

namespace Signature

/-- A method with its parameter types and its result type. -/
def memberText (name : String) (parameters : List String) (returnType : String) : String :=
  s!"{name}({commaList parameters}): {returnType}"

/-- The signature of a method, with its line written out. -/
def make (className methodName : String) (parameters : List String) (returnType : String) :
    Signature :=
  { className, methodName, parameters, returnType
    full := className ++ "." ++ memberText methodName parameters returnType }

/-- The name of the class without its package. -/
def simpleClassName (signature : Signature) : String :=
  afterLast '.' signature.className

/-- Does the class belong to the web view? -/
def isWebView (signature : Signature) : Bool :=
  includes signature.className "WebView" || includes signature.className "WebSettings"

/-- Is this the method that switches scripts on or off? -/
def enablesScripts (signature : Signature) : Bool :=
  signature.methodName == "setJavaScriptEnabled"

/-- Is this the method that exposes an object to scripts? -/
def addsScriptInterface (signature : Signature) : Bool :=
  signature.methodName == "addJavascriptInterface"

/-- The call as it would be written, on a variable named after the class with a small first letter. The
rest of the name is taken from its second byte on, so there is no such text where the first letter has more
bytes than one. -/
def callText? (signature : Signature) (args : List String) : Option String :=
  let name := signature.simpleClassName.toList
  let first := (name.head?.map lowerAlone).getD []
  (behind? 1 name).map fun rest =>
    String.ofList (first ++ rest) ++ s!".{signature.methodName}({commaList args})"

end Signature

/-- The names of the types of a parameter list. -/
def File.typeNames (file : File) (parameters : List UInt16) : Except Fault (List String) :=
  parameters.mapM fun parameter => file.typeName parameter.toNat

/-- The signature of the method of a number. -/
def File.resolve (file : File) (index : Nat) : Except Fault Signature := do
  let method ← file.method index
  let className ← file.typeName method.owner.toNat
  let methodName ← file.string method.name.toNat
  let proto ← file.proto method.proto.toNat
  let returnType ← file.typeName proto.returnType.toNat
  let parameters ← file.typeNames proto.parameters
  return Signature.make className methodName parameters returnType

/-- The signatures of those of the given methods that have one. -/
def File.resolveMany (file : File) (indices : List Nat) : List Signature :=
  indices.filterMap fun index => (file.resolve index).toOption

end AppSurvey.Dex
