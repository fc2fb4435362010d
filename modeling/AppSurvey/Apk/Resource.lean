import AppSurvey.Text.Hex

/-!
# Resources

A resource is addressed by a 32-bit number: eight bits for the package, eight for the type and sixteen
for the entry. Only the app's own package and the system's hold resources.
-/

namespace AppSurvey.Apk

open Text

/-- A resource with its value. -/
structure Resource where
  id : Nat
  typeName : String
  name : String
  valueType : String
  value : String

namespace Resource

/-- The low 32 bits of a number, which may be negative. -/
def word32 (n : Int) : Nat := (n % 0x100000000).toNat

/-- The package that holds a resource. -/
def packageOf (id : Nat) : Nat := id / 0x1000000 % 256

/-- The type of a resource within its package. -/
def typeOf (id : Nat) : Nat := id / 0x10000 % 256

/-- The entry of a resource within its type. -/
def entryOf (id : Nat) : Nat := id % 0x10000

/-- Is the number that of a resource of the app or of the system? -/
def isResourceId (n : Int) : Bool :=
  let package := packageOf (word32 n)
  package == 0x7F || package == 0x01

def isString (resource : Resource) : Bool := resource.typeName == "string"

def isBoolean (resource : Resource) : Bool :=
  resource.typeName == "bool" || resource.valueType == "boolean"

def summary (resource : Resource) : String :=
  s!"Resource(id=0x{hex 8 resource.id}, type={resource.typeName}, name={resource.name}, "
    ++ s!"value={resource.value})"

end Resource

end AppSurvey.Apk
