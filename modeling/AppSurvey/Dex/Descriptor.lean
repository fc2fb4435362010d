import AppSurvey.Text.Bytes

/-!
# Type descriptors

A type is written in a DEX file as a descriptor: one letter for a primitive type, `Lname;` for a
class with `/` between the parts of its name, and `[` in front of the element type for an array.
`Descriptor.typeName` gives the name a programmer would write.
-/

namespace AppSurvey.Dex.Descriptor

open Text

/-- The primitive type of a letter. -/
def primitive? : Char → Option String
  | 'V' => some "void"
  | 'Z' => some "boolean"
  | 'B' => some "byte"
  | 'S' => some "short"
  | 'C' => some "char"
  | 'I' => some "int"
  | 'J' => some "long"
  | 'F' => some "float"
  | 'D' => some "double"
  | _ => none

/-- The primitive type of a letter, or that it is unknown. -/
def letterName (c : Char) : String :=
  (primitive? c).getD "unknown"

/-- The name of a class from its descriptor without the leading `L`. -/
def className (body : List Char) : List Char :=
  (trimEnd ';' body).map fun c => if c = '/' then '.' else c

/-- How many brackets stand in front. -/
def depth : List Char → Nat
  | '[' :: rest => depth rest + 1
  | _ => 0

/-- The element type of an array of arrays, cut off at the byte behind the brackets. -/
def base (text : List Char) : List Char :=
  (behind? (depth text) text).getD text

/-- The name of a type that is no array. A text that is no descriptor names itself, and an empty one is
read as `void`. -/
def baseName : List Char → List Char
  | [] => "void".toList
  | 'L' :: body => className body
  | c :: rest =>
      match primitive? c with
      | some name => name.toList
      | none => c :: rest

/-- The name of the described type: that of the element type, and a pair of brackets for each one in
front. -/
def typeNameOf (text : List Char) : List Char :=
  baseName (base text) ++ (List.replicate (depth text) ['[', ']']).flatten

/-- The name of the described type. -/
def typeName (descriptor : String) : String :=
  String.ofList (typeNameOf descriptor.toList)

end AppSurvey.Dex.Descriptor
