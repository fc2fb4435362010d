import AppSurvey.Text.Search

/-!
# Class names

A full class name consists of a package and a simple name, divided by the last dot.
-/

namespace AppSurvey.Dex

open Text

/-- A class name in its two parts. -/
structure ClassName where
  package : String
  simple : String
  deriving DecidableEq

namespace ClassName

/-- Cuts a name with dots at its last dot; a name without one has an empty package. -/
def ofDotted (name : List Char) : ClassName :=
  let dotted := name.map fun c => if c = '/' then '.' else c
  match splitLast '.' dotted with
  | some (package, simple) => ⟨String.ofList package, String.ofList simple⟩
  | none => ⟨"", String.ofList dotted⟩

/-- The parts of a name that may still stand in its descriptor form: every leading `L` and every
trailing `;` is taken off. -/
def split (name : String) : ClassName :=
  ofDotted (trimEnd ';' (trimStart 'L' name.toList))

/-- The parts of a name, with every `L` and then every `;` taken off at both ends. -/
def splitBothEnds (name : String) : ClassName :=
  let unmarked := trimEnd 'L' (trimStart 'L' name.toList)
  ofDotted (trimEnd ';' (trimStart ';' unmarked))

end ClassName

end AppSurvey.Dex
