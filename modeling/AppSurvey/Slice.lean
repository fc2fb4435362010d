/-!
# Cuts of a list

Parts of a list between two positions. A negative position counts from the end of the list, and a
position outside the list stands for its nearer end.
-/

namespace AppSurvey

/-- A position in a list of the given length. -/
def place (length : Nat) (position : Int) : Nat :=
  if position < 0 then (position + length).toNat else min position.toNat length

/-- The part of a list between two positions. -/
def slice {α : Type} (items : List α) (first last : Int) : List α :=
  let start := place items.length first
  (items.drop start).take (place items.length last - start)

/-- The part of a list before a position. -/
def sliceTo {α : Type} (items : List α) (last : Int) : List α :=
  items.take (place items.length last)

end AppSurvey
