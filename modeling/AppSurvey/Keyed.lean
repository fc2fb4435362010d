/-!
# Keyed values

Values under keys, each key once, in the order in which the keys came first.
-/

namespace AppSurvey

/-- Values under keys. -/
abbrev Keyed (κ α : Type) : Type := List (κ × α)

namespace Keyed

variable {κ α : Type} [BEq κ]

/-- The value under a key. -/
def get? (entries : Keyed κ α) (key : κ) : Option α := entries.lookup key

/-- Puts a value under a key. A key that is there stays as it is, in its place. -/
def set (key : κ) (value : α) : Keyed κ α → Keyed κ α
  | [] => [(key, value)]
  | entry :: rest =>
      if entry.1 == key then (entry.1, value) :: rest else entry :: set key value rest

/-- Changes the value under a key, if there is one. -/
def update (key : κ) (change : α → α) : Keyed κ α → Keyed κ α
  | [] => []
  | entry :: rest =>
      if entry.1 == key then (entry.1, change entry.2) :: rest else entry :: update key change rest

end Keyed

end AppSurvey
