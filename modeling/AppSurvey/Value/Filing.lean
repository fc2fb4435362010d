import AppSurvey.Keyed
import AppSurvey.Value.Use

/-!
# Filing under values

Data can be filed under any value that never changes: not under lists and records. Values that stand
for the same share one place, which has the name of the first of them.
-/

namespace AppSurvey

namespace Keyed

variable {α : Type}

/-- Files data under a value. -/
def file (entries : Keyed Value α) (key : Value) (data : α) : Except Misuse (Keyed Value α) := do
  key.requireKey
  return entries.set key data

/-- Files data one after the other. -/
def fileAll (pairs : List (Value × α)) : Except Misuse (Keyed Value α) :=
  pairs.foldlM (fun entries pair => entries.file pair.1 pair.2) []

end Keyed

namespace Value

/-- The key and the value that an item at a position is. -/
def entry (position : Nat) (item : Value) : Except Misuse (Value × Value) :=
  match item.items? with
  | none => .error (.noEntry position)
  | some [key, value] => .ok (key, value)
  | some parts => .error (.entrySize position parts.length)

/-- The fields of a record, or the entries that the items of another value are. A value that says
nothing has none. -/
def entries (value : Value) : Except Misuse (Keyed Value Value) :=
  if value.isTruthy then
    match value with
    | .record fields => .ok (fields.map fun field => (.string field.1, field.2))
    | other => do
        (← other.each).zipIdx.foldlM
          (fun entries (item, position) => do
            let (key, value) ← item.entry position
            entries.file key value)
          []
  else .ok []

end Value

end AppSurvey
