import AppSurvey.Json.Printer
import AppSurvey.Keyed
import AppSurvey.Value

/-!
# Records

Data written as values and read back. `ToValue` and `OfValue` say how each kind of data is written
and read. Reading never fails: a value of another kind, or one that is missing, stands for the empty
one of the kind that is asked for.
-/

namespace AppSurvey

/-- Data that can be written as a value. -/
class ToValue (α : Type) where
  toValue : α → Value

/-- Data that can be read from a value. -/
class OfValue (α : Type) where
  ofValue : Value → α

/-- Data that can be reported: its record, with what follows from it. -/
class Report (α : Type) where
  report : α → Value

export ToValue (toValue)
export OfValue (ofValue)
export Report (report)

namespace Value

/-- The items of a list. -/
def items : Value → List Value
  | .list items => items
  | _ => []

/-- The fields of a record. -/
def fields : Value → List (String × Value)
  | .record fields => fields
  | _ => []

/-- The item of a list at a position. -/
def item (value : Value) (index : Nat) : Value := value.items[index]?.getD .null

/-- The value of a field. -/
def field (value : Value) (key : String) : Value := (value.fields.lookup key).getD .null

/-- The value of a field that is given, even as nothing, or what stands for one that is not. -/
def given (value : Value) (key : String) (otherwise : Value) : Value :=
  (value.fields.lookup key).getD otherwise

/-- Is there a field with a value? -/
def has (value : Value) (key : String) : Bool := !(value.field key).isNull

/-- The data of a field. -/
def get {α : Type} [OfValue α] (value : Value) (key : String) : α := ofValue (value.field key)

/-- The data of a field, or what stands for it when there is none. -/
def getOr {α : Type} [OfValue α] (value : Value) (key : String) (otherwise : α) : α :=
  if value.has key then value.get key else otherwise

/-- The data at a position. -/
def nth {α : Type} [OfValue α] (value : Value) (index : Nat) : α := ofValue (value.item index)

/-- The record without a field. -/
def without (value : Value) (key : String) : Value :=
  .record (value.fields.filter fun field => field.1 != key)

mutual

/-- How deep values are nested in a value. -/
def depth : Value → Nat
  | .list items => depthOfItems items + 1
  | .record fields => depthOfFields fields + 1
  | _ => 1

/-- The greatest depth of the items of a list. -/
def depthOfItems : List Value → Nat
  | [] => 0
  | item :: rest => max (depth item) (depthOfItems rest)

/-- The greatest depth of the fields of a record. -/
def depthOfFields : List (String × Value) → Nat
  | [] => 0
  | (_, value) :: rest => max (depth value) (depthOfFields rest)

end

/-- The record with fields put behind those that have other keys. -/
def put (value : Value) (fields : List (String × Value)) : Value :=
  .record (value.fields.filter (fun old => (fields.lookup old.1).isNone) ++ fields)

end Value

instance : ToValue Value := ⟨id⟩
instance : ToValue Bool := ⟨.bool⟩
instance : ToValue String := ⟨.string⟩
instance : ToValue Number := ⟨.number⟩
instance : ToValue Int := ⟨Value.ofInt⟩
instance : ToValue Nat := ⟨Value.ofNat⟩
instance : ToValue UInt8 := ⟨fun n => .ofNat n.toNat⟩
instance : ToValue UInt16 := ⟨fun n => .ofNat n.toNat⟩
instance : ToValue UInt32 := ⟨fun n => .ofNat n.toNat⟩

instance {α : Type} [ToValue α] : ToValue (List α) := ⟨fun items => .list (items.map toValue)⟩

instance {α : Type} [ToValue α] : ToValue (Option α) where
  toValue
    | some a => toValue a
    | none => .null

instance {α β : Type} [ToValue α] [ToValue β] : ToValue (α × β) :=
  ⟨fun pair => .list [toValue pair.1, toValue pair.2]⟩

/-- A field of a record. -/
def fieldOf {α : Type} [ToValue α] (key : String) (data : α) : String × Value := (key, toValue data)

/-- The record of something, with its summary. -/
def summarized {α : Type} [ToValue α] (data : α) (summary : String) : Value :=
  (toValue data).put [fieldOf "repr" summary]

instance {α : Type} [Report α] : Report (List α) := ⟨fun items => .list (items.map report)⟩

instance {α : Type} [Report α] : Report (Option α) where
  report
    | some a => report a
    | none => .null

instance : OfValue Value := ⟨id⟩

instance : OfValue Bool where
  ofValue
    | .bool b => b
    | _ => false

instance : OfValue String where
  ofValue
    | .string s => s
    | _ => ""

instance : OfValue Int where
  ofValue
    | .number (.int n) => n
    | _ => 0

instance : OfValue Nat := ⟨fun value => (ofValue value : Int).toNat⟩
instance : OfValue UInt8 := ⟨fun value => (ofValue value : Nat).toUInt8⟩
instance : OfValue UInt16 := ⟨fun value => (ofValue value : Nat).toUInt16⟩
instance : OfValue UInt32 := ⟨fun value => (ofValue value : Nat).toUInt32⟩

instance {α : Type} [OfValue α] : OfValue (List α) := ⟨fun value => value.items.map ofValue⟩

instance {α : Type} [OfValue α] : OfValue (Option α) where
  ofValue
    | .null => none
    | value => some (ofValue value)

instance {α β : Type} [OfValue α] [OfValue β] : OfValue (α × β) :=
  ⟨fun value => (value.nth 0, value.nth 1)⟩

/-- Values under texts, as a record. -/
def Value.ofKeyed {α : Type} [ToValue α] (entries : Keyed String α) : Value :=
  .record (entries.map fun entry => (entry.1, toValue entry.2))

/-- The name that a value has as a key of a record. -/
def Value.key : Value → String
  | .string text => text
  | other => Json.render .compact other

/-- Data under values, as a record. -/
def Value.ofFiled {α : Type} [ToValue α] (entries : Keyed Value α) : Value :=
  .record (entries.map fun entry => (entry.1.key, toValue entry.2))

end AppSurvey
