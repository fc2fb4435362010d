import AppSurvey.Number.Basic
import AppSurvey.Text.Quoted
import AppSurvey.Text.Search

/-!
# Values

Values whose kind is known only when they arrive: what a caller reports about a failure may be a
number, a text, a list or a record. `Value.text` is how a value stands in a sentence, and
`Value.quoted` how it stands inside another value.
-/

namespace AppSurvey

open Text

/-- A value of any kind. -/
inductive Value where
  | null
  | bool (b : Bool)
  | number (n : Number)
  | string (s : String)
  | list (items : List Value)
  | record (fields : List (String × Value))
  deriving Inhabited

namespace Value

def ofNat (n : Nat) : Value := .number (.int n)

def ofInt (n : Int) : Value := .number (.int n)

mutual

/-- The value inside another value, with texts between quotes. -/
def quoted : Value → String
  | .null => "None"
  | .bool true => "True"
  | .bool false => "False"
  | .number n => n.text
  | .string s => Text.quoted s
  | .list items => "[" ++ commaList (quotedItems items) ++ "]"
  | .record fields => "\x7b" ++ commaList (quotedFields fields) ++ "\x7d"

/-- The items of a list. -/
def quotedItems : List Value → List String
  | [] => []
  | item :: rest => quoted item :: quotedItems rest

/-- The fields of a record. -/
def quotedFields : List (String × Value) → List String
  | [] => []
  | (key, value) :: rest => (Text.quoted key ++ ": " ++ quoted value) :: quotedFields rest

end

/-- The value in a sentence. -/
def text : Value → String
  | .string s => s
  | value => value.quoted

def isNull : Value → Bool
  | .null => true
  | _ => false

/-- Does the value say anything? Nothing, falsehood, zero and what is empty do not. -/
def isTruthy : Value → Bool
  | .null => false
  | .bool b => b
  | .number n => !n.isZero
  | .string s => !s.isEmpty
  | .list items => !items.isEmpty
  | .record fields => !fields.isEmpty

end Value

end AppSurvey
