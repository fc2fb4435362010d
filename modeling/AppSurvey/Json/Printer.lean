import AppSurvey.Text.Hex
import AppSurvey.Value

/-!
# JSON text

Values written as JSON. The fields of a record keep their order, and only quotes, backslashes and
control characters are escaped. The two separators are the only choice left to the caller.
-/

namespace AppSurvey.Json

open Text

/-- How items are parted, and a key from its value. -/
structure Separators where
  comma : String
  colon : String

/-- No blanks at all. -/
def Separators.compact : Separators := ⟨",", ":"⟩

/-- A blank after each separator. -/
def Separators.spaced : Separators := ⟨", ", ": "⟩

/-- A character inside quotes. -/
def escape (c : Char) : String :=
  if c = '"' then "\\\""
  else if c = '\\' then "\\\\"
  else if c = '\n' then "\\n"
  else if c = '\r' then "\\r"
  else if c = '\t' then "\\t"
  else if c.toNat = 8 then "\\b"
  else if c.toNat = 12 then "\\f"
  else if c.toNat < 32 then "\\u" ++ hex 4 c.toNat
  else String.singleton c

/-- A number. The numbers that are not finite have names of their own. -/
def numeral : Number → String
  | .infinite false => "Infinity"
  | .infinite true => "-Infinity"
  | .undefined => "NaN"
  | finite => finite.text

/-- A text between quotes. -/
def quote (text : String) : String :=
  "\"" ++ String.join (text.toList.map escape) ++ "\""

mutual

/-- The JSON text of a value. -/
def render (separators : Separators) : Value → String
  | .null => "null"
  | .bool true => "true"
  | .bool false => "false"
  | .number n => numeral n
  | .string s => quote s
  | .list items => "[" ++ String.intercalate separators.comma (renderItems separators items) ++ "]"
  | .record fields =>
      "\x7b" ++ String.intercalate separators.comma (renderFields separators fields) ++ "\x7d"

/-- The items of a list. -/
def renderItems (separators : Separators) : List Value → List String
  | [] => []
  | item :: rest => render separators item :: renderItems separators rest

/-- The fields of a record. -/
def renderFields (separators : Separators) : List (String × Value) → List String
  | [] => []
  | (key, value) :: rest =>
      (quote key ++ separators.colon ++ render separators value) :: renderFields separators rest

end

end AppSurvey.Json
