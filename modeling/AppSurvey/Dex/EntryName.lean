import AppSurvey.Text.Bytes
import AppSurvey.Text.Decimal

/-!
# Names of DEX files

The DEX files of an app are numbered through their names: `classes.dex` is the first, and a number
between `classes` and `.dex` gives the others. Numbers have at most 64 bits.
-/

namespace AppSurvey.Dex.EntryName

open Text

/-- The name of the first DEX file. -/
def primary : String := "classes.dex"

/-- Is this the name of the first DEX file? -/
def isPrimary (name : String) : Bool := name == primary

/-- Goes on with a number of 64 bits digit by digit. There is none where a digit would take it beyond
them. -/
def word64From (value : Nat) : List Char → Option Nat
  | [] => some value
  | c :: rest =>
      (digit? c).bind fun d =>
        if value * 10 + d < UInt64.size then word64From (value * 10 + d) rest else none

/-- A number of at most 64 bits; a plus sign may stand in front of it. -/
def word64? (text : List Char) : Option Nat :=
  let digits := match text with
    | '+' :: rest => rest
    | _ => text
  if digits.isEmpty then none else word64From 0 digits

/-- A name that has no text between the two positions where its number should stand. -/
structure UncutName where
  name : String

/-- The number of a DEX file. It stands between the seventh byte and the fourth from the end; that `classes`
and `.dex` leave room for it is not looked at. -/
def number (name : String) : Except UncutName (Option Nat) :=
  if isPrimary name then .ok (some 1)
  else if startsWith name "classes" && endsWith name ".dex" then
    match between? 7 (byteCount name.toList - 4) name.toList with
    | some middle => .ok (word64? middle)
    | none => .error ⟨name⟩
  else .ok none

end AppSurvey.Dex.EntryName
