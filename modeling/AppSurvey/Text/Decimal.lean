/-!
# Decimal numbers in text

Reading whole numbers written with ASCII digits.
-/

namespace AppSurvey.Text

/-- The value of a digit. -/
def digit? (c : Char) : Option Nat :=
  if '0' ≤ c ∧ c ≤ '9' then some (c.toNat - '0'.toNat) else none

/-- The value of digits read after a number. -/
def digitsFrom (value : Nat) : List Char → Option Nat
  | [] => some value
  | c :: rest => (digit? c).bind fun d => digitsFrom (value * 10 + d) rest

/-- The value of a non-empty list of digits. -/
def decimal? : List Char → Option Nat
  | [] => none
  | digits => digitsFrom 0 digits

end AppSurvey.Text
