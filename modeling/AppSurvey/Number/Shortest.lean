import AppSurvey.Number.Binary64
import AppSurvey.Text.Hex

/-!
# Decimal text of floating-point numbers

`Binary64.shortest` finds the fewest decimal digits that read back as the number. For each count of
digits it tries the two neighbours of the number on the grid of that count, and the first grid with a
hit wins; of two hits the nearer is taken. `Binary64.text` writes these digits, and `Binary64.fixed`
writes a fixed count of decimal places.
-/

namespace AppSurvey

open Text

namespace Binary64

/-- The decimal exponent of the first digit of a quotient below one, counted down from `-1`;
`budget` bounds the search. -/
def decadeBelow (num den : Nat) : (budget : Nat) → Int
  | 0 => -1
  | budget + 1 => if den ≤ num * 10 then -1 else decadeBelow (num * 10) den budget - 1

/-- The decimal exponent of the first digit of a quotient. -/
def decade (num den : Nat) : Int :=
  if den ≤ num then ((Nat.toDigits 10 (num / den)).length : Int) - 1
  else decadeBelow num den 400

/-- Decimal digits and the exponent of the last one. -/
structure Decimal where
  digits : Nat
  exponent : Int

/-- The nearest decimal with `count` digits that reads back as the number, if there is one. -/
def onGrid? (x : Binary64) (decade : Int) (count : Nat) : Option Decimal :=
  let exponent := decade - count + 1
  let (num, den) := x.ratio
  let (num, den) :=
    if 0 ≤ exponent then (num, den * Nat.pow 10 exponent.toNat) else (num * Nat.pow 10 (-exponent).toNat, den)
  let below := num / den
  let hit (digits : Nat) : Bool := ofDecimal x.negative digits exponent == x
  let nearest := roundDiv num den
  let other := if nearest = below then below + 1 else below
  if hit nearest then some ⟨nearest, exponent⟩
  else if hit other then some ⟨other, exponent⟩
  else none

/-- Tries grids from `count` digits on, `budget` of them. -/
def shortestFrom (x : Binary64) (decade : Int) (count : Nat) : (budget : Nat) → Decimal
  | 0 => ⟨0, 0⟩
  | budget + 1 =>
      match x.onGrid? decade count with
      | some decimal => decimal
      | none => shortestFrom x decade (count + 1) budget

/-- The fewest digits that read back as the number. Seventeen are always enough. -/
def shortest (x : Binary64) : Decimal :=
  let (num, den) := x.ratio
  if num = 0 then ⟨0, 0⟩ else shortestFrom x (decade num den) 1 17

/-- The sign of a number. -/
def signText (x : Binary64) : String := if x.negative then "-" else ""

/-- The exponent of a number in scientific form: a sign and at least two digits. -/
def exponentText (exponent : Int) : String :=
  "e" ++ (if exponent < 0 then "-" else "+") ++ padLeft 2 '0' (toString exponent.natAbs)

/-- Digits with a point behind the first. -/
def scientific : List Char → String
  | [] => "0"
  | [c] => String.singleton c
  | c :: rest => String.ofList (c :: '.' :: rest)

/-- Digits with the point behind the digit of exponent zero, and at least one digit on each side
of it. `exponent` is that of the first digit. -/
def positional (digits : List Char) (exponent : Int) : String :=
  if exponent < 0 then
    "0." ++ String.ofList (List.replicate ((-exponent).toNat - 1) '0' ++ digits)
  else
    let whole := exponent.toNat + 1
    let filled := digits ++ List.replicate (whole - digits.length) '0'
    let places := filled.drop whole
    String.ofList (filled.take whole) ++ "." ++ (if places.isEmpty then "0" else String.ofList places)

/-- The number in the fewest digits: positional from 0.0001 up to 10^16, scientific elsewhere. -/
def text (x : Binary64) : String :=
  let decimal := x.shortest
  let digits := Nat.toDigits 10 decimal.digits
  let exponent := decimal.exponent + digits.length - 1
  let significant := (digits.reverse.dropWhile (· == '0')).reverse
  let body :=
    if decimal.digits = 0 then "0.0"
    else if -4 ≤ exponent ∧ exponent < 16 then positional significant exponent
    else scientific significant ++ exponentText exponent
  x.signText ++ body

/-- The number with a fixed count of decimal places, at least one. -/
def fixed (x : Binary64) (places : Nat) : String :=
  let (num, den) := x.ratio
  let scaled := roundDiv (num * Nat.pow 10 places) den
  let unit := Nat.pow 10 places
  x.signText ++ toString (scaled / unit) ++ "." ++ padLeft places '0' (toString (scaled % unit))

end Binary64

end AppSurvey
