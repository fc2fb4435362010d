import AppSurvey.Number.Shortest
import AppSurvey.Text.Decimal

/-!
# Numbers

A number is whole, of any size, or floating-point. Which of the two it is shows in how it is written:
only a floating-point number has a point or an exponent. Floating-point numbers include the two
infinite ones and one that is undefined. Numbers of all kinds compare by what they stand for.
-/

namespace AppSurvey

open Text

/-- A whole or a floating-point number. -/
inductive Number where
  | int (n : Int)
  | float (x : Binary64)
  | infinite (negative : Bool)
  | undefined
  deriving DecidableEq

namespace Number

/-- The number as it is written. -/
def text : Number → String
  | .int n => toString n
  | .float x => x.text
  | .infinite false => "inf"
  | .infinite true => "-inf"
  | .undefined => "nan"

/-- The floating-point number that a calculation ends with; it is infinite where the format ends. -/
def ofBinary (x : Binary64) : Number :=
  if x.isTooLarge then .infinite x.negative else .float x

/-- The floating-point number nearest to the number. A whole number may be too large for one. -/
def toFloat? : Number → Option Number
  | .int n => if (Binary64.ofInt n).isTooLarge then none else some (.float (.ofInt n))
  | other => some other

/-- A finite number as a quotient. -/
def ratio? : Number → Option (Int × Nat)
  | .int n => some (n, 1)
  | .float x =>
      let (num, den) := x.ratio
      some (if x.negative then -(num : Int) else num, den)
  | .infinite _ | .undefined => none

/-- Finite numbers stand between the infinite ones. -/
def rank : Number → Int
  | .infinite true => -1
  | .infinite false => 1
  | _ => 0

/-- The order of two quotients. -/
def compareRatios (a b : Int × Nat) : Ordering :=
  if a.1 * b.2 < b.1 * a.2 then .lt
  else if b.1 * a.2 < a.1 * b.2 then .gt
  else .eq

/-- The order of two numbers by what they stand for. With an undefined number there is none. -/
def order? (a b : Number) : Option Ordering :=
  if a = .undefined ∨ b = .undefined then none
  else if a.rank < b.rank then some .lt
  else if b.rank < a.rank then some .gt
  else
    match a.ratio?, b.ratio? with
    | some x, some y => some (compareRatios x y)
    | _, _ => some .eq

/-- Do two numbers stand for the same? -/
def same (a b : Number) : Bool := a.order? b == some .eq

/-- Do two numbers stand for the same? Nothing is told apart among undefined numbers. -/
def alike : Number → Number → Bool
  | .undefined, .undefined => true
  | a, b => a.same b

/-- Is a number less than another? -/
def less (a b : Number) : Bool := a.order? b == some .lt

/-- Is a number at least another? -/
def atLeast (a b : Number) : Bool := a.order? b == some .gt || a.order? b == some .eq

def isZero (number : Number) : Bool := number.same (.int 0)

/-- A floating-point number with a fixed count of decimal places. A whole number may be too large for
a floating-point number. -/
def fixed? (number : Number) (places : Nat) : Option String :=
  number.toFloat?.map fun
    | .float x => x.fixed places
    | other => other.text

/-- The number rounded to a count of decimal places; whole numbers stay as they are. -/
def roundPlaces (number : Number) (places : Nat) : Number :=
  match number with
  | .float x => .ofBinary (x.roundPlaces places)
  | other => other

/-- The number nearest to `digits * 10 ^ exponent`. Where the exponent alone decides, the power is
not worked out. -/
def ofDecimal (negative : Bool) (digits : Nat) (exponent : Int) : Number :=
  let first := exponent + (Nat.toDigits 10 digits).length
  if digits = 0 ∨ first < -400 then .float (.zero negative)
  else if 400 < first then .infinite negative
  else .ofBinary (.ofDecimal negative digits exponent)

/-- The sign and the digits of a text that begins with at most one minus sign. -/
def splitSign : List Char → Bool × List Char
  | '-' :: rest => (true, rest)
  | chars => (false, chars)

/-- A decimal exponent with its sign. -/
def exponent? : List Char → Option Int
  | '-' :: digits => (decimal? digits).map fun n => -(n : Int)
  | '+' :: digits => (decimal? digits).map fun n => (n : Int)
  | digits => (decimal? digits).map fun n => (n : Int)

/-- Reads a number: digits, then perhaps a point with decimal places, then perhaps an exponent. -/
def parse? (source : String) : Option Number := do
  let (negative, body) := splitSign source.toList
  let whole := body.takeWhile Char.isDigit
  let behind := body.drop whole.length
  let (places, behind) := match behind with
    | '.' :: rest => (rest.takeWhile Char.isDigit, rest.dropWhile Char.isDigit)
    | rest => ([], rest)
  let digits ← decimal? (whole ++ places)
  match body.drop whole.length, behind with
  | [], _ => return .int (if negative then -(digits : Int) else digits)
  | _, [] => return .ofDecimal negative digits (-(places.length : Int))
  | _, e :: rest =>
      if e = 'e' || e = 'E' then
        let exponent ← exponent? rest
        return .ofDecimal negative digits (exponent - places.length)
      else none

end Number

end AppSurvey
