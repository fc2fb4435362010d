/-!
# Binary floating-point numbers

A number with a sign, a mantissa of at most 53 bits and a binary exponent of at least -1074. Rounding
is exact: a quotient of natural numbers goes to the nearest such number, a half to the one with the
even mantissa.
-/

namespace AppSurvey

/-- A quotient rounded to the nearest whole number, a half to the even neighbour. -/
def roundDiv (num den : Nat) : Nat :=
  let q := num / den
  let r := num % den
  if 2 * r < den then q
  else if den < 2 * r then q + 1
  else if q % 2 = 0 then q
  else q + 1

/-- The number `mantissa * 2 ^ exponent` with a sign; zero has a sign too. -/
structure Binary64 where
  negative : Bool
  mantissa : Nat
  exponent : Int
  deriving DecidableEq

namespace Binary64

/-- The least exponent. -/
def minExponent : Int := -1074

def zero (negative : Bool) : Binary64 := ⟨negative, 0, minExponent⟩

/-- The quotient divided by a power of two, as a quotient. -/
def unscale (num den : Nat) (exponent : Int) : Nat × Nat :=
  if 0 ≤ exponent then (num, den * Nat.pow 2 exponent.toNat) else (num * Nat.pow 2 (-exponent).toNat, den)

/-- The exponent with which a quotient has a mantissa of 53 bits, or the least one. -/
def exponentFor (num den : Nat) : Int :=
  let estimate : Int := (num.log2 : Int) - (den.log2 : Int) - 52
  let (n, d) := unscale num den estimate
  max minExponent (if n / d < 0x10000000000000 then estimate - 1 else estimate)

/-- The number nearest to a quotient. -/
def ofRatio (negative : Bool) (num den : Nat) : Binary64 :=
  if num = 0 then zero negative
  else
    let exponent := exponentFor num den
    let (n, d) := unscale num den exponent
    let mantissa := roundDiv n d
    if mantissa = 0x20000000000000 then ⟨negative, 0x10000000000000, exponent + 1⟩
    else if mantissa = 0 then zero negative
    else ⟨negative, mantissa, exponent⟩

/-- The number nearest to `digits * 10 ^ exponent`. -/
def ofDecimal (negative : Bool) (digits : Nat) (exponent : Int) : Binary64 :=
  if 0 ≤ exponent then ofRatio negative (digits * Nat.pow 10 exponent.toNat) 1
  else ofRatio negative digits (Nat.pow 10 (-exponent).toNat)

/-- The number nearest to a whole number. -/
def ofInt (n : Int) : Binary64 := ofRatio (n < 0) n.natAbs 1

/-- The number without its sign, as a quotient. -/
def ratio (x : Binary64) : Nat × Nat :=
  if 0 ≤ x.exponent then (x.mantissa * Nat.pow 2 x.exponent.toNat, 1)
  else (x.mantissa, Nat.pow 2 (-x.exponent).toNat)

/-- The greatest exponent. -/
def maxExponent : Int := 971

/-- Is the number beyond the greatest one that the format has? -/
def isTooLarge (x : Binary64) : Bool := decide (maxExponent < x.exponent)

/-- The number rounded to a count of decimal places, and then to the nearest number. -/
def roundPlaces (x : Binary64) (places : Nat) : Binary64 :=
  let (num, den) := x.ratio
  ofRatio x.negative (roundDiv (num * Nat.pow 10 places) den) (Nat.pow 10 places)

end Binary64

end AppSurvey
