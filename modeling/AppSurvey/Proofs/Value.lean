import AppSurvey.Value.Use

/-!
# Whole numbers as values

How whole numbers compare when they are used as values: in order, as equal, and as what says nothing.
-/

namespace AppSurvey

namespace Number

theorem order?_int (a b : Int) :
    (Number.int a).order? (.int b) = some (if a < b then .lt else if b < a then .gt else .eq) := by
  simp [order?, rank, ratio?, compareRatios]

theorem isZero_int (n : Int) : (Number.int n).isZero = decide (n = 0) := by
  simp only [isZero, same, order?_int]
  grind

end Number

namespace Value

theorem isTruthy_ofInt (n : Int) : (ofInt n).isTruthy = decide (n ≠ 0) := by
  simp [ofInt, isTruthy, Number.isZero_int]

theorem ofInt_beq_ofInt (a b : Int) : (ofInt a == ofInt b) = decide (a = b) := by
  change (Number.int b |> some).any (Number.int a).alike = _
  simp only [Option.any_some, Number.alike, Number.same, Number.order?_int]
  grind

theorem atLeast_ofInt (a b : Int) : (ofInt a).atLeast (.int b) = .ok (decide (b ≤ a)) := by
  simp only [ofInt, atLeast, number?, Number.atLeast, Number.order?_int]
  rcases Int.lt_trichotomy a b with hlt | rfl | hlt
  · simp [hlt, Int.not_le.mpr hlt]
  · simp
  · simp [hlt, Int.le_of_lt hlt, Int.not_lt.mpr (Int.le_of_lt hlt)]

end Value

end AppSurvey
