import AppSurvey.Text.Decimal

/-!
# Whole numbers written in digits

A number is written with digits only, and no two numbers are written alike. So it can be told where a number
ends, and which one it is.
-/

namespace AppSurvey.Text

theorem toList_toString_inj {m n : Nat} (heq : (toString m).toList = (toString n).toList) : m = n := by
  have hvalue := congrArg (fun digits => Nat.ofDigitChars 10 digits 0) heq
  simpa [Nat.toString_eq_ofList_toDigits] using hvalue

theorem isDigit_of_mem_toString {c : Char} {n : Nat} (hmem : c ∈ (toString n).toList) :
    c.isDigit = true := by
  rw [Nat.toString_eq_ofList_toDigits, String.toList_ofList] at hmem
  exact Nat.isDigit_of_mem_toDigits (by decide) (by decide) hmem

theorem notMem_toString {c : Char} (hdigit : c.isDigit = false) (n : Nat) :
    c ∉ (toString n).toList := by
  intro hmem
  rw [isDigit_of_mem_toString hmem] at hdigit
  cases hdigit

theorem digit?_eq (c : Char) :
    digit? c = if c.isDigit = true then some (c.toNat - '0'.toNat) else none := by
  unfold digit? Char.isDigit
  simp [Char.le_def]

theorem le_ofDigitChars (digits : List Char) (value : Nat) :
    value ≤ Nat.ofDigitChars 10 digits value := by
  induction digits generalizing value with
  | nil => exact Nat.le_refl value
  | cons c rest ih =>
      rw [Nat.ofDigitChars_cons]
      exact Nat.le_trans (by omega) (ih _)

/-- Two texts that are equal are equal up to the first mark and behind it. -/
theorem append_mark_inj {mark : Char} {front front' back back' : List Char}
    (hfront : mark ∉ front) (hfront' : mark ∉ front')
    (heq : front ++ mark :: back = front' ++ mark :: back') : front = front' ∧ back = back' := by
  induction front generalizing front' with
  | nil =>
      cases front' with
      | nil => simpa using heq
      | cons c rest =>
          have hmark : mark = c := (List.cons.inj heq).1
          exact absurd (hmark ▸ List.mem_cons_self) hfront'
  | cons c rest ih =>
      cases front' with
      | nil =>
          have hmark : c = mark := (List.cons.inj heq).1
          exact absurd (hmark ▸ List.mem_cons_self) hfront
      | cons c' rest' =>
          rw [List.mem_cons, not_or] at hfront hfront'
          obtain ⟨rfl, hrest⟩ := List.cons.inj heq
          obtain ⟨rfl, hback⟩ := ih hfront.2 hfront'.2 hrest
          exact ⟨rfl, hback⟩

end AppSurvey.Text
