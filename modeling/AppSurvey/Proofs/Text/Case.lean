import AppSurvey.Text.Case
import Mathlib.Data.List.Basic

/-!
# Letters with a given small form

The small form of a text tells little about the text: many letters of many scripts are mapped. For the
letter y the runs of letters leave only its capital, so a text in small letters is "y" just when it is one of
the two letters.
-/

namespace AppSurvey.Text

theorem eq_toNat_of_ofNat_eq {n : Nat} {c : Char} (hc : Char.ofNat n = c) (hfirst : c ≠ Char.ofNat 0) :
    n = c.toNat := by
  by_cases hvalid : n.isValidChar
  · rw [← hc, Char.ofNat, dif_pos hvalid]
    rfl
  · rw [Char.ofNat, dif_neg hvalid] at hc
    exact absurd hc.symm hfirst

/-- No letter but a capital Y is mapped to a y. -/
theorem mapCase_lowerRuns_eq_y {c : Char} (hc : mapCase lowerRuns c = 'y') : c = 'y' ∨ c = 'Y' := by
  -- A run maps at most one code point to 121, and only the first run covers that one.
  have hruns : ∀ run ∈ lowerRuns, run.covers (121 - run.shift).toNat = true → run.shift = 32 := by
    decide +kernel
  unfold mapCase at hc
  split at hc
  next run hrun =>
    have hcovers : run.covers c.toNat = true := by simpa using List.find?_some hrun
    have hshifted : ((c.toNat : Int) + run.shift).toNat = 121 := eq_toNat_of_ofNat_eq hc (by decide)
    have hback : (121 - run.shift).toNat = c.toNat := by omega
    have hshift := hruns run (List.mem_of_find?_eq_some hrun) (hback ▸ hcovers)
    have hnat : c.toNat = 'Y'.toNat := by
      have hY : 'Y'.toNat = 89 := rfl
      omega
    exact .inr (Char.toNat_inj.mp hnat)
  next => exact .inl hc

theorem lowerChar_ne_nil (before : List Char) (c : Char) (after : List Char) :
    lowerChar before c after ≠ [] := by
  unfold lowerChar
  split_ifs <;> simp

/-- Every character has a small form of at least one character, so only one character can have one of just
one. -/
theorem eq_singleton_of_lowerFrom_eq {chars : List Char} {small : Char}
    (hchars : lowerFrom [] chars = [small]) :
    ∃ c, chars = [c] ∧ lowerChar [] c [] = [small] := by
  rcases chars with _ | ⟨c, _ | ⟨d, rest⟩⟩
  · simp [lowerFrom] at hchars
  · exact ⟨c, rfl, by simpa [lowerFrom] using hchars⟩
  · have hc := List.length_pos_iff.mpr (lowerChar_ne_nil [] c (d :: rest))
    have hd := List.length_pos_iff.mpr (lowerChar_ne_nil [c] d rest)
    have hlength := congrArg List.length hchars
    simp only [lowerFrom, List.length_append, List.length_singleton] at hlength
    omega

theorem lower_eq_y_iff {text : String} : lower text = "y" ↔ text = "y" ∨ text = "Y" := by
  constructor
  · intro hlower
    have hchars : lowerFrom [] text.toList = ['y'] := by
      simpa [lower] using congrArg String.toList hlower
    obtain ⟨c, htext, hc⟩ := eq_singleton_of_lowerFrom_eq hchars
    have hcase : c = 'y' ∨ c = 'Y' := by
      unfold lowerChar at hc
      split_ifs at hc
      · simp at hc
      · simp at hc
      · simp at hc
      · exact mapCase_lowerRuns_eq_y (by simpa using hc)
    have hwhole : text = String.ofList [c] := by rw [← htext, String.ofList_toList]
    rcases hcase with rfl | rfl
    · exact .inl hwhole
    · exact .inr hwhole
  · rintro (rfl | rfl) <;> decide +kernel

end AppSurvey.Text
