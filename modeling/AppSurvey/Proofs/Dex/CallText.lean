import AppSurvey.Dex.Signature
import AppSurvey.Proofs.Dex.NameParts

/-!
# Calls as they are written

A call is written on a variable that is named after the class of the method. The first letter of the name
is made small as a character, and the rest is taken from the second byte on, so the two fit together only
where the first letter has one byte. A class whose name begins with any other letter has no such text.
-/

namespace AppSurvey.Text

/-- The characters of a text behind the last mark in it, and all of them where there is none. -/
structure IsBehindLast (mark : Char) (text : String) (chars : List Char) : Prop where
  last : mark ∉ chars
  whole : text.toList = chars ∨ ∃ before, text.toList = before ++ mark :: chars

theorem isBehindLast_afterLast (mark : Char) (text : String) :
    IsBehindLast mark text (afterLast mark text).toList := by
  unfold afterLast
  split
  next before after hsplit =>
    obtain ⟨hwhole, hlast⟩ := splitLast_eq_some hsplit
    rw [String.toList_ofList]
    exact ⟨hlast, .inr ⟨before, hwhole⟩⟩
  next hsplit => exact ⟨splitLast_eq_none_iff.mp hsplit, .inl rfl⟩

theorem utf8Size_eq_one_iff_ascii {c : Char} : c.utf8Size = 1 ↔ c.toNat < 128 := by
  rw [Char.utf8Size_eq_one_iff, UInt32.le_iff_toNat_le]
  exact Nat.lt_succ_iff.symm

/-- Only a first character of one byte can be cut off by the byte. -/
theorem behind?_one_cons (c : Char) (rest : List Char) :
    behind? 1 (c :: rest) = if c.toNat < 128 then some rest else none := by
  have hpos := c.utf8Size_pos
  by_cases hc : c.utf8Size = 1
  · rw [if_pos (utf8Size_eq_one_iff_ascii.mp hc)]
    simp [behind?, cutAt?, hc]
  · rw [if_neg (hc ∘ utf8Size_eq_one_iff_ascii.mpr)]
    have hwide : ¬ c.utf8Size ≤ 0 + 1 := by omega
    rw [behind?, cutAt?, if_neg hwide, Option.map_none]

/-- The small form of an ASCII character. -/
theorem lowerAlone_of_ascii {c : Char} (hc : c.toNat < 128) : lowerAlone c = [c.toLower] := by
  have hall : ∀ n < 128, lowerAlone (Char.ofNat n) = [(Char.ofNat n).toLower] := by decide +kernel
  simpa using hall c.toNat hc

end AppSurvey.Text

namespace AppSurvey.Dex.Signature

open Text

/-- A method of a class whose name has a letter behind its last dot: the call is written, on that part of the
name with a small first letter and with all arguments, exactly if the first letter is an ASCII character. For
any other first letter there is no text at all. -/
theorem call_written_iff_first_letter_ascii (signature : Signature) (args : List String) {c : Char}
    {rest : List Char} (hname : signature.simpleClassName.toList = c :: rest) :
    let call := String.ofList (lowerAlone c ++ rest) ++
      ("." ++ signature.methodName ++ "(" ++ String.intercalate ", " args ++ ")")
    IsBehindLast '.' signature.className (c :: rest) ∧
      (signature.callText? args = some call ↔ c.toNat < 128) ∧
      (signature.callText? args = none ↔ ¬ c.toNat < 128) ∧
      (c.toNat < 128 → lowerAlone c = [c.toLower]) := by
  intro call
  have hsimple : IsBehindLast '.' signature.className signature.simpleClassName.toList :=
    isBehindLast_afterLast '.' signature.className
  have hcall : signature.callText? args = if c.toNat < 128 then some call else none := by
    simp only [callText?, hname, behind?_one_cons, List.head?_cons]
    split <;> rfl
  refine ⟨hname ▸ hsimple, ?_, ?_, lowerAlone_of_ascii⟩
  · simp [hcall]
  · simp [hcall]

/-- A method of a class. -/
def openOf (className : String) : Signature := make className "open" ["int"] "void"

/-- The call on a page is written, the one on a class whose name begins with an umlaut is not. -/
theorem umlaut_call_not_written :
    (openOf "app.Page").callText? ["x", "y"] = some "page.open(x, y)" ∧
      IsBehindLast '.' "app.Über" ['Ü', 'b', 'e', 'r'] ∧
      (openOf "app.Über").callText? ["x", "y"] = none := by
  have hplain : (openOf "app.Page").simpleClassName.toList = ['P', 'a', 'g', 'e'] := rfl
  have hspecial : (openOf "app.Über").simpleClassName.toList = ['Ü', 'b', 'e', 'r'] := rfl
  obtain ⟨-, hpage, -, hsmall⟩ := call_written_iff_first_letter_ascii _ ["x", "y"] hplain
  obtain ⟨humlaut, -, hnone, -⟩ := call_written_iff_first_letter_ascii _ ["x", "y"] hspecial
  refine ⟨?_, humlaut, hnone.mpr (by decide)⟩
  rw [hpage.mpr (by decide), hsmall (by decide)]
  rfl

end AppSurvey.Dex.Signature
