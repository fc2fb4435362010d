import AppSurvey.Text.Search

/-!
# Positions counted in bytes

A position in a text may be counted in bytes, where a character counts as many as its UTF-8 form has.
A text can be cut only between two characters, so `cutAt?_eq_some_iff` reads a cut as two parts of the
text.
-/

namespace AppSurvey.Text

/-- How many bytes characters have. -/
def byteCount : List Char → Nat
  | [] => 0
  | c :: rest => c.utf8Size + byteCount rest

/-- The characters before a position and those behind it, unless the position lies inside a character
or beyond the end. -/
def cutAt? : (position : Nat) → List Char → Option (List Char × List Char)
  | 0, text => some ([], text)
  | _ + 1, [] => none
  | position + 1, c :: rest =>
      if c.utf8Size ≤ position + 1 then
        (cutAt? (position + 1 - c.utf8Size) rest).map fun (before, after) => (c :: before, after)
      else none

theorem cutAt?_byteCount (before after : List Char) :
    cutAt? (byteCount before) (before ++ after) = some (before, after) := by
  induction before with
  | nil => rw [byteCount, List.nil_append, cutAt?]
  | cons c before ih =>
      have hc := c.utf8Size_pos
      obtain ⟨position, hposition⟩ : ∃ position, c.utf8Size + byteCount before = position + 1 :=
        ⟨c.utf8Size + byteCount before - 1, by omega⟩
      have hrest : position + 1 - c.utf8Size = byteCount before := by omega
      rw [byteCount, hposition, List.cons_append, cutAt?, if_pos (by omega), hrest, ih, Option.map_some]

theorem eq_append_of_cutAt? {position : Nat} {text before after : List Char}
    (hcut : cutAt? position text = some (before, after)) :
    text = before ++ after ∧ byteCount before = position := by
  fun_induction cutAt? position text generalizing before with
  | case1 text =>
      cases hcut
      exact ⟨rfl, rfl⟩
  | case2 => cases hcut
  | case3 position c rest hfits ih =>
      obtain ⟨⟨first, last⟩, hrest, heq⟩ := Option.map_eq_some_iff.mp hcut
      cases heq
      obtain ⟨rfl, hcount⟩ := ih hrest
      exact ⟨rfl, by rw [byteCount, hcount]; omega⟩
  | case4 => cases hcut

theorem cutAt?_eq_some_iff {position : Nat} {text before after : List Char} :
    cutAt? position text = some (before, after) ↔
      text = before ++ after ∧ byteCount before = position := by
  constructor
  · exact eq_append_of_cutAt?
  · rintro ⟨rfl, rfl⟩
    exact cutAt?_byteCount before after

/-- What stands behind a position. -/
def behind? (position : Nat) (text : List Char) : Option (List Char) :=
  (cutAt? position text).map Prod.snd

/-- What stands between two positions. There is nothing where they are not in order. -/
def between? (first last : Nat) (text : List Char) : Option (List Char) :=
  (cutAt? last text).bind fun (lead, _) => behind? first lead

/-- The position of the first place where `part` stands. -/
def bytePosition? (part text : List Char) : Option Nat :=
  (splitFirst part text).map fun (before, _) => byteCount before

end AppSurvey.Text
