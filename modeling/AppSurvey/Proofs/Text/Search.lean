import AppSurvey.Text.Bytes
import Mathlib.Data.List.Basic
import Mathlib.Data.List.Infix

/-!
# The first place where a part stands

`splitFirst` cuts a text at the first place of a part. Both halves of its description are needed: the pieces
make up the text, and no place comes earlier. The position of the place in bytes is the size of the piece
before it, so a cut there is the same as the search.
-/

namespace AppSurvey.Text

theorem splitFirst_eq_none_iff {part text : List Char} :
    splitFirst part text = none ↔ ¬ part <:+: text := by
  induction text with
  | nil => simp [splitFirst, List.isEmpty_iff]
  | cons c rest ih =>
      rw [splitFirst, List.infix_cons_iff, ← List.isPrefixOf_iff_prefix]
      split
      next hstart => simp [hstart]
      next hstart => simp [hstart, ih]

/-- The pieces make up the text, and the part stands nowhere before. -/
theorem splitFirst_eq_some {part text before after : List Char}
    (hsplit : splitFirst part text = some (before, after)) :
    text = before ++ part ++ after ∧
      ∀ other rest, text = other ++ part ++ rest → before.length ≤ other.length := by
  induction text generalizing before with
  | nil =>
      rw [splitFirst] at hsplit
      split at hsplit
      next hempty =>
        cases hsplit
        exact ⟨by simp [List.isEmpty_iff.mp hempty], fun _ _ _ => Nat.zero_le _⟩
      next => cases hsplit
  | cons c rest ih =>
      rw [splitFirst] at hsplit
      split at hsplit
      next hstart =>
        cases hsplit
        obtain ⟨tail, htail⟩ := List.isPrefixOf_iff_prefix.mp hstart
        exact ⟨by simp [← htail], fun _ _ _ => Nat.zero_le _⟩
      next hstart =>
        obtain ⟨⟨first, last⟩, hrest, heq⟩ := Option.map_eq_some_iff.mp hsplit
        cases heq
        obtain ⟨hwhole, hleast⟩ := ih hrest
        refine ⟨by rw [hwhole]; rfl, fun other tail hother => ?_⟩
        cases other with
        | nil =>
            -- The part would stand at the very beginning.
            exact absurd (List.isPrefixOf_iff_prefix.mpr ⟨tail, hother.symm⟩) hstart
        | cons d other =>
            rw [List.cons_append, List.cons_append, List.cons.injEq] at hother
            exact Nat.succ_le_succ (hleast other tail hother.2)

theorem not_infix_of_splitFirst {part text before after : List Char} (hpart : part ≠ [])
    (hsplit : splitFirst part text = some (before, after)) : ¬ part <:+: before := by
  rintro ⟨other, rest, hbefore⟩
  obtain ⟨hwhole, hleast⟩ := splitFirst_eq_some hsplit
  have hle := hleast other (rest ++ part ++ after) (by simp [hwhole, ← hbefore])
  have hpos := List.length_pos_iff.mpr hpart
  simp only [← hbefore, List.length_append] at hle
  omega

/-- Every other place has the piece before the first one in front of it. -/
theorem prefix_of_splitFirst {part text before after other rest : List Char}
    (hsplit : splitFirst part text = some (before, after)) (hother : text = other ++ part ++ rest) :
    before <+: other := by
  obtain ⟨hwhole, hleast⟩ := splitFirst_eq_some hsplit
  have hfirst : before <+: text := ⟨part ++ after, by rw [hwhole, List.append_assoc]⟩
  have hlater : other <+: text := ⟨part ++ rest, by rw [hother, List.append_assoc]⟩
  exact List.prefix_of_prefix_length_le hfirst hlater (hleast other rest hother)

theorem splitFirst_singleton {mark : Char} {before : List Char} (hbefore : mark ∉ before)
    (after : List Char) : splitFirst [mark] (before ++ mark :: after) = some (before, after) := by
  induction before with
  | nil => simp [splitFirst, List.isPrefixOf]
  | cons c before ih =>
      rw [List.mem_cons, not_or] at hbefore
      simp [splitFirst, List.isPrefixOf, hbefore.1, ih hbefore.2]

/-- A text that begins with one part and ends with another has both apart where the first mark of the second
is not in the first. -/
theorem exists_middle {front tail text : List Char} {mark : Char} (hmark : mark ∉ front)
    (hfront : front <+: text) (htail : mark :: tail <:+ text) :
    ∃ middle, text = front ++ middle ++ mark :: tail := by
  obtain ⟨after, hafter⟩ := hfront
  obtain ⟨before, hbefore⟩ := htail
  rcases List.append_eq_append_iff.mp (hafter.trans hbefore.symm) with
    ⟨middle, rfl, -⟩ | ⟨shared, rfl, hshared⟩
  · exact ⟨middle, hbefore.symm⟩
  · cases shared with
    | nil => exact ⟨[], by simpa using hbefore.symm⟩
    | cons c shared =>
        obtain ⟨rfl, -⟩ := List.cons.inj hshared
        exact absurd (List.mem_append_right _ List.mem_cons_self) hmark

theorem byteCount_append (before after : List Char) :
    byteCount (before ++ after) = byteCount before + byteCount after := by
  induction before with
  | nil => simp [byteCount]
  | cons c before ih => simp [byteCount, ih, Nat.add_assoc]

/-- What stands between two parts is cut out by their sizes. -/
theorem between?_append (front middle back : List Char) :
    between? (byteCount front) (byteCount (front ++ middle)) (front ++ middle ++ back) = some middle := by
  have hlead := cutAt?_byteCount (front ++ middle) back
  have hcut := cutAt?_byteCount front middle
  simp only [between?, behind?, hlead, hcut, Option.bind_some, Option.map_some]

/-- No text is cut behind its end. -/
theorem cutAt?_eq_none {position : Nat} {text : List Char} (hposition : byteCount text < position) :
    cutAt? position text = none := by
  cases hcut : cutAt? position text with
  | none => rfl
  | some parts =>
      obtain ⟨hwhole, hcount⟩ := cutAt?_eq_some_iff.mp hcut
      rw [hwhole, byteCount_append] at hposition
      omega

end AppSurvey.Text
