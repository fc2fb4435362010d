import AppSurvey.Proofs.Text.Search
import AppSurvey.Text.Template

/-!
# Filling in all slots at once

A template is given by its texts and the names of the slots between them. Filling it goes from slot to slot,
and what comes out are the same texts in the same order with a value in the place of each slot, whatever is
written in the values.
-/

namespace AppSurvey.Text

/-! ## Finding a slot -/

/-- No slot begins in the text. -/
def IsSlotFree (text : String) : Prop := ¬ slotOpening <:+: text.toList

theorem isSlotFree_of_notMem {text : String} (htext : '$' ∉ text.toList) : IsSlotFree text := by
  intro hinfix
  apply htext
  exact hinfix.subset List.mem_cons_self

theorem splitFirst_slotOpening {before : List Char} (hbefore : ¬ slotOpening <:+: before)
    (after : List Char) :
    splitFirst slotOpening (before ++ slotOpening ++ after) = some (before, after) := by
  induction before with
  | nil => rfl
  | cons c before ih =>
      rw [List.infix_cons_iff, not_or] at hbefore
      have hstart : slotOpening.isPrefixOf (c :: (before ++ slotOpening ++ after)) = false := by
        rw [← Bool.not_eq_true, List.isPrefixOf_iff_prefix]
        intro hstart
        cases before with
        | nil =>
            -- A dollar sign and the dollar sign of the slot are not the opening of one.
            simp [slotOpening] at hstart
        | cons d before =>
            apply hbefore.1
            simpa [slotOpening] using hstart
      rw [List.cons_append, List.cons_append, splitFirst, hstart, ih hbefore.2]
      rfl

theorem firstSlot?_eq_none {chars : List Char} (hchars : ¬ slotOpening <:+: chars) :
    firstSlot? chars = none := by
  rw [firstSlot?]
  split
  next => rfl
  next before after hopening =>
    rw [splitFirst_eq_none_iff.mpr hchars] at hopening
    cases hopening

theorem firstSlot?_append {before name : List Char} (hbefore : ¬ slotOpening <:+: before)
    (hname : '\x7d' ∉ name) (rest : List Char) :
    ∃ slot, firstSlot? (before ++ slotText name ++ rest) = some slot ∧
      slot.before = before ∧ slot.name = name ∧ slot.rest = rest := by
  have hopening : splitFirst slotOpening (before ++ slotText name ++ rest) =
      some (before, name ++ '\x7d' :: rest) := by
    rw [← splitFirst_slotOpening hbefore]
    simp [slotText, slotEnd]
  rw [firstSlot?]
  split
  next hnone =>
    rw [hopening] at hnone
    cases hnone
  next first after hsome =>
    rw [hopening] at hsome
    cases hsome
    split
    next hnone =>
      rw [slotEnd, splitFirst_singleton hname] at hnone
      cases hnone
    next found left hend =>
      rw [slotEnd, splitFirst_singleton hname] at hend
      cases hend
      exact ⟨_, rfl, rfl, rfl, rfl⟩

/-! ## Filling -/

/-- A slot of a name. -/
def slot (name : String) : String := String.ofList (slotText name.toList)

theorem fillTemplate_eq_self (values : String → Option String) {text : String}
    (htext : IsSlotFree text) : fillTemplate values text = text := by
  have hlast : occurs slotOpening text.toList = false := by
    rw [← Bool.not_eq_true, occurs_iff]
    exact htext
  rw [fillTemplate, fillSlots, firstSlot?_eq_none htext]
  simp [lastText, hlast]

/-- The step from one slot to the next. -/
theorem fillTemplate_append (values : String → Option String) {before name : String}
    (hbefore : IsSlotFree before) (hname : '\x7d' ∉ name.toList) (rest : String) :
    fillTemplate values (before ++ slot name ++ rest) =
      before ++ (values name).getD (slot name) ++ fillTemplate values rest := by
  obtain ⟨found, hfound, hfirst, hnamed, hleft⟩ := firstSlot?_append hbefore hname rest.toList
  have hvalue : fillSlot values name.toList = ((values name).getD (slot name)).toList := by
    rw [fillSlot, String.ofList_toList]
    cases values name with
    | none => simp [slot]
    | some value => rfl
  have hstep : fillSlots values (before.toList ++ slotText name.toList ++ rest.toList) =
      before.toList ++ ((values name).getD (slot name)).toList ++ fillSlots values rest.toList := by
    rw [fillSlots, hfound]
    change found.before ++ fillSlot values found.name ++ fillSlots values found.rest = _
    rw [hfirst, hnamed, hleft, hvalue]
  apply String.toList_inj.mp
  simpa [fillTemplate, slot] using hstep

/-- The texts of a template in their order, each with the name of the slot behind it, and the text behind
the last slot. -/
structure Pattern where
  parts : List (String × String)
  last : String
  parts_slotFree : ∀ part ∈ parts, IsSlotFree part.1 ∧ '\x7d' ∉ part.2.toList
  last_slotFree : IsSlotFree last

theorem Pattern.isSlotFree_of_mem (pattern : Pattern) :
    ∀ text ∈ pattern.parts.map Prod.fst ++ [pattern.last], IsSlotFree text := by
  intro text htext
  rcases List.mem_append.mp htext with htext | htext
  · obtain ⟨part, hpart, rfl⟩ := List.mem_map.mp htext
    exact (pattern.parts_slotFree part hpart).1
  · rw [List.mem_singleton.mp htext]
    exact pattern.last_slotFree

/-- The texts of a pattern, with what is put for each name between them. -/
def Pattern.write (pattern : Pattern) (put : String → String) : String :=
  pattern.parts.foldr (fun part rest => part.1 ++ put part.2 ++ rest) pattern.last

/-- Filling in a pattern written with slots writes it with their values. -/
theorem fillTemplate_write (values : String → Option String) (pattern : Pattern) :
    fillTemplate values (pattern.write slot) =
      pattern.write fun name => (values name).getD (slot name) := by
  obtain ⟨parts, last, hparts, hlast⟩ := pattern
  simp only [Pattern.write]
  induction parts with
  | nil => exact fillTemplate_eq_self values hlast
  | cons part parts ih =>
      obtain ⟨⟨hbefore, hname⟩, hparts⟩ := List.forall_mem_cons.mp hparts
      rw [List.foldr_cons, List.foldr_cons, fillTemplate_append values hbefore hname, ih hparts]

-- A slot in a value stays as it is written there.
example : fillTemplate (fun name => some (if name = "a" then "$\x7bb\x7d" else "c"))
    "$\x7ba\x7d, $\x7bb\x7d" = "$\x7bb\x7d, c" := by
  cbv

/-! ## Percent encoding -/

theorem percentEncode_append (first second : String) :
    percentEncode (first ++ second) = percentEncode first ++ percentEncode second := by
  simp [percentEncode]

theorem dollar_notMem_percentChar {c : Char} (hc : c ≠ '$') : '$' ∉ percentChar c := by
  unfold percentChar
  split
  all_goals first | decide | simpa using hc.symm

/-- No slot begins in an encoded text that has no dollar sign. -/
theorem isSlotFree_percentEncode {text : String} (htext : '$' ∉ text.toList) :
    IsSlotFree (percentEncode text) := by
  apply isSlotFree_of_notMem
  rw [percentEncode, String.toList_ofList, List.mem_flatMap]
  intro ⟨c, hc, hmem⟩
  apply dollar_notMem_percentChar _ hmem
  intro heq
  exact htext (heq ▸ hc)

end AppSurvey.Text
