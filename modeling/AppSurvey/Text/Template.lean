import AppSurvey.Text.Search

/-!
# Templates

A template is text with slots to fill in, each written as a dollar sign and a name in braces. They are
filled from left to right in one pass, so what is filled in is never looked at again.
-/

namespace AppSurvey.Text

/-- The parts and what stands between them make up the text. -/
theorem length_of_splitFirst {part text before after : List Char}
    (hsplit : splitFirst part text = some (before, after)) :
    text.length = before.length + part.length + after.length := by
  fun_induction splitFirst part text generalizing before with
  | case1 hempty =>
      cases hsplit
      rw [List.isEmpty_iff.mp hempty]
      rfl
  | case2 => cases hsplit
  | case3 c rest hstart =>
      cases hsplit
      have hle := (List.isPrefixOf_iff_prefix.mp hstart).length_le
      simp only [List.length_drop, List.length_nil]
      omega
  | case4 c rest hstart ih =>
      obtain ⟨⟨first, last⟩, hrest, heq⟩ := Option.map_eq_some_iff.mp hsplit
      cases heq
      have hlength := ih hrest
      simp only [List.length_cons]
      omega

/-- The opening of a slot. -/
def slotOpening : List Char := ['$', '\x7b']

/-- The end of a slot. -/
def slotEnd : List Char := ['\x7d']

/-- The first slot of a text of some length: what stands before it, its name, and what is left, which is
shorter. -/
structure Slot (length : Nat) where
  before : List Char
  name : List Char
  rest : List Char
  shorter : rest.length < length

/-- The first slot of a text, if there is one and it has an end. -/
def firstSlot? (chars : List Char) : Option (Slot chars.length) :=
  match hopening : splitFirst slotOpening chars with
  | none => none
  | some (before, after) =>
      match hend : splitFirst slotEnd after with
      | none => none
      | some (name, rest) =>
          have shorter : rest.length < chars.length := by
            have hafter := length_of_splitFirst hopening
            have hrest := length_of_splitFirst hend
            simp only [slotEnd, List.length_singleton] at hrest
            omega
          some { before, name, rest, shorter }

/-- A slot as it stands in a template. -/
def slotText (name : List Char) : List Char := slotOpening ++ name ++ slotEnd

/-- The value of a slot. One without a value stays as it is. -/
def fillSlot (values : String → Option String) (name : List Char) : List Char :=
  match values (String.ofList name) with
  | some value => value.toList
  | none => slotText name

/-- What is put out behind the last slot. If one begins there that has no end, it is put out twice. -/
def lastText (chars : List Char) : List Char :=
  if occurs slotOpening chars then chars ++ chars else chars

/-- Fills in the slots of a text. -/
def fillSlots (values : String → Option String) (chars : List Char) : List Char :=
  match firstSlot? chars with
  | none => lastText chars
  | some slot => slot.before ++ fillSlot values slot.name ++ fillSlots values slot.rest
termination_by chars.length
decreasing_by exact slot.shorter

/-- Fills in a template. -/
def fillTemplate (values : String → Option String) (template : String) : String :=
  String.ofList (fillSlots values template.toList)

/-- Percent encoding of the marks by which nested lists are written. -/
def percentChar (c : Char) : List Char :=
  match c with
  | '[' => "%5B".toList
  | ']' => "%5D".toList
  | '"' => "%22".toList
  | ',' => "%2C".toList
  | '\\' => "%5C".toList
  | ':' => "%3A".toList
  | c => [c]

/-- The text with the marks of nested lists percent-encoded. -/
def percentEncode (text : String) : String :=
  String.ofList (text.toList.flatMap percentChar)

end AppSurvey.Text
