/-!
# Finding and cutting text

Plain searching in strings: whether one text stands inside another, begins or ends it, and how a
text is cut at the last or the first place where a mark stands. `includes_iff` reads a search as
list containment, so that a proof never follows the scan itself.
-/

namespace AppSurvey.Text

/-- Does `part` stand somewhere in the given characters? -/
def occurs (part : List Char) : List Char → Bool
  | [] => part.isEmpty
  | c :: rest => part.isPrefixOf (c :: rest) || occurs part rest

theorem occurs_iff {part whole : List Char} : occurs part whole = true ↔ part <:+: whole := by
  induction whole with
  | nil => simp [occurs]
  | cons c rest ih =>
      rw [occurs, Bool.or_eq_true, List.isPrefixOf_iff_prefix, ih, List.infix_cons_iff]

/-- Does `part` stand somewhere in `text`? -/
def includes (text part : String) : Bool :=
  occurs part.toList text.toList

theorem includes_iff {text part : String} :
    includes text part = true ↔ part.toList <:+: text.toList :=
  occurs_iff

/-- Does one of `parts` stand somewhere in `text`? -/
def includesAny (text : String) (parts : List String) : Bool :=
  parts.any (includes text)

/-- Does `text` begin with `lead`? -/
def startsWith (text lead : String) : Bool :=
  lead.toList.isPrefixOf text.toList

/-- Does `text` end with `tail`? -/
def endsWith (text tail : String) : Bool :=
  tail.toList.isSuffixOf text.toList

/-- Does `text` begin with one of `leads`? -/
def startsWithAny (text : String) (leads : List String) : Bool :=
  leads.any (startsWith text)

/-- The characters without every leading `mark`. -/
def trimStart (mark : Char) (text : List Char) : List Char :=
  text.dropWhile (· == mark)

/-- The characters without every trailing `mark`. -/
def trimEnd (mark : Char) (text : List Char) : List Char :=
  (text.reverse.dropWhile (· == mark)).reverse

/-- The parts before and after the last `mark`, if it stands in the text at all. -/
def splitLast (mark : Char) : List Char → Option (List Char × List Char)
  | [] => none
  | c :: rest =>
      match splitLast mark rest with
      | some (before, after) => some (c :: before, after)
      | none => if c = mark then some ([], rest) else none

/-- What stands behind the last `mark`, and the whole text where there is none. -/
def afterLast (mark : Char) (text : String) : String :=
  match splitLast mark text.toList with
  | some (_, after) => String.ofList after
  | none => text

/-- The parts before and after the first place where `part` stands. -/
def splitFirst (part : List Char) : List Char → Option (List Char × List Char)
  | [] => if part.isEmpty then some ([], []) else none
  | c :: rest =>
      if part.isPrefixOf (c :: rest) then some ([], (c :: rest).drop part.length)
      else (splitFirst part rest).map fun (before, after) => (c :: before, after)

/-- The parts joined with a comma and a blank, as lists are written. -/
def commaList (parts : List String) : String :=
  String.intercalate ", " parts

end AppSurvey.Text
