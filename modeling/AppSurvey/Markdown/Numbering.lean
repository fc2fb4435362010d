import AppSurvey.Text.Blank
import AppSurvey.Text.LineEnd
import AppSurvey.Text.Search

/-!
# Numbering ordered lists

In Markdown every item of an ordered list may be written with the number one. Here such lists get
their numbers. A list begins with an item of number one; items of number one with the same indent go
on with it, and lines that are blank or indented further belong to its items. Any other line ends it.
-/

namespace AppSurvey.Markdown

open Text

/-- The blanks that a line begins with. -/
def indentOf (line : List Char) : List Char := line.takeWhile isBlank

/-- What stands behind the number of an item with number one and the given indent. -/
def itemRest? (indent line : List Char) : Option (List Char) :=
  if indent.isPrefixOf line then
    match line.drop indent.length with
    | '1' :: '.' :: blank :: rest => if isBlank blank then some (blank :: rest) else none
    | _ => none
  else none

/-- Does a line belong to an item of a list with the given indent? -/
def belongs (indent line : List Char) : Bool :=
  (indent ++ [' ', ' ']).isPrefixOf line || line.all isBlank

/-- A list that is being numbered: its indent and the number of its next item. -/
structure Run where
  indent : List Char
  next : Nat
  deriving DecidableEq

namespace Run

/-- An item with its number. -/
def item (run : Run) (rest : List Char) : List Char :=
  run.indent ++ (toString run.next).toList ++ ['.'] ++ rest

/-- The list after one more item. -/
def advance (run : Run) : Run := { run with next := run.next + 1 }

end Run

/-- The list that a line begins, if it does, behind its first item. -/
def begins? (line : List Char) : Option Run :=
  (itemRest? (indentOf line) line).map fun _ => ⟨indentOf line, 2⟩

/-- Lines whose lists are numbered, and whether one of them has changed. -/
structure Numbered where
  lines : List (List Char) := []
  changed : Bool := false

/-- Numbered lines behind another line. -/
def Numbered.after (numbered : Numbered) (line : List Char) : Numbered :=
  { numbered with lines := line :: numbered.lines }

/-- Numbers the items of lines, inside a list or outside. The number of an item changes unless the item
begins its list. -/
def number : Option Run → List (List Char) → Numbered
  | _, [] => {}
  | none, line :: rest => (number (begins? line) rest).after line
  | some run, line :: rest =>
      match itemRest? run.indent line with
      | some behind =>
          { (number (some run.advance) rest).after (run.item behind) with changed := true }
      | none =>
          if belongs run.indent line then (number (some run) rest).after line
          else (number (begins? line) rest).after line

/-- The lines of a text. -/
def linesOf (text : List Char) : List (List Char) := (plainLineEnds text).splitOn '\n'

/-- The text of lines. -/
def unlines (lines : List (List Char)) : List Char := ['\n'].intercalate lines

/-- The text with its lists numbered, unless all of them are. -/
def renumber? (text : String) : Option String :=
  let numbered := number none (linesOf text.toList)
  if numbered.changed then some (String.ofList (unlines numbered.lines)) else none

end AppSurvey.Markdown
