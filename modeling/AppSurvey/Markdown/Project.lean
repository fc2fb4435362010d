import AppSurvey.File.Tree
import AppSurvey.Markdown.Numbering
import AppSurvey.Text.Hex
import AppSurvey.Text.Utf8

/-!
# Numbering the lists of a project

The Markdown files of a project are numbered one after the other. A file that cannot be read is
reported and left as it is.
-/

namespace AppSurvey.Markdown

open Text File

/-- What is told about text that is not UTF-8. -/
def unreadableText (fault : Utf8.Fault) : String :=
  let reason := match fault.defect with
    | .start => "invalid start byte"
    | .continuation _ => "invalid continuation byte"
    | .cutShort _ => "unexpected end of data"
  let span := fault.defect.span
  let place :=
    if span = 1 then s!"byte 0x{hex 2 fault.byte.toNat} in position {fault.position}"
    else s!"bytes in position {fault.position}-{fault.position + span - 1}"
  s!"'utf-8' codec can't decode {place}: {reason}"

/-- The bytes of a file with its lists numbered, unless all of them are. -/
def renumberBytes? (bytes : List UInt8) : Except Utf8.Fault (Option (List UInt8)) :=
  (Utf8.decode bytes).map fun text => (renumber? text).map Utf8.encode

/-- Directories in which nothing is numbered. -/
def excludedNames : List String := [".venv", "target", "dist", ".git", "htmlcov"]

/-- Is a file one to be numbered, by its names below the project? -/
def isCandidate (names : List String) : Bool :=
  endsWith (names.getLast?.getD "") ".md" && !names.any excludedNames.contains

/-- What numbering did to a file. -/
inductive Report where
  | fixed (path : String)
  | failed (path reason : String)

def Report.text : Report → String
  | .fixed path => s!"[OK] Fixed: {path}"
  | .failed path reason => s!"[ERROR] {path}: {reason}"

/-- Numbers one file, given by its names below the working directory. -/
def renumberFile (tree : Tree) (names : List String) (bytes : List UInt8) : Tree × Option Report :=
  let path := String.intercalate "/" names
  match renumberBytes? bytes with
  | .error fault => (tree, some (.failed path (unreadableText fault)))
  | .ok none => (tree, none)
  | .ok (some numbered) =>
      (tree.put (tree.here ++ names) (.file numbered), some (.fixed path))

/-- Numbers the files one after the other and lists the reports. -/
def renumberFiles : Tree → List (List String × List UInt8) → Tree × List Report
  | tree, [] => (tree, [])
  | tree, (names, bytes) :: rest =>
      let (tree, report) := renumberFile tree names bytes
      let (tree, reports) := renumberFiles tree rest
      (tree, report.toList ++ reports)

/-- Numbers the lists of every candidate below the working directory. -/
def renumberProject (tree : Tree) : Tree × List Report :=
  renumberFiles tree ((tree.filesBelow tree.here).filter fun file => isCandidate file.1)

/-- The closing lines of a run. -/
def closing (reports : List Report) : List String :=
  let fixed := reports.filter fun
    | .fixed _ => true
    | .failed _ _ => false
  let rule := String.ofList (List.replicate 60 '=')
  ["", rule, s!"Modified {fixed.length} file(s)", rule]

/-- The lines that a run prints. A report on a file whose name has a line end in it takes more than
one. -/
def printedLines (reports : List Report) : List String :=
  (reports.map Report.text ++ closing reports ++ [""]).flatMap fun line =>
    (line.toList.splitOn '\n').map String.ofList

end AppSurvey.Markdown
