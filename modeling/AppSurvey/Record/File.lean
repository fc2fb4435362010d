import AppSurvey.File.Tree
import AppSurvey.Record.Basic
import AppSurvey.Text.Hex
import AppSurvey.Text.LineEnd
import AppSurvey.Text.Utf8

/-!
# Records of files

Files as a record from their paths to their content: a text, or a record of bytes.
-/

namespace AppSurvey.File.Tree

open Text

/-- The content that a value stands for. -/
def contentOf : Value → List UInt8
  | .string text => Utf8.encode text
  | other => bytesOf (other.get "hex" : String).toList

/-- The tree with files below the working directory. -/
def addAll (tree : Tree) (files : List (String × Value)) : Tree :=
  files.foldl (fun tree (path, content) => tree.withFile path (contentOf content)) tree

/-- The content of a file as a text, or as bytes where it is none. -/
def contentText (content : List UInt8) : String :=
  match Utf8.decode content with
  | .ok text => text
  | .error _ => bytesText content

/-- The content of a file as it is read, with plain line ends. -/
def readText (content : List UInt8) : String :=
  match Utf8.decode content with
  | .ok text => String.ofList (plainLineEnds text.toList)
  | .error _ => bytesText content

/-- The files below the working directory, with their content shown by the name of the file. -/
def record (tree : Tree) (shown : String → List UInt8 → String) : Value :=
  .record ((tree.filesBelow tree.here).map fun (names, content) =>
    (String.intercalate "/" names, .string (shown (names.getLast?.getD "") content)))

end AppSurvey.File.Tree
