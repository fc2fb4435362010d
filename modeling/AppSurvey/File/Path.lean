import AppSurvey.Text.Search

/-!
# Paths

A path is a root, or none, and the names behind it. Empty names and names of a single dot say nothing
and are dropped; a name of two dots stays, since where it leads depends on the files.
-/

namespace AppSurvey.File

open Text

/-- The names of a text between slashes. -/
def splitNames (chars : List Char) : List String :=
  ((chars.splitOn '/').map String.ofList).filter fun name => !name.isEmpty && name != "."

/-- A path. -/
structure Path where
  /-- How an absolute path begins; empty for a relative one. -/
  root : String := ""
  names : List String
  deriving DecidableEq

namespace Path

/-- The root of a text: exactly two slashes are kept, any other number counts as one. -/
def rootOf (chars : List Char) : String :=
  match (chars.takeWhile (· = '/')).length with
  | 0 => ""
  | 2 => "//"
  | _ => "/"

/-- The path of a text. -/
def ofText (text : String) : Path :=
  { root := rootOf text.toList, names := splitNames text.toList }

/-- The text of a path. A path that says nothing is a single dot. -/
def text (path : Path) : String :=
  if path.root.isEmpty && path.names.isEmpty then "."
  else path.root ++ String.intercalate "/" path.names

/-- The last name. -/
def name (path : Path) : String := path.names.getLast?.getD ""

/-- The path without its last name. -/
def parent (path : Path) : Path := { path with names := path.names.dropLast }

/-- A path further down. -/
def join (path : Path) (name : String) : Path := { path with names := path.names ++ [name] }

def isAbsolute (path : Path) : Bool := !path.root.isEmpty

/-- Why a home directory is not found. -/
inductive HomeFault where
  | unknownName
  /-- The name holds the character that ends texts for the system, which is not even asked. -/
  | nullCharacter
  deriving DecidableEq

/-- The path in which a tilde at the beginning is replaced by the home directory. A tilde with a name
asks for the home of someone unknown, and has no answer. -/
def expandHome (path home : Path) : Except HomeFault Path :=
  if path.isAbsolute then .ok path
  else
    match path.names with
    | [] => .ok path
    | first :: rest =>
        if first = "~" then .ok { home with names := home.names ++ rest }
        else if startsWith first "~" then
          .error (if first.toList.contains '\x00' then .nullCharacter else .unknownName)
        else .ok path

end Path

end AppSurvey.File
