import AppSurvey.File.Path
import AppSurvey.Text.Quoted

/-!
# File trees

Files and directories with a working directory. Every operation takes a path and follows it name by
name, so that a path through something that is missing or no directory fails, even where a name of
two dots leads back.
-/

namespace AppSurvey.File

/-- Where something is: the names from the root. -/
abbrev Location : Type := List String

/-- Why an operation fails. -/
inductive Cause where
  | missing
  | alreadyThere
  | notDirectory
  | isDirectory
  /-- A name, or the whole path, is longer than the system allows. -/
  | tooLong
  /-- The path holds the character that ends texts for the system, which is not even asked. -/
  | nullCharacter
  deriving DecidableEq

/-- The number that the system gives to a cause. -/
def Cause.number? : Cause → Option Nat
  | .missing => some 2
  | .alreadyThere => some 17
  | .notDirectory => some 20
  | .isDirectory => some 21
  | .tooLong => some 36
  | .nullCharacter => none

def Cause.text : Cause → String
  | .missing => "No such file or directory"
  | .alreadyThere => "File exists"
  | .notDirectory => "Not a directory"
  | .isDirectory => "Is a directory"
  | .tooLong => "File name too long"
  | .nullCharacter => "embedded null byte"

/-- A failed operation on a path. -/
structure Fault where
  cause : Cause
  path : String
  deriving DecidableEq

def Fault.message (fault : Fault) : String :=
  match fault.cause.number? with
  | some number => s!"[Errno {number}] {fault.cause.text}: {Text.quoted fault.path}"
  | none => fault.cause.text

/-- What a location holds. -/
inductive Node where
  | directory
  | file (content : List UInt8)

/-- The nodes of a tree, each under its location, and the working directory. -/
structure Tree where
  here : Location
  nodes : List (Location × Node)

namespace Tree

/-- What is at a location. The root is always there. -/
def node? (tree : Tree) (location : Location) : Option Node :=
  if location.isEmpty then some .directory else tree.nodes.lookup location

def isDirectoryAt (tree : Tree) (location : Location) : Bool :=
  match tree.node? location with
  | some .directory => true
  | _ => false

/-- Puts a node at a location, in place of the one that is there. -/
def put (tree : Tree) (location : Location) (node : Node) : Tree :=
  { tree with
    nodes :=
      if (tree.nodes.lookup location).isSome then
        tree.nodes.map fun entry => if entry.1 = location then (location, node) else entry
      else tree.nodes ++ [(location, node)] }

/-- The locations on the way to a location, without itself. -/
def ancestors (location : Location) : List Location :=
  (List.range location.length).map fun n => location.take n

/-- Makes directories on the way to a location. -/
def putAncestors (tree : Tree) (location : Location) : Tree :=
  (ancestors location).foldl
    (fun tree above => if (tree.node? above).isSome then tree else tree.put above .directory) tree

/-- An empty tree with a working directory. -/
def empty (here : Location) : Tree :=
  ({ here, nodes := [] : Tree }.putAncestors here).put here .directory

/-- How many bytes a name may have. -/
def maxNameSize : Nat := 255

/-- How many bytes a path may have. -/
def maxPathSize : Nat := 4095

/-- Where a name leads from a directory. -/
def enter (location : Location) (name : String) : Except Cause Location :=
  if maxNameSize < name.utf8ByteSize then .error .tooLong
  else .ok (if name = ".." then location.dropLast else location ++ [name])

/-- Follows names from a directory to a directory. -/
def follow (tree : Tree) (location : Location) : List String → Except Cause Location
  | [] =>
      match tree.node? location with
      | some .directory => .ok location
      | some (.file _) => .error .notDirectory
      | none => .error .missing
  | name :: rest =>
      match tree.node? location with
      | some .directory =>
          match enter location name with
          | .ok next => tree.follow next rest
          | .error cause => .error cause
      | some (.file _) => .error .notDirectory
      | none => .error .missing

/-- Where a path begins. -/
def start (tree : Tree) (path : Path) : Location :=
  if path.isAbsolute then [] else tree.here

/-- Refuses a path that the system cannot take. -/
def permit (path : Path) : Except Cause Unit :=
  if path.text.toList.contains '\x00' then .error .nullCharacter
  else if maxPathSize < path.text.utf8ByteSize then .error .tooLong
  else .ok ()

/-- Where a path leads, which need not be there; the directory above it must be. -/
def locate (tree : Tree) (path : Path) : Except Cause Location := do
  permit path
  match path.names.getLast? with
  | none => return tree.start path
  | some last =>
      let above ← tree.follow (tree.start path) path.names.dropLast
      enter above last

/-- What a path leads to. -/
def find? (tree : Tree) (path : Path) : Option Node :=
  match tree.locate path with
  | .ok location => tree.node? location
  | .error _ => none

/-- Does a path lead to something? A path that is too long has no answer. -/
def look (tree : Tree) (path : Path) : Except Fault Bool :=
  match tree.locate path with
  | .ok location => .ok (tree.node? location).isSome
  | .error .tooLong => .error ⟨.tooLong, path.text⟩
  | .error _ => .ok false

/-- Does a path lead to something? -/
def isThere (tree : Tree) (path : Path) : Bool := (tree.find? path).isSome

/-- Does a path lead to a directory? -/
def isDirectory (tree : Tree) (path : Path) : Bool :=
  match tree.find? path with
  | some .directory => true
  | _ => false

/-- Names the path in a failure. -/
def naming {α : Type} (path : Path) : Except Cause α → Except Fault α
  | .ok a => .ok a
  | .error cause => .error ⟨cause, path.text⟩

/-- Makes one directory. -/
def makeOne (tree : Tree) (path : Path) : Except Cause Tree := do
  let location ← tree.locate path
  if (tree.node? location).isSome then throw .alreadyThere
  return tree.put location .directory

/-- The tree after an attempt to make a directory. A directory that is there already is no fault. -/
def settle (tree : Tree) (path : Path) : Except Cause Tree → Tree × Option Fault
  | .ok made => (made, none)
  | .error cause =>
      if cause != .missing && tree.isDirectory path then (tree, none)
      else (tree, some ⟨cause, path.text⟩)

/-- Makes a directory and, for `count` levels, those above it where they are missing. What was made
before a fault stays. -/
def makeLevels (tree : Tree) : (count : Nat) → Path → Tree × Option Fault
  | 0, path => tree.settle path (tree.makeOne path)
  | count + 1, path =>
      match tree.makeOne path with
      | .error .missing =>
          match tree.makeLevels count path.parent with
          | (above, none) => above.settle path (above.makeOne path)
          | failed => failed
      | result => tree.settle path result

/-- Makes a directory and those above it where they are missing. -/
def makeDirectories (tree : Tree) (path : Path) : Tree × Option Fault :=
  tree.makeLevels path.names.length path

/-- The content of a file. -/
def read (tree : Tree) (path : Path) : Except Fault (List UInt8) := do
  let location ← naming path (tree.locate path)
  match tree.node? location with
  | some (.file content) => return content
  | some .directory => throw ⟨.isDirectory, path.text⟩
  | none => throw ⟨.missing, path.text⟩

/-- Writes a file, in place of one that is there. -/
def write (tree : Tree) (path : Path) (content : List UInt8) : Except Fault Tree := do
  let location ← naming path (tree.locate path)
  if tree.isDirectoryAt location then throw ⟨.isDirectory, path.text⟩
  return tree.put location (.file content)

/-- The files at and below a location, with the names that lead to them from there. -/
def filesBelow (tree : Tree) (location : Location) : List (List String × List UInt8) :=
  tree.nodes.filterMap fun (place, node) =>
    match node with
    | .file content =>
        if location.isPrefixOf place then some (place.drop location.length, content) else none
    | .directory => none

/-- The tree with a file at a relative path, and the directories it needs. -/
def withFile (tree : Tree) (path : String) (content : List UInt8) : Tree :=
  let location := tree.here ++ (Path.ofText path).names
  (tree.putAncestors location).put location (.file content)

end Tree

end AppSurvey.File
