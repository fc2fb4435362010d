import AppSurvey.Release.Shell
import AppSurvey.Text.Utf8

/-!
# Writing the changelog

The changelog is made by a command and stands in two places.
-/

namespace AppSurvey.Release.Changelog

open Script File

/-- The system on which a script runs. -/
inductive System where
  | windows
  | other
  deriving DecidableEq

/-- The version that is released: from the environment, else from the arguments. -/
def version (newVersion : Option String) (args : List String) : String :=
  match newVersion with
  | some text => if text.isEmpty then args.head?.getD "unreleased" else text
  | none => args.head?.getD "unreleased"

/-- The command that makes the changelog. Only one system needs the shell for it. -/
def command (system : System) (version : String) : Command :=
  let env := [("PYTHONUTF8", "1")]
  match system with
  | .windows =>
      { line := .string s!"uv run git-cliff --tag v{version}", env := settings env, shell := true }
  | .other => .ofWords ["uv", "run", "git-cliff", "--tag", s!"v{version}"] true env

/-- Writes a file. -/
def write (path : Path) (text : String) : Script Unit := do
  let tree ← Talk.accept Stop.file ((← Talk.state).tree.write path (Utf8.encode text))
  Talk.change fun console => { console with tree }

/-- Makes a directory and those above it. -/
def makeDirectories (path : Path) : Script Unit := do
  let (tree, fault) := (← Talk.state).tree.makeDirectories path
  Talk.change fun console => { console with tree }
  if let some fault := fault then throw (Stop.file fault)

/-- Where a copy goes: into the target if that is a directory. -/
def copyTarget (tree : Tree) (source target : Path) : Path :=
  if tree.isDirectory target then target.join source.name else target

/-- Writes the changelog. -/
def script (system : System) (newVersion : Option String) (args : List String) : Script Unit := do
  let version := version newVersion args
  let made ← execute (command system version)
  let text ← Talk.accept Stop.misuse made.out.writable
  let source := Path.ofText "CHANGELOG.md"
  write source text
  let target := Path.ofText "docs/changelog.md"
  makeDirectories target.parent
  write (copyTarget (← Talk.state).tree source target) text
  say s!"Generated CHANGELOG.md and docs/changelog.md for v{version}"

end AppSurvey.Release.Changelog
