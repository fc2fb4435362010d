import AppSurvey.Release.Shell
import AppSurvey.Text.Blank

/-!
# Finalizing a release

The changelogs are put into the release commit, which makes a new commit of it, and the tag of the old
commit is moved to the new one.
-/

namespace AppSurvey.Release.Finalize

open Text Script

/-- What stands before a command that is shown. -/
def lead : String := "Running: "

/-- Shows a command and runs it. -/
def run (words : List String) (check : Bool := true) (env : List (String × String) := []) :
    Script Outcome :=
  Script.run lead words check env

/-- The output of a command without blanks at its ends. -/
def output (words : List String) : Script String := do
  trimmed (← run words).out

/-- Is there anything that is not committed? -/
def hasChanges : Script Bool := do
  let status ← run ["git", "status", "--porcelain"] false
  return !(← trimmed status.out).isEmpty

/-- Commands of the release leave the lock file alone. -/
def releaseEnv : List (String × String) := [("SKIP", "uv-lock")]

/-- The changelogs. -/
def changelogs : List String := ["CHANGELOG.md", "docs/changelog.md"]

/-- Stages the changelogs. -/
def stage : Script Unit := do
  let _ ← run (["git", "add"] ++ changelogs)

/-- Puts what is staged into the last commit. -/
def amend : Script Unit := do
  let _ ← run ["git", "commit", "--amend", "--no-edit", "--no-verify"] true releaseEnv

/-- Tells about the last commit. -/
def sayFinalized : Script Unit := do
  let commit ← output ["git", "log", "-1", "--oneline"]
  say s!"\nOK: Release finalized: {commit}"

/-- Tells what to do next. -/
def sayNextSteps (tag : String) : Script Unit :=
  sayAll ["\nNext steps:", "  git push origin main", s!"  git push origin {tag} --force"]

/-- Puts the changelogs into the release commit, and once more what formatting changes in them. -/
def amendChangelogs : Script Unit := do
  say "1. Staging changelog files..."
  stage
  say "2. Amending commit with changelogs..."
  amend
  say "3. Running formatters on changelogs..."
  let formatted ←
    run (["pre-commit", "run", "mdformat", "--files"] ++ changelogs) false releaseEnv
  unless formatted.ok do say "   Formatters modified files"
  if ← hasChanges then
    say "4. Formatters modified files, amending again..."
    stage
    amend
    say "   OK: Changes incorporated into release commit"
  else say "4. No additional changes needed"

/-- Moves a tag to the last commit. -/
def moveTag (tag commit : String) : Script Unit := do
  let short := String.ofList (commit.toList.take 7)
  say s!"\n5. Found tag '{tag}' on pre-amend commit {short}, moving to HEAD..."
  let _ ← run ["git", "tag", "-d", tag]
  let _ ← run ["git", "tag", tag]
  say s!"   OK: Tag '{tag}' moved to current commit"
  sayFinalized
  say s!"OK: Tag: {tag}"
  sayNextSteps tag

/-- Looks for a tag on the last commit. -/
def reportTag : Script Unit := do
  let described ← run ["git", "describe", "--tags", "--exact-match"] false
  if described.ok then
    let tag ← trimmed described.out
    say s!"\nOK: Tag already on HEAD: {tag}"
    sayNextSteps tag
  else
    sayAll ["\nWARNING: No tag found",
      "This is unexpected - semantic-release should have created a tag"]

/-- The script without the care for failed commands. -/
def body : Script Unit := do
  say "\n=== Finalizing Release ===\n"
  let commit ← output ["git", "rev-parse", "HEAD"]
  say s!"Pre-amend commit: {commit}"
  amendChangelogs
  sayFinalized
  let described ← run ["git", "describe", "--tags", "--exact-match", commit] false
  if described.ok then moveTag (← trimmed described.out) commit else reportTag

/-- Finalizes a release. -/
def script : Script Unit :=
  orOnFailure body fun failure => do
    complain s!"\nERROR: {failure.message}"
    if failure.outcome.out.isTruthy then complain s!"stdout: {failure.outcome.out.text}"
    if failure.outcome.err.isTruthy then complain s!"stderr: {failure.outcome.err.text}"
    exit 1

end AppSurvey.Release.Finalize
