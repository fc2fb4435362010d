import AppSurvey.Release.Shell
import AppSurvey.Text.Blank
import AppSurvey.Text.Case

/-!
# Publishing a release

Publishing checks that the work is committed and in step with the remote, that there is something to
release and that its version is known, asks the user, makes the release and pushes it after a second
question. Every check that fails ends the script, so that nothing is pushed without all of them.
-/

namespace AppSurvey.Release.Publish

open Text Script

/-- What stands before a command that is shown. -/
def lead : String := "$ "

/-- Shows a command and runs it. -/
def run (words : List String) (check : Bool := true) (env : List (String × String) := []) :
    Script Outcome :=
  Script.run lead words check env

/-- The output of a command without blanks at its ends. -/
def output (words : List String) : Script String := do
  trimmed (← run words).out

/-- Is an answer of the user a yes? -/
def isYes (answer : Value) : Script Bool := do
  return lower (← Talk.accept Stop.misuse (answer.asText "lower")) == "y"

/-- Ends the script outside a project. -/
def requireProject : Script Unit := do
  unless (← Talk.state).tree.isThere (File.Path.ofText "pyproject.toml") do
    say "ERROR: Run this from project root!"
    exit 1

/-- Ends the script when something is not committed. -/
def requireClean : Script Unit := do
  let status ← run ["git", "status", "--porcelain"] false
  unless (← trimmed status.out).isEmpty do
    sayAll ["ERROR: Working tree is not clean!", "Commit or stash changes first.", status.out.text]
    exit 1
  say "OK: Working tree is clean\n"

/-- Ends the script when the branch and its remote differ. A branch without a remote differs from
none. -/
def requireSync : Script Unit := do
  say "Step 1: Syncing with remote..."
  let _ ← run ["git", "fetch", "origin", "--tags"]
  let local_ ← output ["git", "rev-parse", "@"]
  let remote ← orOnFailure (output ["git", "rev-parse", "@\x7bu\x7d"]) fun _ => do
    say "WARNING: No upstream branch set"
    return local_
  unless local_ = remote do
    sayAll ["ERROR: Local branch is not in sync with remote!", "Run: git pull --tags origin main"]
    exit 1
  say "   OK: In sync with remote\n"

/-- Ends the script when there is nothing new since the last release. -/
def requireCommits : Script Unit := do
  let described ← run ["git", "describe", "--tags", "--abbrev=0"] false
  if described.ok then
    let tag ← trimmed described.out
    say s!"Step 2: Checking commits since {tag}"
    let counted ← output ["git", "rev-list", s!"{tag}..HEAD", "--count"]
    let count ← Talk.accept Stop.badNumber (wholeNumber counted)
    if count = 0 then
      sayAll ["   No new commits since last release", "   Nothing to release!"]
      exit 0
    say s!"   {count} new commit(s) to release\n"
  else say "Step 2: No previous tags found (first release)\n"

/-- The version that comes next. -/
def nextVersion : Script String := do
  say "Step 3: Calculating next version..."
  let preview ← run ["semantic-release", "version", "--print"] false
  unless preview.ok do
    sayAll ["ERROR: Failed to calculate next version", preview.err.text]
    exit 1
  let version ← trimmed preview.out
  say s!"   Next version: {version}\n"
  return version

/-- Makes the release, without pushing anything. -/
def create : Script Unit := do
  sayAll ["\nStep 4: Creating release (local only)...",
    "   Running: check → semantic-release → changelog → finalize",
    "   (This may take a few minutes...)\n"]
  let _ ← orOnFailure (run ["uv", "run", "poe", "release"] true [("SKIP", "uv-lock")])
    fun failure => do
      sayAll [s!"\nERROR: Release failed: {failure.message}", "\nPossible causes:",
        "  - Tests failed (run: uv run poe test)",
        "  - Type checks failed (run: uv run poe pyright)",
        "  - No commits since last release"]
      exit 1

/-- The tag of the release that was made. -/
def createdTag : Script String := do
  say "\nStep 5: Verifying release...\n"
  let commit ← output ["git", "log", "-1", "--oneline"]
  say s!"   Commit: {commit}"
  let described ← run ["git", "describe", "--tags", "--exact-match"] false
  unless described.ok do
    sayAll ["\nERROR: No tag found on HEAD",
      "The finalize_release script should have created a tag",
      "Check the release output above for errors"]
    exit 1
  let tag ← trimmed described.out
  say s!"   Tag: {tag}"
  return tag

/-- Pushes the branch. -/
def pushBranch (tag : String) : Script Unit := do
  say "\nStep 6: Pushing to remote..."
  orOnFailure
    (do
      let _ ← run ["git", "push", "origin", "main"]
      say "   OK: main branch pushed")
    fun _ => do
      sayAll ["\nERROR: Push rejected (remote has changes)", "\nThis usually means:",
        "  - Someone else pushed to main",
        "  - You have multiple machines with uncommitted work",
        "\nRecommended fix:", "  1. Abort this release: git reset --hard HEAD~1",
        s!"  2. Delete the tag: git tag -d {tag}",
        "  3. Pull latest changes: git pull origin main",
        "  4. Re-run: uv run poe safe_release",
        "\nThis ensures a clean, conflict-free release."]
      exit 1

/-- Pushes the tag. -/
def pushTag (tag : String) : Script Unit := do
  say s!"\nPushing tag {tag}..."
  orOnFailure
    (do
      let _ ← run ["git", "push", "origin", tag, "--force"]
      say s!"   OK: Tag {tag} pushed")
    fun _ => do
      sayAll [s!"\nERROR: Failed to push tag {tag}", "This is unexpected. Try manually:",
        s!"  git push origin {tag} --force"]
      exit 1

/-- Pushes the release. -/
def push (tag : String) : Script Unit := do
  pushBranch tag
  pushTag tag
  sayAll ["\n" ++ rule 50, "✅ Release pushed successfully!",
    "\nThe GitHub Release workflow will now:",
    "  1. Build wheels for Linux, Windows, macOS", "  2. Publish to PyPI",
    "  3. Create GitHub Release with artifacts", "\nMonitor progress at:",
    "  https://github.com/mixL1nk/playfast/actions"]

/-- Tells how to push the release later, or to undo it. -/
def keepLocal (tag : String) : Script Unit :=
  sayAll ["\n" ++ rule 50, "Release created locally (not pushed)", "\nTo push manually later:",
    "  git push origin main", s!"  git push origin {tag} --force", "\nTo undo this release:",
    "  git reset --hard HEAD~1", s!"  git tag -d {tag}"]

/-- The script without the care for failed commands. -/
def body : Script Unit := do
  say "\n=== Safe Release Workflow ===\n"
  requireProject
  requireClean
  requireSync
  requireCommits
  let version ← nextVersion
  let answer ← prompt s!"Create release {version}? [y/N]: "
  unless ← isYes answer do
    say "Release cancelled"
    exit 0
  create
  let tag ← createdTag
  say ("\n" ++ rule 50)
  let answer ← prompt "\nPush to remote? [y/N]: "
  if ← isYes answer then push tag else keepLocal tag

/-- Publishes a release. -/
def script : Script Unit :=
  tryCatch body fun
    | .failed failure => do
        say s!"\nERROR: Command failed: {failure.message}"
        if failure.outcome.out.isTruthy then say s!"stdout: {failure.outcome.out.text}"
        if failure.outcome.err.isTruthy then say s!"stderr: {failure.outcome.err.text}"
        exit 1
    | .interrupted => do
        say "\n\nRelease cancelled by user"
        exit 1
    | stop => throw stop

end AppSurvey.Release.Publish
