import AppSurvey.File.Tree
import AppSurvey.Talk
import AppSurvey.Value.Filing

/-!
# Release scripts

A release script runs commands, asks its user and works on files. What it prints and the files are its
state; commands and the user are its partner.
-/

namespace AppSurvey.Release

open Text

/-- A command, with the variables that are set for it. Its line is a list of words, or a text, which
the shell may take apart. One that is checked must succeed. What a caller gives is not checked. -/
structure Command where
  line : Value
  check : Value := .bool true
  env : Keyed Value Value := []
  shell : Bool := false

/-- Variables that are set for a command. -/
def settings (env : List (String × String)) : Keyed Value Value :=
  env.map fun entry => (.string entry.1, .string entry.2)

/-- The command of some words. -/
def Command.ofWords (words : List String) (check : Bool := true)
    (env : List (String × String) := []) : Command :=
  { line := .list (words.map .string), check := .bool check, env := settings env }

/-- How a command ended and what it printed, as it is told. A negative code is the number of the signal
that stopped it. -/
structure Outcome where
  code : Value := .ofInt 0
  out : Value := .string ""
  err : Value := .string ""

/-- Did the command succeed? -/
def Outcome.ok (outcome : Outcome) : Bool := outcome.code == .ofInt 0

/-- A command that was checked and did not succeed. -/
structure Failure where
  line : Value
  outcome : Outcome

/-- The names of signals. -/
def signals : List (Nat × String) :=
  [(1, "SIGHUP"), (2, "SIGINT"), (3, "SIGQUIT"), (4, "SIGILL"), (5, "SIGTRAP"), (6, "SIGABRT"),
    (7, "SIGBUS"), (8, "SIGFPE"), (9, "SIGKILL"), (10, "SIGUSR1"), (11, "SIGSEGV"),
    (12, "SIGUSR2"), (13, "SIGPIPE"), (14, "SIGALRM"), (15, "SIGTERM"), (16, "SIGSTKFLT"),
    (17, "SIGCHLD"), (18, "SIGCONT"), (19, "SIGSTOP"), (20, "SIGTSTP"), (21, "SIGTTIN"),
    (22, "SIGTTOU"), (23, "SIGURG"), (24, "SIGXCPU"), (25, "SIGXFSZ"), (26, "SIGVTALRM"),
    (27, "SIGPROF"), (28, "SIGWINCH"), (29, "SIGIO"), (30, "SIGPWR"), (31, "SIGSYS"),
    (34, "SIGRTMIN"), (64, "SIGRTMAX")]

/-- What is told about the end of a command. -/
def Outcome.ending (outcome : Outcome) : String :=
  let number : Int := outcome.code.whole.toOption.getD 0
  if outcome.code.number?.any fun code => code.less (.int 0) then
    let signal := -number
    match if outcome.code == .ofInt number then signals.lookup signal.toNat else none with
    | some name => s!"died with <Signals.{name}: {signal}>."
    | none => s!"died with unknown signal {signal}."
  else s!"returned non-zero exit status {number}."

def Failure.message (failure : Failure) : String :=
  s!"Command '{failure.line.text}' {failure.outcome.ending}"

/-- What a script asks. -/
inductive Question where
  | run (command : Command)
  | prompt (text : String)

/-- The answers. A user may break off instead of answering. -/
instance : Asking Question where
  Answer
    | .run _ => Outcome
    | .prompt _ => Option Value

/-- What has been printed, and the files. -/
structure Console where
  out : String := ""
  err : String := ""
  tree : File.Tree

/-- Why a script ends before its last line. -/
inductive Stop where
  | exit (code : Nat)
  | failed (failure : Failure)
  | interrupted
  | badNumber (fault : WholeNumberFault)
  | misuse (fault : Misuse)
  | file (fault : File.Fault)

def Stop.message : Stop → String
  | .exit code => toString code
  | .failed failure => failure.message
  | .interrupted => ""
  | .badNumber fault => fault.message
  | .misuse fault => fault.message
  | .file fault => fault.message

/-- A script. -/
abbrev Script : Type → Type := Talk Question Console Stop

namespace Script

/-- Prints a line. -/
def say (line : String) : Script Unit :=
  Talk.change fun console => { console with out := console.out ++ line ++ "\n" }

/-- Prints lines. -/
def sayAll (lines : List String) : Script Unit := lines.forM say

/-- Prints a line where faults are told. -/
def complain (line : String) : Script Unit :=
  Talk.change fun console => { console with err := console.err ++ line ++ "\n" }

/-- Runs a command. -/
def execute (command : Command) : Script Outcome := do
  let outcome : Outcome ← Talk.ask (Question.run command)
  if command.check.isTruthy && outcome.code.isTruthy then throw (Stop.failed ⟨command.line, outcome⟩)
  return outcome

/-- Shows a command behind a lead and runs it. -/
def run (lead : String) (words : List String) (check : Bool := true)
    (env : List (String × String) := []) : Script Outcome := do
  say (lead ++ String.intercalate " " words)
  execute (.ofWords words check env)

/-- Shows a command behind a lead and runs it, where nothing that is given has been checked. -/
def runGiven (lead : String) (line check env : Value) : Script Outcome := do
  say (lead ++ (← Talk.accept Stop.misuse line.joined))
  execute { line, check, env := ← Talk.accept Stop.misuse env.entries }

/-- What a command printed, without blanks at its ends. -/
def trimmed (printed : Value) : Script String := do
  return strip (← Talk.accept Stop.misuse (printed.asText "strip"))

/-- Asks the user. -/
def prompt (text : String) : Script Value := do
  say text
  match ← (Talk.ask (Question.prompt text) : Script (Option Value)) with
  | some answer => return answer
  | none => throw Stop.interrupted

/-- Ends the script. -/
def exit {α : Type} (code : Nat) : Script α := throw (Stop.exit code)

/-- Does a piece of work, and something else if a command in it fails. -/
def orOnFailure {α : Type} (work : Script α) (otherwise : Failure → Script α) : Script α :=
  tryCatch work fun
    | .failed failure => otherwise failure
    | stop => throw stop

end Script

/-- A line of equals signs. -/
def rule (width : Nat) : String := String.ofList (List.replicate width '=')

end AppSurvey.Release
