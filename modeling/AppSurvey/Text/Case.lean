import AppSurvey.Text.CaseTable

/-!
# Letter case

Small and capital forms of whole texts. A sigma at the end of a word has a small form of its own,
which depends on the letters around it; every other character is mapped by itself.
-/

namespace AppSurvey.Text

/-- Is the code point in one of the ranges? -/
def inRanges (ranges : List (Nat × Nat)) (n : Nat) : Bool :=
  ranges.any fun (first, last) => first ≤ n && n ≤ last

/-- Does the run map the code point? -/
def CaseRun.covers (run : CaseRun) (n : Nat) : Bool :=
  run.first ≤ n && n ≤ run.last && (n - run.first) % run.step == 0

/-- The character that a list of runs maps a character to. -/
def mapCase (runs : List CaseRun) (c : Char) : Char :=
  match runs.find? fun run => run.covers c.toNat with
  | some run => Char.ofNat ((c.toNat : Int) + run.shift).toNat
  | none => c

/-- Does a letter with case come next, when the characters that do not count are passed over? -/
def casedNext : List Char → Bool
  | [] => false
  | c :: rest =>
      if inRanges caseIgnorableRanges c.toNat then casedNext rest
      else inRanges casedRanges c.toNat

/-- The small form of a character between the characters before it, nearest first, and those
behind it. -/
def lowerChar (before : List Char) (c : Char) (after : List Char) : List Char :=
  if c = 'Σ' then
    if casedNext before && !casedNext after then ['ς'] else ['σ']
  else if c = 'İ' then ['i', Char.ofNat 0x307]
  else [mapCase lowerRuns c]

/-- The small form of a character that stands alone. -/
def lowerAlone (c : Char) : List Char := lowerChar [] c []

/-- The small forms of the characters that follow those of `before`. -/
def lowerFrom (before : List Char) : List Char → List Char
  | [] => []
  | c :: after => lowerChar before c after ++ lowerFrom (c :: before) after

/-- The text in small letters. -/
def lower (text : String) : String :=
  String.ofList (lowerFrom [] text.toList)

/-- The capital form of a character. -/
def upperChar (c : Char) : List Char :=
  match upperExpansions.lookup c.toNat with
  | some expansion => expansion.map Char.ofNat
  | none => [mapCase upperRuns c]

/-- The text in capital letters. -/
def upper (text : String) : String :=
  String.ofList (text.toList.flatMap upperChar)

end AppSurvey.Text
