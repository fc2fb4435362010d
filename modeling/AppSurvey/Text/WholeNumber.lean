import AppSurvey.Text.Blank
import AppSurvey.Text.DigitTable
import AppSurvey.Text.Quoted

/-!
# Whole numbers in free text

Reading a whole number as people write it: with blanks around it, a sign, digits of any script and
single underscores between digits. Numbers of more than 4300 digits are refused, whatever follows
them.
-/

namespace AppSurvey.Text

/-- Why a text is no whole number. -/
inductive WholeNumberFault where
  | malformed (text : String)
  | tooLong (digits : Nat)
  deriving DecidableEq

/-- The beginning of a quoted text, as far as a message shows it. -/
def shown (text : String) : String := String.ofList ((quoted text).toList.take 200)

def WholeNumberFault.message : WholeNumberFault → String
  | .malformed text => s!"invalid literal for int() with base 10: {shown text}"
  | .tooLong digits =>
      "Exceeds the limit (4300 digits) for integer string conversion: "
        ++ s!"value has {digits} digits; use sys.set_int_max_str_digits() to increase the limit"

/-- The digits of a number in which single underscores may stand between digits. -/
def groupedDigits? : List Char → Option (List Nat)
  | [] => none
  | [c] => (anyDigit? c).map ([·])
  | c :: '_' :: rest => do
      let d ← anyDigit? c
      let ds ← groupedDigits? rest
      return d :: ds
  | c :: rest => do
      let d ← anyDigit? c
      let ds ← groupedDigits? rest
      return d :: ds

/-- The value of a list of digits. -/
def digitsValue (digits : List Nat) : Nat :=
  digits.foldl (fun value d => value * 10 + d) 0

/-- Does a character count as blank beside a number? The information separators do not. -/
def isNumberBlank (c : Char) : Bool := isBlank c && !(0x1C ≤ c.toNat && c.toNat ≤ 0x1F)

/-- Can a character stand between the first and the last digit of a number? -/
def isNumberChar (c : Char) : Bool := c = '_' || (anyDigit? c).isSome

/-- Reads a whole number. -/
def wholeNumber (text : String) : Except WholeNumberFault Int :=
  let (negative, body) := match trimChars isNumberBlank text.toList with
    | '-' :: rest => (true, rest)
    | '+' :: rest => (false, rest)
    | rest => (false, rest)
  match groupedDigits? (body.takeWhile isNumberChar) with
  | none => .error (.malformed text)
  | some digits =>
      if 4300 < digits.length then .error (.tooLong digits.length)
      else if !(body.dropWhile isNumberChar).isEmpty then .error (.malformed text)
      else
        let value : Int := digitsValue digits
        .ok (if negative then -value else value)

end AppSurvey.Text
