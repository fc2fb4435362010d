import AppSurvey.Text.Hex
import AppSurvey.Value

/-!
# Reading JSON text

A reader takes characters and gives a value with the characters behind it. Values nest, so the
readers of values call each other with a bound on the depth; the length of the text is enough of a
bound, since every level takes at least one character.
-/

namespace AppSurvey.Json

open Text

/-- Blanks between the parts of a value. -/
def isSpace (c : Char) : Bool := c = ' ' || c = '\n' || c = '\r' || c = '\t'

/-- The text without the blanks it begins with. -/
def skip (chars : List Char) : List Char := chars.dropWhile isSpace

/-- The character that a one-letter escape stands for. -/
def unescape? (c : Char) : Option Char :=
  match c with
  | '"' => some '"'
  | '\\' => some '\\'
  | '/' => some '/'
  | 'n' => some '\n'
  | 'r' => some '\r'
  | 't' => some '\t'
  | 'b' => some (Char.ofNat 8)
  | 'f' => some (Char.ofNat 12)
  | _ => none

/-- The code units of a text up to its closing quote, and what stands behind it. -/
def units : List Char → Option (List Nat × List Char)
  | [] => none
  | '"' :: rest => some ([], rest)
  | '\\' :: 'u' :: a :: b :: c :: d :: rest => do
      let unit ← hexValue? [a, b, c, d]
      let (more, behind) ← units rest
      return (unit :: more, behind)
  | '\\' :: c :: rest => do
      let plain ← unescape? c
      let (more, behind) ← units rest
      return (plain.toNat :: more, behind)
  | c :: rest => do
      let (more, behind) ← units rest
      return (c.toNat :: more, behind)

/-- The characters of code units: a high surrogate joins the low one behind it. -/
def characters : List Nat → List Char
  | high :: low :: rest =>
      if 0xD800 ≤ high ∧ high < 0xDC00 ∧ 0xDC00 ≤ low ∧ low < 0xE000 then
        Char.ofNat (0x10000 + (high - 0xD800) * 0x400 + (low - 0xDC00)) :: characters rest
      else Char.ofNat high :: characters (low :: rest)
  | [unit] => [Char.ofNat unit]
  | [] => []
termination_by units => units.length

/-- The text up to its closing quote. -/
def text? (chars : List Char) : Option (String × List Char) :=
  (units chars).map fun (units, rest) => (String.ofList (characters units), rest)

/-- Characters that a number is made of. -/
def isNumeric (c : Char) : Bool :=
  c.isDigit || c = '-' || c = '+' || c = '.' || c = 'e' || c = 'E'

/-- The names of the numbers that are not finite. -/
def namedNumbers : List (List Char × Number) :=
  [("NaN".toList, .undefined), ("Infinity".toList, .infinite false),
    ("-Infinity".toList, .infinite true)]

/-- The number that a text begins with, in digits or by its name. -/
def number? (chars : List Char) : Option (Value × List Char) :=
  match namedNumbers.find? fun named => named.1.isPrefixOf chars with
  | some (name, number) => some (.number number, chars.drop name.length)
  | none => do
      let digits := chars.takeWhile isNumeric
      let number ← Number.parse? (String.ofList digits)
      return (.number number, chars.drop digits.length)

mutual

/-- The value that a text begins with. -/
def value? : (depth : Nat) → List Char → Option (Value × List Char)
  | 0, _ => none
  | depth + 1, chars =>
      match skip chars with
      | 'n' :: 'u' :: 'l' :: 'l' :: rest => some (.null, rest)
      | 't' :: 'r' :: 'u' :: 'e' :: rest => some (.bool true, rest)
      | 'f' :: 'a' :: 'l' :: 's' :: 'e' :: rest => some (.bool false, rest)
      | '"' :: rest => (text? rest).map fun (text, rest) => (.string text, rest)
      | '[' :: rest =>
          match skip rest with
          | ']' :: rest => some (.list [], rest)
          | rest => (items? depth rest).map fun (items, rest) => (.list items, rest)
      | '\x7b' :: rest =>
          match skip rest with
          | '\x7d' :: rest => some (.record [], rest)
          | rest => (fields? depth rest).map fun (fields, rest) => (.record fields, rest)
      | rest => number? rest

/-- The items of a list up to its closing bracket. -/
def items? : (depth : Nat) → List Char → Option (List Value × List Char)
  | 0, _ => none
  | depth + 1, chars => do
      let (item, rest) ← value? depth chars
      match skip rest with
      | ',' :: rest =>
          let (more, rest) ← items? depth rest
          return (item :: more, rest)
      | ']' :: rest => return ([item], rest)
      | _ => none

/-- The fields of a record up to its closing brace. -/
def fields? : (depth : Nat) → List Char → Option (List (String × Value) × List Char)
  | 0, _ => none
  | depth + 1, chars => do
      match skip chars with
      | '"' :: rest =>
          let (key, rest) ← text? rest
          match skip rest with
          | ':' :: rest =>
              let (value, rest) ← value? depth rest
              match skip rest with
              | ',' :: rest =>
                  let (more, rest) ← fields? depth rest
                  return ((key, value) :: more, rest)
              | '\x7d' :: rest => return ([(key, value)], rest)
              | _ => none
          | _ => none
      | _ => none

end

/-- The value of a JSON text. -/
def parse? (text : String) : Option Value :=
  let chars := text.toList
  match value? (2 * chars.length + 2) chars with
  | some (value, rest) => if (skip rest).isEmpty then some value else none
  | none => none

end AppSurvey.Json
