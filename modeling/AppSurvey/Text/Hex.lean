/-!
# Hexadecimal text

Numbers in lower-case hexadecimal, filled up with zeros on the left to a least width, and bytes as
two such digits each.
-/

namespace AppSurvey.Text

/-- Fills a text up on the left to at least `width` characters. -/
def padLeft (width : Nat) (fill : Char) (text : String) : String :=
  String.ofList (List.replicate (width - text.length) fill) ++ text

/-- A number in lower-case hexadecimal with at least `width` digits. -/
def hex (width n : Nat) : String :=
  padLeft width '0' (String.ofList (Nat.toDigits 16 n))

/-- The value of a hexadecimal digit. -/
def hexDigit? (c : Char) : Option Nat :=
  if '0' ≤ c ∧ c ≤ '9' then some (c.toNat - 48)
  else if 'a' ≤ c ∧ c ≤ 'f' then some (c.toNat - 87)
  else if 'A' ≤ c ∧ c ≤ 'F' then some (c.toNat - 55)
  else none

/-- The value of hexadecimal digits. -/
def hexValue? (chars : List Char) : Option Nat :=
  chars.foldlM (fun n c => (hexDigit? c).map (n * 16 + ·)) 0

/-- Bytes as two digits each. -/
def bytesText (bytes : List UInt8) : String :=
  String.join (bytes.map fun byte => hex 2 byte.toNat)

/-- The bytes of pairs of digits, up to the first pair that is none. -/
def bytesOf : List Char → List UInt8
  | high :: low :: rest =>
      match hexValue? [high, low] with
      | some byte => byte.toUInt8 :: bytesOf rest
      | none => []
  | _ => []

end AppSurvey.Text
