/-!
# Blank characters

The characters that count as blank when text is trimmed: the Unicode white space, and the four
information separators before the plain blank.
-/

namespace AppSurvey.Text

/-- The ranges of blank characters. -/
def blankRanges : List (Nat × Nat) :=
  [(0x9, 0xD), (0x1C, 0x20), (0x85, 0x85), (0xA0, 0xA0), (0x1680, 0x1680), (0x2000, 0x200A),
    (0x2028, 0x2029), (0x202F, 0x202F), (0x205F, 0x205F), (0x3000, 0x3000)]

/-- Does the character count as blank? -/
def isBlank (c : Char) : Bool :=
  blankRanges.any fun (first, last) => first ≤ c.toNat && c.toNat ≤ last

/-- The characters without those at both ends that count as blank. -/
def trimChars (blank : Char → Bool) (chars : List Char) : List Char :=
  ((chars.dropWhile blank).reverse.dropWhile blank).reverse

/-- The text without the blanks at both ends. -/
def strip (text : String) : String :=
  String.ofList (trimChars isBlank text.toList)

end AppSurvey.Text
