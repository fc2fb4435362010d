import AppSurvey.Text.Hex
import AppSurvey.Text.Printable

/-!
# Quoted text

A text between quotes, in which everything that would not be shown as it is stands as an escape. The
quotes are single ones, unless the text has a single quote and no double one.
-/

namespace AppSurvey.Text

/-- The escape of a code point: the shortest of the forms with two, four and eight digits. -/
def escapeCode (n : Nat) : String :=
  if n < 0x100 then "\\x" ++ hex 2 n
  else if n < 0x10000 then "\\u" ++ hex 4 n
  else "\\U" ++ hex 8 n

/-- A character inside quotes. -/
def quotedChar (quote c : Char) : String :=
  if c = quote || c = '\\' then String.ofList ['\\', c]
  else if c = '\n' then "\\n"
  else if c = '\r' then "\\r"
  else if c = '\t' then "\\t"
  else if isPrintable c then String.singleton c
  else escapeCode c.toNat

/-- The quote that suits a text. -/
def quoteFor (text : String) : Char :=
  if text.toList.contains '\'' && !text.toList.contains '"' then '"' else '\''

/-- The text between quotes. -/
def quoted (text : String) : String :=
  let quote := quoteFor text
  String.singleton quote ++ String.join (text.toList.map (quotedChar quote))
    ++ String.singleton quote

end AppSurvey.Text
