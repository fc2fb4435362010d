/-!
# Line ends

Texts end their lines with a line feed, a carriage return, or both. A text that is read has them all
as line feeds.
-/

namespace AppSurvey.Text

/-- Line ends of all kinds as one line feed. -/
def plainLineEnds : List Char → List Char
  | '\r' :: '\n' :: rest => '\n' :: plainLineEnds rest
  | '\r' :: rest => '\n' :: plainLineEnds rest
  | c :: rest => c :: plainLineEnds rest
  | [] => []

end AppSurvey.Text
