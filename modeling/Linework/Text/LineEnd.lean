/-!
# Line ends

A line of a file ends with a line feed, with a carriage return, or with a carriage return and a line feed.
-/

namespace Linework.Text

/-- Bring every line end to a single line feed. -/
def unifyLineEnds : List Char → List Char
  | '\r' :: '\n' :: rest => '\n' :: unifyLineEnds rest
  | '\r' :: rest => '\n' :: unifyLineEnds rest
  | c :: rest => c :: unifyLineEnds rest
  | [] => []

end Linework.Text
