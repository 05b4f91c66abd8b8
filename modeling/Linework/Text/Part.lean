/-!
# Texts in texts

Where a text stands within another one.
-/

namespace Linework.Text

/-- Whether a text stands somewhere in another. -/
def contains (part : List Char) : List Char → Bool
  | [] => part.isEmpty
  | c :: rest => part.isPrefixOf (c :: rest) || contains part rest

/-- Whether one of some texts stands somewhere in another. -/
def containsOneOf (parts : List String) (text : List Char) : Bool :=
  parts.any fun part => contains part.toList text

end Linework.Text
