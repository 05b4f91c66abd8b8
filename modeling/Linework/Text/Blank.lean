import Linework.Text.Ranges

/-!
# Blank characters and words

Which characters separate words, and the three ways text is cut at them: trimming both ends,
trimming the left end, and splitting into words.
-/

namespace Linework.Text

/-- The code ranges of the blank characters. -/
def blankRanges : Ranges :=
  #[(0x9, 0xd), (0x1c, 0x20), (0x85, 0x85), (0xa0, 0xa0), (0x1680, 0x1680), (0x2000, 0x200a),
    (0x2028, 0x2029), (0x202f, 0x202f), (0x205f, 0x205f), (0x3000, 0x3000)]

/-- A character that separates words. -/
def isBlank (c : Char) : Bool :=
  blankRanges.covers c

/-- Drop the characters satisfying `p` from both ends. -/
def trimBy (p : Char → Bool) (chars : List Char) : List Char :=
  ((chars.dropWhile p).reverse.dropWhile p).reverse

/-- Text without its leading and trailing blanks. -/
def trim (text : String) : String :=
  String.ofList (trimBy isBlank text.toList)

/-- Text without its leading blanks. -/
def trimLeft (text : String) : String :=
  String.ofList (text.toList.dropWhile isBlank)

/-- Text without its trailing blanks. -/
def trimRight (text : String) : String :=
  String.ofList (text.toList.reverse.dropWhile isBlank).reverse

/-- The words of a text, after `word`, the reversed beginning of the word being read. -/
def wordsFrom (word : List Char) : List Char → List (List Char)
  | [] => if word.isEmpty then [] else [word.reverse]
  | c :: rest =>
    if isBlank c then
      if word.isEmpty then wordsFrom [] rest else word.reverse :: wordsFrom [] rest
    else wordsFrom (c :: word) rest

/-- The maximal runs of characters that are not blank, in order. -/
def words (text : String) : List String :=
  (wordsFrom [] text.toList).map String.ofList

/-- A text that holds nothing but blanks. -/
def isBlankText (text : String) : Bool :=
  text.toList.all isBlank

end Linework.Text
