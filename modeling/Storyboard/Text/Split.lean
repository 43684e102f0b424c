import Storyboard.Text.DecimalDigit

/-!
# Cutting a text into pieces

A text is cut at every occurrence of a character, which gives at least one piece, or into its words,
which have no blanks around them and are not empty.
-/

namespace Storyboard
namespace Text

/-- The pieces of a text between the occurrences of a character. -/
def splitOn (separator : Char) : List Char → List (List Char)
  | [] => [[]]
  | c :: rest =>
      match splitOn separator rest with
      | [] => [[c]]
      | piece :: pieces =>
          if c = separator then [] :: piece :: pieces else (c :: piece) :: pieces

/-- The words of a text of which the end of one has been read already. -/
def wordsBefore (word : List Char) : List Char → List (List Char)
  | [] => if word.isEmpty then [] else [word.reverse]
  | c :: rest =>
      if !isSpace c then wordsBefore (c :: word) rest
      else if word.isEmpty then wordsBefore [] rest
      else word.reverse :: wordsBefore [] rest

def words (cs : List Char) : List (List Char) :=
  wordsBefore [] cs

/-- A text without the characters of a kind at its ends. -/
def trim (drops : Char → Bool) (cs : List Char) : List Char :=
  ((cs.dropWhile drops).reverse.dropWhile drops).reverse

end Text
end Storyboard
