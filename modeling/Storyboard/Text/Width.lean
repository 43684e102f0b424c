import Storyboard.Text.WidthRanges

/-!
# Columns of a text

The columns that a text takes are those of its characters, with two exceptions.  A joiner merges the
character after it into the one before.  A selector for pictures makes a narrow character in front
of it wide, if that one can be shown as a picture.
-/

namespace Storyboard
namespace Text

/-- The character that joins its neighbours. -/
def joiner : Char := '\u200d'

/-- The character that asks for the picture of the one before it. -/
def pictureSelector : Char := '\ufe0f'

def charWidth (c : Char) : Nat :=
  if inRanges zeroWidthRanges c then 0 else if inRanges wideRanges c then 2 else 1

/-- The columns that a selector adds to the last character with a width. -/
def widening (last : Option Char) : Nat :=
  if last.any (inRanges pictureRanges) then 1 else 0

/-- The columns of a text behind a character that a selector may still widen. -/
def widthAfter (last : Option Char) : List Char → Nat
  | [] => 0
  | c :: rest =>
      if c = joiner then
        match rest with
        | [] => 0
        | _ :: rest => widthAfter last rest
      else if c = pictureSelector then widening last + widthAfter none rest
      else
        let width := charWidth c
        width + widthAfter (if width = 0 then last else some c) rest

def width (cs : List Char) : Nat :=
  widthAfter none cs

end Text
end Storyboard
