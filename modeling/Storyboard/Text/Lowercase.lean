import Storyboard.Text.LowercaseMapping
import Storyboard.Text.Cased
import Storyboard.Text.CaseIgnorable

/-!
# Lower-casing a text

Every character is replaced by its lower case on its own, with two exceptions.  The capital I with
a dot becomes two characters, and a capital sigma becomes the final form of the letter where it
ends a word: after a cased letter and not before one, marks in between not counted.
-/

namespace Storyboard
namespace Text

def lowercaseCode (code : Nat) : Nat :=
  match lowercaseRuns.find? (·.covers code) with
  | some run => ((code : Int) + run.offset).toNat
  | none => code

/-- Whether the first character that is not case-ignorable is a cased letter. -/
def meetsCased (cs : List Char) : Bool :=
  match cs.find? (fun c => !inRanges caseIgnorableRanges c) with
  | some c => inRanges casedRanges c
  | none => false

/--
The lower case of a character, given the characters before it (the nearest first) and after it.
-/
def lowercaseChar (before : List Char) (c : Char) (after : List Char) : List Char :=
  if c = 'İ' then ['i', Char.ofNat 0x307]
  else if c = 'Σ' then [if meetsCased before && !meetsCased after then 'ς' else 'σ']
  else [Char.ofNat (lowercaseCode c.toNat)]

/-- The lower case of a text of which some characters have been read already, the nearest first. -/
def lowercaseAfter (before : List Char) : List Char → List Char
  | [] => []
  | c :: after => lowercaseChar before c after ++ lowercaseAfter (c :: before) after

def lowercase (cs : List Char) : List Char :=
  lowercaseAfter [] cs

end Text
end Storyboard
