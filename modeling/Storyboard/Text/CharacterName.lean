import Storyboard.Text.CharacterNames
import Storyboard.Text.Range
import Storyboard.Text.Split

/-!
# What is the name of a character

Most names are listed.  The syllables of Hangul are named by their parts, and the ideographs that
are common to Chinese, Japanese and Korean by their codes.  Only the listed names may be written in
small letters.
-/

namespace Storyboard
namespace Text

/-! ## Listed names -/

/-- The value of a digit, or of a small letter from ten on. -/
def sharedCount (c : Char) : Nat :=
  if c.isDigit then c.toNat - '0'.toNat else c.toNat - 'a'.toNat + 10

/-- Whether the words of a name are among entries that follow the words of another name. -/
def isAmong (name before : List (List Char)) : List (List Char) → Bool
  | [] => false
  | [] :: rest => isAmong name before rest
  | (count :: words) :: rest =>
      let current := before.take (sharedCount count) ++ splitOn ' ' words
      current = name || isAmong name current rest

def isListedName (name : List Char) : Bool :=
  isAmong (splitOn ' ' name) [] (characterNames.flatMap fun line => splitOn '|' line.toList)

/-! ## Syllables -/

def syllableStarts : List String := [
  "GG", "DD", "BB", "SS", "JJ", "G", "N", "D", "R", "M", "B", "S", "J", "C", "K", "T", "P", "H", ""]

def syllableVowels : List String := [
  "YAE", "YEO", "WAE", "WEO", "AE", "YA", "EO", "YE", "WA", "OE", "YO", "WE", "WI", "YU", "EU",
  "YI", "A", "E", "O", "U", "I"]

def syllableEnds : List String := [
  "GG", "GS", "NJ", "NH", "LG", "LM", "LB", "LS", "LT", "LP", "LH", "BS", "SS", "NG", "G", "N", "D",
  "L", "M", "B", "S", "J", "C", "K", "T", "P", "H", ""]

/-- What follows the first of some parts with which a text starts. -/
def withoutPart? (parts : List String) (cs : List Char) : Option (List Char) :=
  (parts.find? fun part => part.toList.isPrefixOf cs).map fun part => cs.drop part.length

/-- Whether a text is made of the parts of a syllable, each of them as long as it can be. -/
def isSyllable (cs : List Char) : Bool :=
  match ((withoutPart? syllableStarts cs).bind (withoutPart? syllableVowels)).bind
      (withoutPart? syllableEnds) with
  | some [] => true
  | _ => false

/-! ## Ideographs -/

def ideographRanges : List Range := [
  ⟨0x3400, 0x4DBF⟩, ⟨0x4E00, 0x9FFF⟩, ⟨0x20000, 0x2A6DF⟩, ⟨0x2A700, 0x2B738⟩,
  ⟨0x2B740, 0x2B81D⟩, ⟨0x2B820, 0x2CEA1⟩, ⟨0x2CEB0, 0x2EBE0⟩, ⟨0x30000, 0x3134A⟩]

/-- The value of a digit in base sixteen with capital letters. -/
def capitalHexDigit? (c : Char) : Option Nat :=
  if c.isDigit then some (c.toNat - '0'.toNat)
  else if 'A' ≤ c ∧ c ≤ 'F' then some (c.toNat - 'A'.toNat + 10)
  else none

/-- Whether a text is the code of a common ideograph, with four or five digits. -/
def isIdeographCode (cs : List Char) : Bool :=
  match cs.mapM capitalHexDigit? with
  | none => false
  | some digits =>
      (digits.length = 4 || digits.length = 5) &&
        inRanges ideographRanges (Char.ofNat (digits.foldl (fun code digit => 16 * code + digit) 0))

/-! ## Names -/

/-- What follows the start of a text. -/
def afterStart? (start : String) (cs : List Char) : Option (List Char) :=
  if start.toList.isPrefixOf cs then some (cs.drop start.length) else none

def isCharacterName (name : List Char) : Bool :=
  match afterStart? "HANGUL SYLLABLE " name, afterStart? "CJK UNIFIED IDEOGRAPH-" name with
  | some syllable, _ => isSyllable syllable
  | none, some code => isIdeographCode code
  | none, none => isListedName (name.map Char.toUpper)

end Text
end Storyboard
