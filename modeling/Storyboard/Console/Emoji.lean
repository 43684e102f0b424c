import Storyboard.Console.EmojiNames
import Storyboard.Text.Lowercase
import Storyboard.Text.Split

/-!
# Emoji codes

The name of an emoji between two colons stands for the emoji.  A hyphen and a word at the end of
the name choose whether it is shown as text or as a picture.  There is no blank between the colons,
and a code with an unknown name stays as it is.
-/

namespace Storyboard
namespace Console

def hexDigitValue (c : Char) : Nat :=
  if c.isDigit then c.toNat - '0'.toNat else c.toNat - 'A'.toNat + 10

/-- The character whose code point is written in base sixteen. -/
def charOfHex (digits : List Char) : Char :=
  Char.ofNat (digits.foldl (fun value c => 16 * value + hexDigitValue c) 0)

/-- What an entry of the table says about a name. -/
def entryValue? (name entry : List Char) : Option (List Char) :=
  if entry.takeWhile (· ≠ '=') = name then
    some ((Text.splitOn '-' ((entry.dropWhile (· ≠ '=')).drop 1)).map charOfHex)
  else none

def emoji? (name : List Char) : Option (List Char) :=
  emojiNames.findSome? fun row => (Text.splitOn ' ' row.toList).findSome? (entryValue? name)

/-- The words that choose how an emoji is shown, with the selectors that do it. -/
def variants : List (List Char × Char) :=
  [("-text".toList, '\ufe0e'), ("-emoji".toList, '\ufe0f')]

/-- The name of a code and the selector that follows its emoji. -/
def nameAndSelector (code : List Char) : List Char × List Char :=
  match variants.find? fun (word, _) => word.isSuffixOf code with
  | some (word, selector) => (code.take (code.length - word.length), [selector])
  | none => (code, [])

/-- What is shown for what stands between two colons. -/
def shownCode (code : List Char) : List Char :=
  let (name, selector) := nameAndSelector code
  match emoji? (Text.lowercase name) with
  | some emoji => emoji ++ selector
  | none => ':' :: code ++ [':']

def shownPieces : List (List Char) → List Char
  | [] => []
  | [piece] => piece
  | [piece, last] => piece ++ ':' :: last
  | piece :: code :: rest =>
      if code.any Text.isSpace then piece ++ ':' :: shownPieces (code :: rest)
      else piece ++ shownCode code ++ shownPieces rest

def withEmoji (cs : List Char) : List Char :=
  shownPieces (Text.splitOn ':' cs)

end Console
end Storyboard
