import Storyboard.Console.ColorNames
import Storyboard.Console.Failure
import Storyboard.Text.Lowercase
import Storyboard.Text.Split

/-!
# Styles

A style is described by words: attributes, which may be denied, a color, a color behind the word
"on", and an address behind the word "link".  Two descriptions mean the same style if they have the
same canonical text.  A text that describes no style is its own canonical text, but for capitals and
blanks around it.
-/

namespace Storyboard
namespace Console

/-- A style as far as it is described; colors and addresses as they are written. -/
structure Style where
  /-- The attributes that were named, the last one first, and whether they are wanted. -/
  attributes : List (String × Bool)
  color : Option (List Char)
  background : Option (List Char)
  link : Option (List Char)

def Style.plain : Style :=
  ⟨[], none, none, none⟩

def Style.withAttribute (style : Style) (name : String) (wanted : Bool) : Style :=
  { style with attributes := (name, wanted) :: style.attributes }

/-- The attributes in canonical order, each with the words that name it. -/
def attributeWords : List (String × List String) :=
  [("bold", ["bold", "b"]), ("dim", ["dim", "d"]), ("italic", ["italic", "i"]),
    ("underline", ["underline", "u"]), ("blink", ["blink"]), ("blink2", ["blink2"]),
    ("reverse", ["reverse", "r"]), ("conceal", ["conceal", "c"]), ("strike", ["strike", "s"]),
    ("underline2", ["underline2", "uu"]), ("frame", ["frame"]), ("encircle", ["encircle"]),
    ("overline", ["overline", "o"])]

def attribute? (word : List Char) : Option String :=
  (attributeWords.find? fun (_, words) => String.ofList word ∈ words).map Prod.fst

/-! ## Colors -/

def isHexDigit (c : Char) : Bool :=
  c.isDigit || ('a' ≤ c && c ≤ 'f')

/-- What stands between a text and a closing parenthesis, if a word consists of these. -/
def inParentheses? (opening : String) (word : List Char) : Option (List Char) :=
  if opening.toList.isPrefixOf word ∧ word.getLast? = some ')' then
    some ((word.drop opening.length).dropLast)
  else none

/-- The value of digits of any script. -/
def digitsValue (cs : List Char) : Nat :=
  cs.foldl (fun value c => 10 * value + (Text.decimalDigit? c).getD 0) 0

def component (digits : List Char) : Except Failure Nat :=
  if digits.isEmpty then .error .numberMissing
  else if Decimal.maxDigits < digits.length then .error (.numberTooLong digits.length)
  else .ok (digitsValue digits)

def areComponents (components : List (List Char)) : Except Failure Bool :=
  match components with
  | [red, green, blue] => do
      let red ← component red
      let green ← component green
      let blue ← component blue
      return red ≤ 255 && green ≤ 255 && blue ≤ 255
  | _ => .ok false

def isColor (word : List Char) : Except Failure Bool :=
  if word = "default".toList then .ok true
  else if colorNames.any fun row => Text.splitOn ' ' row.toList |>.contains word then .ok true
  else if word.head? = some '#' ∧ word.length = 7 ∧ (word.drop 1).all isHexDigit then .ok true
  else
    match inParentheses? "color(" word, inParentheses? "rgb(" word with
    | some number, _ =>
        .ok (0 < number.length && number.length ≤ 3 && number.all Char.isDigit &&
          digitsValue number ≤ 255)
    | none, some components =>
        if components.all fun c => c = ',' ∨ (Text.decimalDigit? c).isSome then
          areComponents (Text.splitOn ',' components)
        else .ok false
    | none, none => .ok false

/-! ## Descriptions -/

/-- Reads the words of a description behind those that were read; nothing if they make no style. -/
def readStyle (style : Style) : List (List Char) → Except Failure (Option Style)
  | [] => .ok (some style)
  | word :: rest =>
      let lower := Text.lowercase word
      if lower = "on".toList then
        match rest with
        | [] => .ok none
        | color :: rest => do
            let color := Text.lowercase color
            if ← isColor color then readStyle { style with background := some color } rest
            else return none
      else if lower = "not".toList then
        match rest with
        | [] => .ok none
        | word :: rest =>
            match attribute? word with
            | some name => readStyle (style.withAttribute name false) rest
            | none => .ok none
      else if lower = "link".toList then
        match rest with
        | [] => .ok none
        | address :: rest => readStyle { style with link := some address } rest
      else
        match attribute? lower with
        | some name => readStyle (style.withAttribute name true) rest
        | none => do
            if ← isColor lower then readStyle { style with color := some lower } rest
            else return none

/-- The style that a text describes; nothing if it describes none. -/
def Style.ofText? (text : List Char) : Except Failure (Option Style) :=
  let words := Text.words text
  if words = ["none".toList] then .ok (some .plain) else readStyle .plain words

def Style.words (style : Style) : List (List Char) :=
  (attributeWords.flatMap fun (name, _) =>
      match style.attributes.lookup name with
      | some true => [name.toList]
      | some false => ["not".toList, name.toList]
      | none => []) ++
    style.color.toList ++
    (style.background.toList.flatMap fun color => ["on".toList, color]) ++
    (style.link.toList.flatMap fun address => ["link".toList, address])

def Style.text (style : Style) : List Char :=
  if style.words.isEmpty then "none".toList else [' '].intercalate style.words

def canonical (description : List Char) : Except Failure (List Char) := do
  match ← Style.ofText? description with
  | some style => return style.text
  | none => return Text.lowercase (Text.trim Text.isSpace description)

end Console
end Storyboard
