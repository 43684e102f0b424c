import Storyboard.Console.Action
import Storyboard.Console.Emoji
import Storyboard.Console.Style

/-!
# Texts with tags

A tag is a pair of brackets around a text that starts with a small letter or one of three signs.  It
changes the style of what follows, until a tag with a slash closes it, and is not shown itself.  An
odd number of backslashes in front of a tag makes it plain text; every two of them stand for one.

`shown` is what is left of a text, with the emoji in place of their codes and without the control
characters that would move the cursor.  It also says which styles are asked for, and where.
-/

namespace Storyboard
namespace Console

/-! ## Pieces -/

inductive Piece where
  | plain (text : List Char)
  /-- What stands between the brackets of a tag that starts at a position. -/
  | tag (position : Nat) (body : List Char)
deriving DecidableEq, Repr

def startsTag (c : Char) : Bool :=
  c.isLower || c = '#' || c = '/' || c = '@'

/-- The body of a tag, if what stands behind an opening bracket is one. -/
def tagBody? (afterBracket : List Char) : Option (List Char) :=
  let body := afterBracket.takeWhile fun c => c ≠ ']' ∧ c ≠ '['
  match body, afterBracket.drop body.length with
  | c :: _, ']' :: _ => if startsTag c then some body else none
  | _, _ => none

/-- The plain piece of a text that was read backwards, if there is any. -/
def plainPiece (reversed : List Char) : List Piece :=
  if reversed.isEmpty then [] else [.plain reversed.reverse]

def tagPieces (position slashes : Nat) (body : List Char) : List Piece :=
  plainPiece (List.replicate (slashes / 2) '\\') ++
    if slashes % 2 = 0 then [.tag position body] else [.plain ('[' :: body ++ [']'])]

/--
The pieces of a text from a position on.  The first `skipped` characters belong to a tag that was
read; before them stand a plain text, read backwards, and then some backslashes.
-/
def piecesFrom (position skipped slashes : Nat) (before : List Char) : List Char → List Piece
  | [] => plainPiece (List.replicate slashes '\\' ++ before)
  | c :: rest =>
      match skipped with
      | skipped + 1 => piecesFrom (position + 1) skipped 0 [] rest
      | 0 =>
          if c = '\\' then piecesFrom (position + 1) 0 (slashes + 1) before rest
          else
            match if c = '[' then tagBody? rest else none with
            | some body =>
                plainPiece before ++ tagPieces position slashes body ++
                  piecesFrom (position + 1) (body.length + 1) 0 [] rest
            | none =>
                piecesFrom (position + 1) 0 0 (c :: List.replicate slashes '\\' ++ before) rest

def pieces (cs : List Char) : List Piece :=
  piecesFrom 0 0 0 [] cs

/-! ## Showing -/

structure OpenTag where
  name : List Char
  parameters : Option (List Char)
  start : Nat

def OpenTag.description (tag : OpenTag) : List Char :=
  tag.name ++ tag.parameters.toList.flatMap (' ' :: ·)

structure Span where
  start : Nat
  stop : Nat
  description : List Char

structure Shown where
  text : List Char
  spans : List Span
  /-- The tags that are still open, the last one first. -/
  stack : List OpenTag

/-- Whether a character moves the cursor or rings the bell. -/
def movesCursor (c : Char) : Bool :=
  c.toNat ∈ [7, 8, 11, 12, 13]

/-- A text without the backslashes in front of brackets. -/
def unescaped : List Char → List Char
  | '\\' :: '[' :: rest => '[' :: unescaped rest
  | c :: rest => c :: unescaped rest
  | [] => []

def shownPlain (text : List Char) : List Char :=
  (withEmoji (unescaped text)).filter fun c => !movesCursor c

/-- Takes the first open tag of a name off a stack. -/
def takeTag? (name : List Char) : List OpenTag → Option (OpenTag × List OpenTag)
  | [] => none
  | tag :: rest =>
      if tag.name = name then some (tag, rest)
      else (takeTag? name rest).map fun (found, others) => (found, tag :: others)

/-- The name of a tag, and its parameters if an equals sign follows it. -/
def nameAndParameters (body : List Char) : List Char × Option (List Char) :=
  (body.takeWhile (· ≠ '='), (body.dropWhile (· ≠ '=')).tail?)

/-- Ends a tag, which has to be an action that can be read, or a style. -/
def Shown.finish (shown : Shown) (tag : OpenTag) : Except Failure Shown :=
  if tag.name.head? = some '@' then do
    match tag.parameters with
    | some parameters => if !parameters.isEmpty then checkAction parameters
    | none => pure ()
    return shown
  else .ok { shown with spans := ⟨tag.start, shown.text.length, tag.description⟩ :: shown.spans }

/-- Closes the last open tag, or the last one of a name. -/
def Shown.close (shown : Shown) (position : Nat) (body name : List Char) : Except Failure Shown :=
  match Text.trim Text.isSpace name with
  | [] =>
      match shown.stack with
      | tag :: stack => Shown.finish { shown with stack := stack } tag
      | [] => .error (.nothingToClose position)
  | trimmed => do
      match takeTag? (← canonical trimmed) shown.stack with
      | some (tag, stack) => Shown.finish { shown with stack := stack } tag
      | none => throw (.notOpen (String.ofList ('[' :: body ++ [']'])) position)

def Shown.add (shown : Shown) : Piece → Except Failure Shown
  | .plain text => .ok { shown with text := shown.text ++ shownPlain text }
  | .tag position body =>
      match nameAndParameters body with
      | ('/' :: name, _) => shown.close position body name
      | (name, parameters) => do
          let tag : OpenTag := ⟨← canonical name, parameters, shown.text.length⟩
          return { shown with stack := tag :: shown.stack }

/-- The spans of a text, where open tags last until the end. -/
def Shown.allSpans (shown : Shown) : List Span :=
  let lasting := shown.stack.reverse.map fun tag =>
    ⟨tag.start, shown.text.length, tag.description⟩
  lasting ++ shown.spans

def shown (markup : List Char) : Except Failure Shown :=
  (pieces markup).foldlM Shown.add ⟨[], [], []⟩

end Console
end Storyboard
