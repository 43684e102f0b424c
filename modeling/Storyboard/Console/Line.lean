import Storyboard.Console.Markup
import Storyboard.Text.Width

/-!
# Lines of the console

Status lines and errors are printed through a console that understands tags and emoji codes.  The
styles themselves are not shown, but a style whose description cannot be read stops the line where
it is needed.  Tabs become blanks up to every eighth column.
-/

namespace Storyboard
namespace Console

/-- The columns between two tab stops. -/
def tabSize : Nat := 8

/-- A text with blanks up to the next tab stop, at least one. -/
def padded (cs : List Char) : List Char :=
  let cs := cs ++ [' ']
  let excess := Text.width cs % tabSize
  if excess = 0 then cs else cs ++ List.replicate (tabSize - excess) ' '

def joinTabs : List (List Char) → List Char
  | [] => []
  | [piece] => piece
  | piece :: rest => padded piece ++ joinTabs rest

def withoutTabs (cs : List Char) : List Char :=
  ['\n'].intercalate ((Text.splitOn '\n' cs).map fun line => joinTabs (Text.splitOn '\t' line))

/--
Whether the style of a span is needed.  In a text that is cut at line ends or tabs, a span that
covers nothing but line ends is lost.
-/
def Span.isNeeded (text : List Char) (span : Span) : Bool :=
  ((text.take span.stop).drop span.start).any (· ≠ '\n') || !text.any fun c => c = '\n' ∨ c = '\t'

/-- The spans of a text in the order in which their styles are read: by their starts. -/
def inOrder (spans : List Span) : List Span :=
  spans.mergeSort fun a b => a.start ≤ b.start

/-- The line that is printed for a text, with the newline that ends it. -/
def line (text : String) : Except Failure String := do
  let result ← shown text.toList
  (inOrder result.allSpans).forM fun span => do
    if span.isNeeded result.text then
      let _ ← Style.ofText? span.description
  return String.ofList (withoutTabs result.text) ++ "\n"

end Console
end Storyboard
