import Storyboard.Text.Range
import Storyboard.Text.Unprintable

/-!
# Quoted texts

Messages show a text between single quotes, or between double quotes if it holds a single quote and
no double one.  Inside, the quote in use, the backslash and everything unprintable is escaped.
-/

namespace Storyboard
namespace Text

/-- The digits of a code in base sixteen, padded with zeros to a width. -/
def hexCode (width : Nat) (code : Nat) : List Char :=
  let ds := Nat.toDigits 16 code
  List.replicate (width - ds.length) '0' ++ ds

/-- A character as it stands between quotes of the given kind. -/
def escaped (quote c : Char) : List Char :=
  if c = quote ∨ c = '\\' then ['\\', c]
  else if c = '\n' then ['\\', 'n']
  else if c = '\t' then ['\\', 't']
  else if c = '\r' then ['\\', 'r']
  else if inRanges unprintableRanges c then
    if c.toNat < 0x100 then '\\' :: 'x' :: hexCode 2 c.toNat
    else if c.toNat < 0x10000 then '\\' :: 'u' :: hexCode 4 c.toNat
    else '\\' :: 'U' :: hexCode 8 c.toNat
  else [c]

/-- The quote that a text is put between. -/
def quoteOf (cs : List Char) : Char :=
  if '\'' ∈ cs ∧ '"' ∉ cs then '"' else '\''

def quoted (text : String) : String :=
  let quote := quoteOf text.toList
  String.ofList (quote :: text.toList.flatMap (escaped quote) ++ [quote])

end Text
end Storyboard
