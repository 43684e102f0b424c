import Storyboard.Decimal.Limit
import Storyboard.Text.Split

/-!
# Whole numbers as they are typed

A whole number may stand between blanks, have a sign, start with zeros, be grouped by single
underscores, and end in a point with zeros.  What is left is a whole number in its shortest writing,
of a limited length.  A minus sign may also follow the zeros.
-/

namespace Storyboard
namespace CommandLine
namespace WholeNumber

def isBlank (c : Char) : Bool :=
  Text.isSpace c && !(0x1C ≤ c.toNat && c.toNat ≤ 0x1F)

/-- Whether there is a minus sign in front of a text, and what follows the sign. -/
def sign : List Char → Bool × List Char
  | '-' :: rest => (true, rest)
  | '+' :: rest => (false, rest)
  | cs => (false, cs)

/--
What follows a zero, without more zeros.  The last of them stays if neither another digit nor a
minus sign comes.
-/
def afterZero (last : Char) : List Char → Option (List Char)
  | [] => some [last]
  | c :: rest =>
      if c = '0' ∨ c = '_' then afterZero c rest
      else if c = '.' then some (last :: c :: rest)
      else if c.isDigit ∨ c = '-' then some (c :: rest)
      else none

/-- A number without zeros in front; nothing if it does not start with a digit. -/
def withoutZeros : List Char → Option (List Char)
  | '0' :: rest => afterZero '0' rest
  | c :: rest => if c.isDigit then some (c :: rest) else none
  | [] => none

/-- A number without its point, if zeros follow that and nothing else. -/
def withoutFraction (cs : List Char) : List Char :=
  let fraction := (cs.dropWhile (· ≠ '.')).drop 1
  if !fraction.isEmpty && fraction.all (· = '0') then cs.takeWhile (· ≠ '.') else cs

/-- A number without the underscores between its groups; none of the groups may be empty. -/
def ungrouped (cs : List Char) : List Char :=
  let groups := Text.splitOn '_' cs
  if groups.all fun group => !group.isEmpty then groups.flatten else cs

/-- The value of digits of which the first is not an idle zero. -/
def digits? (cs : List Char) : Option Nat :=
  match cs with
  | [] => none
  | first :: rest =>
      if first = '0' ∧ rest ≠ [] then none
      else if cs.all Char.isDigit then
        some (cs.foldl (fun value c => 10 * value + (c.toNat - '0'.toNat)) 0)
      else none

/-- Reads a number in its shortest writing. -/
def shortest? (cs : List Char) : Option Int :=
  let (negative, digits) := match cs with
    | '-' :: digits => (true, digits)
    | digits => (false, digits)
  if Decimal.maxDigits < digits.length then none
  else (digits? digits).map fun n => if negative then -(n : Int) else n

def read? (text : String) : Option Int := do
  let (negative, unsigned) := sign (Text.trim isBlank text.toList)
  let number ← withoutZeros unsigned
  let shortest := ungrouped (withoutFraction number)
  shortest? (if negative then '-' :: shortest else shortest)

example : read? " 007 " = some 7 := by decide
example : read? "-05.00" = some (-5) := by decide
example : read? "1_000.0" = some 1000 := by decide
example : read? "0_-5" = some (-5) := by decide
example : read? "1." = none := by decide
example : read? "1.0_0" = none := by decide
example : read? "-_5" = none := by decide

end WholeNumber
end CommandLine
end Storyboard
