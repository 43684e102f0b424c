import Storyboard.Binary.Rounding

/-!
# Decimal numbers

A decimal is a signed coefficient times a power of ten.  It stands for an exact rational; reading
it as a binary number rounds that rational once, however many digits the decimal has.
-/

namespace Storyboard

/-- A signed natural number times a power of ten. -/
structure Decimal where
  negative : Bool
  coefficient : Nat
  exponent : Int
deriving DecidableEq, Repr

namespace Decimal

def tenTo (e : Int) : Rat :=
  mkRat ((Nat.pow 10 e.toNat : Nat) : Int) (Nat.pow 10 (-e).toNat)

def magnitude (d : Decimal) : Rat :=
  (d.coefficient : Rat) * tenTo d.exponent

def value (d : Decimal) : Rat :=
  if d.negative then -d.magnitude else d.magnitude

/--
The binary number nearest to a decimal, of two the one with the even significand.  Decimals far
beyond either end of the format are recognised by their exponents alone.
-/
def toBinary (f : Binary.Format) (d : Decimal) : Binary f :=
  if d.coefficient = 0 then
    .zero f d.negative
  else if f.maxExponent + f.precision ≤ d.exponent then
    .infinite d.negative
  else if (d.coefficient.log2 : Int) + 1 + 3 * d.exponent < f.minExponent - 1 then
    .zero f d.negative
  else
    .ofFraction f d.negative d.magnitude.num.natAbs d.magnitude.den

/-! ## Reading -/

/-- The longest run of digits at the start, and what follows it. -/
def splitDigits (cs : List Char) : List Char × List Char :=
  (cs.takeWhile Char.isDigit, cs.dropWhile Char.isDigit)

/-- A leading sign, and what follows it. -/
def splitSign : List Char → Bool × List Char
  | '-' :: rest => (true, rest)
  | '+' :: rest => (false, rest)
  | cs => (false, cs)

/-- The exponent that ends a decimal; nothing counts as zero. -/
def readExponent? : List Char → Option Int
  | [] => some 0
  | c :: rest =>
      let (negative, digits) := splitSign rest
      if (c = 'e' ∨ c = 'E') ∧ digits ≠ [] ∧ digits.all Char.isDigit then
        let size : Int := Nat.ofDigitChars 10 digits 0
        some (if negative then -size else size)
      else none

/-- Reads an optional sign, digits that may hold a point, and an optional exponent. -/
def ofChars? (cs : List Char) : Option Decimal :=
  let (negative, unsigned) := splitSign cs
  let (whole, afterWhole) := splitDigits unsigned
  let (fraction, afterFraction) :=
    match afterWhole with
    | '.' :: rest => splitDigits rest
    | rest => ([], rest)
  if whole = [] ∧ fraction = [] then none
  else
    (readExponent? afterFraction).map fun exponent =>
      { negative
        coefficient := Nat.ofDigitChars 10 (whole ++ fraction) 0
        exponent := exponent - fraction.length }

end Decimal

/-- Reads a decimal, an infinity or the absent number as the nearest number of a format. -/
def Binary.ofText? (f : Binary.Format) (text : String) : Option (Binary f) :=
  if text = "nan" then some .nan
  else if text = "inf" then some (.infinite false)
  else if text = "-inf" then some (.infinite true)
  else (Decimal.ofChars? text.toList).map (Decimal.toBinary f)

end Storyboard
