import Storyboard.Binary.Arithmetic

/-!
# Integers and binary numbers

Integers here have any size.  Taking one to a binary format can fail, and so can taking a binary
number to an integer; `Failure` lists the ways in which arithmetic may have no result.
-/

namespace Storyboard
namespace Binary

inductive Failure where
  | integerTooLarge
  | infinityToInteger
  | nanToInteger
  | outOfDomain
  | outOfRange
deriving DecidableEq, Repr

def Failure.message : Failure → String
  | .integerTooLarge => "int too large to convert to float"
  | .infinityToInteger => "cannot convert float infinity to integer"
  | .nanToInteger => "cannot convert float NaN to integer"
  | .outOfDomain => "math domain error"
  | .outOfRange => "(34, 'Numerical result out of range')"

/-- The number of a format nearest to an integer, which must be finite. -/
def ofInt (f : Format) (n : Int) : Except Failure (Binary f) :=
  let x := round f (n : Rat) false
  if x.isFinite then .ok x else .error .integerTooLarge

/-- The quotient of two integers, rounded once; the divisor is not zero. -/
def quotient (f : Format) (n d : Int) : Binary f :=
  round f ((n : Rat) / (d : Rat)) false

variable {f : Format}

/-- The integer nearest to a rational, of two the even one. -/
def nearestInt (q : Rat) : Int :=
  let magnitude : Int := nearest q.num.natAbs q.den
  if q.num < 0 then -magnitude else magnitude

def toIntWith (rounding : Rat → Int) : Binary f → Except Failure Int
  | .nan => .error .nanToInteger
  | .infinite _ => .error .infinityToInteger
  | x@(.finite ..) => .ok (rounding x.value)

/-- The nearest integer, of two the even one. -/
def roundToInt : Binary f → Except Failure Int :=
  toIntWith nearestInt

/-- The integer part; the fraction is dropped. -/
def truncate : Binary f → Except Failure Int :=
  toIntWith fun q => q.num.tdiv q.den

end Binary
end Storyboard
