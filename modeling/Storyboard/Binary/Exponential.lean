import Storyboard.Binary.Enclosure

/-!
# Powers of two

`exp2 x` is two to the `x`, correctly rounded.  The integer part of the exponent only moves the
point; the fraction goes through the exponential series.  A power beyond the largest finite number
is refused; one below the smallest is a zero.
-/

namespace Storyboard
namespace Binary

/-- The exponential series from `term` on, in units of two to the `-bits`. -/
def exponentialSeries (bits argument : Nat) : (terms : Nat) → (term n : Nat) → Nat
  | 0, _, _ => 0
  | terms + 1, term, n =>
      if term = 0 then 0
      else
        let next := ((term * argument) >>> bits) / (n + 1)
        term + exponentialSeries bits argument terms next (n + 1)

def fractionalPower (fraction : Rat) (bits : Nat) : Estimate :=
  let argument := (((fraction.num.natAbs <<< bits) / fraction.den) * logTwo bits) >>> bits
  { scaled := exponentialSeries bits argument bits (1 <<< bits) 0, bits }

def Estimate.lowered (estimate : Estimate) (places : Nat) : Estimate :=
  { estimate with bits := estimate.bits + places }

/-- Two to a number that is neither too large nor too small for the format. -/
def exp2Finite (f : Format) (q : Rat) : Binary f :=
  let whole := q.floor
  let fraction := q - (whole : Rat)
  if fraction.num = 0 then round f (scale 1 whole) false
  else
    let places := (-whole).toNat
    let scaled (bits : Nat) := (fractionalPower fraction bits).lowered places
    let power := settle f scaled 6 (128 + places)
    -- Moving the point up is exact.
    if whole ≤ 0 then power else power * round f (scale 1 whole) false

def exp2 {f : Format} : Binary f → Except Failure (Binary f)
  | .nan => .ok .nan
  | .infinite negative => .ok (if negative then zero f false else .infinite false)
  | x@(.finite ..) =>
      let q := x.value
      if ((f.maxExponent + f.precision : Int) : Rat) ≤ q then .error .outOfRange
      else if q < ((f.minExponent - 2 : Int) : Rat) then .ok (zero f false)
      else .ok (exp2Finite f q)

end Binary
end Storyboard
