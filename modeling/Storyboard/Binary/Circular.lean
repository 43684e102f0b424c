import Storyboard.Binary.Enclosure

/-!
# Sine and cosine

The argument is reduced by a multiple of a quarter turn, taken with as many bits as the argument
has before the point, and the remaining angle is put through the alternating power series.  Both
functions are correctly rounded.  They have no value at an infinity.
-/

namespace Storyboard
namespace Binary

/--
The alternating series whose terms, from `term` on, are multiplied by `square` and divided by the
next two naturals after `n`, in units of two to the `-bits`.
-/
def alternatingSeries (bits square : Nat) : (terms : Nat) → (term n : Nat) → Int
  | 0, _, _ => 0
  | terms + 1, term, n =>
      if term = 0 then 0
      else
        let next := ((term * square) >>> bits) / ((n + 1) * (n + 2))
        (term : Int) - alternatingSeries bits square terms next (n + 2)

/-- An angle as a number of quarter turns and a rest in units of two to the `-bits`. -/
structure Angle where
  quarters : Nat
  rest : Nat

def Angle.ofRadians (bits : Nat) (radians : Rat) : Angle :=
  let whole := (radians.num.natAbs / radians.den).log2 + 1
  let turned := (radians.num.natAbs <<< (bits + whole)) / radians.den
  let quarter := halfPi (bits + whole)
  { quarters := turned / quarter, rest := (turned % quarter) >>> whole }

/-- The sine of an angle that lies some more quarter turns ahead. -/
def Angle.sine (bits : Nat) (angle : Angle) (ahead : Nat) : Estimate :=
  let square := (angle.rest * angle.rest) >>> bits
  let sine := alternatingSeries bits square bits angle.rest 1
  let cosine := alternatingSeries bits square bits (1 <<< bits) 0
  let scaled :=
    match (angle.quarters + ahead) % 4 with
    | 0 => sine
    | 1 => cosine
    | 2 => -sine
    | _ => -cosine
  { scaled, bits }

/-- Bits with which the first estimate is made: enough for the leading bits of a tiny angle. -/
def firstBits (radians : Rat) : Nat :=
  128 + radians.den.log2

def sin {f : Format} : Binary f → Except Failure (Binary f)
  | .nan => .ok .nan
  | .infinite _ => .error .outOfDomain
  | x@(.finite negative significand _ _) =>
      if significand = 0 then .ok x
      else
        let radians := x.value.abs
        let magnitude :=
          settle f (fun bits => (Angle.ofRadians bits radians).sine bits 0) 6 (firstBits radians)
        .ok (if negative then -magnitude else magnitude)

def cos {f : Format} : Binary f → Except Failure (Binary f)
  | .nan => .ok .nan
  | .infinite _ => .error .outOfDomain
  | x@(.finite _ significand _ _) =>
      if significand = 0 then .ok 1
      else
        let radians := x.value.abs
        let sine (bits : Nat) := (Angle.ofRadians bits radians).sine bits 1
        .ok (settle f sine 6 (firstBits radians))

end Binary
end Storyboard
