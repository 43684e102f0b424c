import Storyboard.Binary.Format

/-!
# Rounding a rational to a binary format

`round` takes an exact rational to the nearest number of a format, a value halfway between two
neighbours to the one with an even significand, and a value beyond the largest number to an
infinity.  All arithmetic of this library is an exact computation on rationals followed by one
rounding, so this module is the only place where precision is lost.
-/

namespace Storyboard

/-- The natural number nearest to `n / d`, of two the even one. -/
def nearest (n d : Nat) : Nat :=
  let twice := 2 * (n % d)
  if twice < d then n / d
  else if d < twice then n / d + 1
  else n / d + (n / d) % 2

namespace Binary

/-- The exponent of the leading bit of `n / d`, for positive `n` and `d`. -/
def leadingExponent (n d : Nat) : Int :=
  let estimate : Int := (n.log2 : Int) - (d.log2 : Int)
  if d <<< estimate.toNat ≤ n <<< (-estimate).toNat then estimate else estimate - 1

/-- The exponent of the last place in which a format writes magnitudes like `n / d`. -/
def Format.unitExponent (f : Format) (n d : Nat) : Int :=
  max f.minExponent (leadingExponent n d - ((f.precision : Int) - 1))

/-- The finite number with these parts, or an infinity if they are out of range. -/
def pack (f : Format) (negative : Bool) (significand : Nat) (exponent : Int) : Binary f :=
  if canonical : f.Canonical significand exponent then
    .finite negative significand exponent canonical
  else
    .infinite negative

/-- The number of a given sign whose magnitude is nearest to `n / d`. -/
def ofFraction (f : Format) (negative : Bool) (n d : Nat) : Binary f :=
  if n = 0 then
    zero f negative
  else
    let exponent := f.unitExponent n d
    let significand := nearest (n <<< (-exponent).toNat) (d <<< exponent.toNat)
    -- Rounding up may need one bit more; the significand is then a power of two.
    if significand = f.limit then pack f negative f.leading (exponent + 1)
    else pack f negative significand exponent

/--
The number nearest to a rational, of two the one with the even significand.  A rational has no
negative zero, so the sign that an exact zero gets is given beside it.
-/
def round (f : Format) (q : Rat) (zeroNegative : Bool) : Binary f :=
  ofFraction f (if q.num = 0 then zeroNegative else decide (q.num < 0)) q.num.natAbs q.den

/-- The number of another format nearest to a number. -/
def convert {f : Format} (g : Format) : Binary f → Binary g
  | .nan => .nan
  | .infinite negative => .infinite negative
  | x@(.finite negative _ _ _) => round g x.value negative

theorem round_zero (f : Format) (zeroNegative : Bool) :
    round f 0 zeroNegative = zero f zeroNegative :=
  rfl

instance (f : Format) (n : Nat) : OfNat (Binary f) n := ⟨round f (n : Rat) false⟩

instance (f : Format) : OfScientific (Binary f) where
  ofScientific mantissa exponentNegative exponent :=
    let power := Nat.pow 10 exponent
    if exponentNegative then round f (mkRat mantissa power) false
    else round f ((mantissa * power : Nat) : Rat) false

end Binary
end Storyboard
