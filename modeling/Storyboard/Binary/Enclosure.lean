import Storyboard.Binary.Integer

/-!
# Rounding a number that is known up to an error

A transcendental value is never known exactly, but it can be enclosed between two rationals as
close together as one likes.  Once both ends of an enclosure round to the same number of a format,
that number is the correctly rounded value.

An estimate is an integer with a given number of fractional bits, off by less than `slack` units
of its last place.  `settle` asks for estimates with more and more bits until one decides the
rounding.
-/

namespace Storyboard
namespace Binary

/-- A value that lies less than `slack` units from `scaled`, in units of two to the `-bits`. -/
structure Estimate where
  scaled : Int
  bits : Nat

namespace Estimate

/-- Units by which an estimate may be off. -/
def slack : Int := 65536

def shifted (e : Estimate) (offset : Int) : Rat :=
  mkRat (e.scaled + offset) (1 <<< e.bits)

/-- The nearest number of a format, if both ends of the estimate agree on it. -/
def decided? (f : Format) (e : Estimate) : Option (Binary f) :=
  let low := round f (e.shifted (-slack)) false
  if low = round f (e.shifted slack) false then some low else none

end Estimate

/--
The number of a format nearest to a value of which `estimate` gives better and better estimates.
The number of bits is doubled at most `attempts` times; the last estimate is then taken as exact.
-/
def settle (f : Format) (estimate : Nat → Estimate) : (attempts : Nat) → (bits : Nat) → Binary f
  | 0, bits => round f ((estimate bits).shifted 0) false
  | attempts + 1, bits =>
      match (estimate bits).decided? f with
      | some x => x
      | none => settle f estimate attempts (2 * bits)

/-- The sum of `power / n + sign * (power / divisor) / (n + 2) + …`, in whole units. -/
def inverseSeries (sign : Int) (divisor : Nat) : (terms : Nat) → (power n : Nat) → Int
  | 0, _, _ => 0
  | terms + 1, power, n =>
      if power = 0 then 0
      else (power / n : Nat) + sign * inverseSeries sign divisor terms (power / divisor) (n + 2)

/-- Half of the circle constant, in units of two to the `-bits`. -/
def halfPi (bits : Nat) : Nat :=
  let guarded := bits + 32
  let arcTangent (k : Nat) := inverseSeries (-1) (k * k) guarded ((1 <<< guarded) / k) 1
  (8 * arcTangent 5 - 2 * arcTangent 239).toNat >>> 32

/-- The natural logarithm of two, in units of two to the `-bits`. -/
def logTwo (bits : Nat) : Nat :=
  let guarded := bits + 32
  (2 * inverseSeries 1 9 guarded ((1 <<< guarded) / 3) 1).toNat >>> 32

end Binary
end Storyboard
