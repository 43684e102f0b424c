import Storyboard.Decimal.Basic

/-!
# The shortest decimal that reads back

Many decimals are read as the same binary number.  `shortest` picks one with the fewest significant
digits, of several the one nearest to the number itself, and of two equally near the one that ends
in an even digit.

For each count of digits there are only two decimals to look at, the multiples of the last place
just below and just above the number, because reading is monotone.  The search ends at the latest
where the number itself is such a multiple.
-/

namespace Storyboard
namespace Decimal

/-- Number of decimal digits of a natural number, none for zero. -/
def digitCount (n : Nat) : Nat :=
  if n = 0 then 0 else (Nat.toDigits 10 n).length

/-- The exponent of the leading decimal digit of a positive rational. -/
def leadingPlace (q : Rat) : Int :=
  let whole := q.num.natAbs / q.den
  if whole = 0 then
    -- The reciprocal rounded up is the first natural number that the reciprocal does not exceed.
    let reciprocal := (q.den + q.num.natAbs - 1) / q.num.natAbs
    Int.negOfNat (digitCount (reciprocal - 1))
  else (digitCount whole : Int) - 1

def inUnits (q : Rat) (place : Int) : Rat :=
  q / tenTo place

/-- The multiple of a decimal place nearest to `x` of those that read back, if there are any. -/
def multiple? {f : Binary.Format} (x : Binary f) (magnitude : Rat) (place : Int) : Option Nat :=
  let count := inUnits magnitude place
  let below := count.num.natAbs / count.den
  let readsBack (n : Nat) : Bool := Decimal.toBinary f ⟨x.isNegative, n, place⟩ = x
  match readsBack below, readsBack (below + 1) with
  | true, true => some (nearest count.num.natAbs count.den)
  | true, false => some below
  | false, true => some (below + 1)
  | false, false => none

/-- The first place from the given one downwards of which some multiple reads back as `x`. -/
def search {f : Binary.Format} (x : Binary f) (magnitude : Rat) :
    (steps : Nat) → (place : Int) → Decimal
  | 0, place =>
      let count := inUnits magnitude place
      ⟨x.isNegative, count.num.natAbs / count.den, place⟩
  | steps + 1, place =>
      match multiple? x magnitude place with
      | some n => ⟨x.isNegative, n, place⟩
      | none => search x magnitude steps (place - 1)

/-- The same decimal without a zero at the end of its coefficient. -/
def trimmed (d : Decimal) : Decimal :=
  if d.coefficient % 10 = 0 then
    { d with coefficient := d.coefficient / 10, exponent := d.exponent + 1 }
  else d

/-- The shortest decimal that reads back as a finite number other than zero. -/
def shortest {f : Binary.Format} (x : Binary f) : Decimal :=
  let magnitude := x.value.abs
  let place := leadingPlace magnitude
  -- A denominator of two to the `k` leaves no digit beyond the `k`th place after the point.
  let last : Int := -(magnitude.den.log2 : Int)
  -- Only a coefficient of ten, next to a leading digit of nine, can end in a zero.
  (search x magnitude (place - min last place).toNat place).trimmed

end Decimal
end Storyboard
