import Storyboard.Binary.Integer

/-!
# Square roots

The root of a finite number is found exactly: an integer square root with more bits than any
significand, and one further bit that says whether anything is left over.  A negative number has no
root, but a negative zero is its own.
-/

namespace Storyboard
namespace Binary

/--
Of a root of which `root` is known to be a lower bound, the remaining bits, from the given one
downwards.
-/
def rootBits (n : Nat) : (bits : Nat) → (root : Nat) → Nat
  | 0, root => root
  | bits + 1, root =>
      let larger := root + (1 <<< bits)
      rootBits n bits (if larger * larger ≤ n then larger else root)

/-- The largest natural number whose square is at most `n`. -/
def integerRoot (n : Nat) : Nat :=
  rootBits n (n.log2 / 2 + 1) 0

/-- The root of `significand` times two to the `exponent`, rounded once. -/
def rootOf (f : Format) (significand : Nat) (exponent : Int) : Binary f :=
  -- An even exponent, low enough to leave two bits below every significand.
  let half := (exponent - 2 * (f.precision + 2)).fdiv 2
  let n := significand <<< (exponent - 2 * half).toNat
  let root := integerRoot n
  let sticky := if root * root = n then 0 else 1
  round f (scale ((2 * root + sticky : Nat) : Int) (half - 1)) false

def sqrt {f : Format} : Binary f → Except Failure (Binary f)
  | .nan => .ok .nan
  | .infinite negative => if negative then .error .outOfDomain else .ok (.infinite false)
  | x@(.finite negative significand exponent _) =>
      if significand = 0 then .ok x
      else if negative then .error .outOfDomain
      else .ok (rootOf f significand exponent)

end Binary
end Storyboard
