import Storyboard.Binary.Rounding

/-!
# Arithmetic and comparison

The result of an operation on finite numbers is the exact rational result, rounded once.  What is
left to say is what happens to infinities, to the absent number and to the sign of a zero.

Comparisons are those of numbers, not of representations: the two zeros are equal, and the absent
number is neither equal to, below nor above anything.
-/

namespace Storyboard
namespace Binary

variable {f : Format}

/-! ## Operations -/

def neg : Binary f → Binary f
  | .nan => .nan
  | .infinite negative => .infinite (!negative)
  | .finite negative significand exponent canonical =>
      .finite (!negative) significand exponent canonical

/-- The sum; infinities of different signs have none, and only two negative zeros add up to one. -/
def add : Binary f → Binary f → Binary f
  | .nan, _ | _, .nan => .nan
  | .infinite s, .infinite t => if s = t then .infinite s else .nan
  | .infinite s, .finite .. => .infinite s
  | .finite .., .infinite t => .infinite t
  | x@(.finite s _ _ _), y@(.finite t _ _ _) => round f (x.value + y.value) (s && t)

def sub (x y : Binary f) : Binary f :=
  add x (neg y)

def isZero : Binary f → Bool
  | .finite _ significand _ _ => significand = 0
  | _ => false

/-- The product; an infinity times zero has none. -/
def mul : Binary f → Binary f → Binary f
  | .nan, _ | _, .nan => .nan
  | .infinite s, y => if y.isZero then .nan else .infinite (s ^^ y.isNegative)
  | x, .infinite t => if x.isZero then .nan else .infinite (x.isNegative ^^ t)
  | x@(.finite s _ _ _), y@(.finite t _ _ _) => round f (x.value * y.value) (s ^^ t)

/-- The quotient; a zero divided by a zero has none, nor an infinity by an infinity. -/
def div : Binary f → Binary f → Binary f
  | .nan, _ | _, .nan => .nan
  | .infinite _, .infinite _ => .nan
  | .infinite s, .finite t _ _ _ => .infinite (s ^^ t)
  | .finite s _ _ _, .infinite t => zero f (s ^^ t)
  | x@(.finite s _ _ _), y@(.finite t _ _ _) =>
      if y.isZero then (if x.isZero then .nan else .infinite (s ^^ t))
      else round f (x.value / y.value) (s ^^ t)

instance : Neg (Binary f) := ⟨neg⟩
instance : Add (Binary f) := ⟨add⟩
instance : Sub (Binary f) := ⟨sub⟩
instance : Mul (Binary f) := ⟨mul⟩
instance : Div (Binary f) := ⟨div⟩

/-! ## Comparisons -/

def below : Binary f → Binary f → Bool
  | .nan, _ | _, .nan => false
  | .infinite s, .infinite t => s && !t
  | .infinite s, .finite .. => s
  | .finite .., .infinite t => !t
  | x@(.finite ..), y@(.finite ..) => x.value < y.value

def equals : Binary f → Binary f → Bool
  | .nan, _ | _, .nan => false
  | .infinite s, .infinite t => s = t
  | .infinite _, .finite .. | .finite .., .infinite _ => false
  | x@(.finite ..), y@(.finite ..) => x.value = y.value

instance : LT (Binary f) := ⟨fun x y => x.below y = true⟩

instance : DecidableLT (Binary f) := fun x y => inferInstanceAs (Decidable (x.below y = true))

theorem lt_iff_below (x y : Binary f) : x < y ↔ x.below y = true :=
  Iff.rfl

@[simp] theorem not_nan_lt (x : Binary f) : ¬ .nan < x := by
  simp [lt_iff_below, below]

@[simp] theorem not_lt_nan (x : Binary f) : ¬ x < .nan := by
  cases x <;> simp [lt_iff_below, below]

theorem add_comm (x y : Binary f) : x + y = y + x := by
  show add x y = add y x
  cases x <;> cases y <;> simp only [add]
  case infinite.infinite s t =>
    by_cases h : s = t
    · simp [h]
    · simp [h, Ne.symm h]
  case finite.finite =>
    rw [Rat.add_comm, Bool.and_comm]

end Binary
end Storyboard
