/-!
# Binary formats and their numbers

A binary format fixes how many bits a significand may have and how far the exponent of its last
place may go.  A number of the format is a signed significand at such an exponent, an infinity, or
not a number at all.

Every finite number has exactly one representation here: its significand is as long as the format
allows unless the exponent already is the least one.  So two numbers are the same bits exactly when
they are equal as data, and `value` reads a finite number as the exact rational that it stands for.
-/

namespace Storyboard
namespace Binary

/-- Length of a significand and range of the exponent of its last place. -/
structure Format where
  /-- Number of bits of a full significand. -/
  precision : Nat
  /-- Exponent of the last place of the smallest numbers. -/
  minExponent : Int
  /-- Exponent of the last place of the largest numbers. -/
  maxExponent : Int
  precision_pos : 0 < precision := by decide
  minExponent_le : minExponent ≤ maxExponent := by decide

namespace Format

def single : Format := { precision := 24, minExponent := -149, maxExponent := 104 }

def double : Format := { precision := 53, minExponent := -1074, maxExponent := 971 }

/-- First natural number too long to be a significand. -/
def limit (f : Format) : Nat := 1 <<< f.precision

def leading (f : Format) : Nat := 1 <<< (f.precision - 1)

/--
A significand and an exponent are canonical when both are in range and the significand is full,
unless the exponent is the least one.
-/
def Canonical (f : Format) (significand : Nat) (exponent : Int) : Prop :=
  significand < f.limit ∧ f.minExponent ≤ exponent ∧ exponent ≤ f.maxExponent ∧
    (f.leading ≤ significand ∨ exponent = f.minExponent)

instance (f : Format) (significand : Nat) (exponent : Int) :
    Decidable (f.Canonical significand exponent) := by
  unfold Canonical
  infer_instance

theorem limit_pos (f : Format) : 0 < f.limit := by
  rw [limit, Nat.one_shiftLeft]
  exact Nat.two_pow_pos f.precision

theorem canonical_zero (f : Format) : f.Canonical 0 f.minExponent :=
  ⟨f.limit_pos, Int.le_refl _, f.minExponent_le, Or.inr rfl⟩

end Format
end Binary

inductive Binary (f : Binary.Format) where
  /-- Not a number; it has no sign. -/
  | nan
  | infinite (negative : Bool)
  /-- The significand, signed, times two to the exponent. -/
  | finite (negative : Bool) (significand : Nat) (exponent : Int)
      (canonical : f.Canonical significand exponent)
deriving DecidableEq

abbrev Single := Binary .single

abbrev Double := Binary .double

namespace Binary

/-- The rational `n` times two to the `e`. -/
def scale (n : Int) (e : Int) : Rat :=
  mkRat (n * ((1 <<< e.toNat : Nat) : Int)) (1 <<< (-e).toNat)

variable {f : Format}

def zero (f : Format) (negative : Bool) : Binary f :=
  .finite negative 0 f.minExponent f.canonical_zero

instance : Inhabited (Binary f) := ⟨zero f false⟩

/-- The exact rational that a finite number stands for; zero for the others. -/
def value : Binary f → Rat
  | .finite negative significand exponent _ =>
      scale (if negative then -(significand : Int) else significand) exponent
  | _ => 0

def isFinite : Binary f → Bool
  | .finite .. => true
  | _ => false

/-- Whether a number carries a minus sign; a zero may. -/
def isNegative : Binary f → Bool
  | .finite negative _ _ _ | .infinite negative => negative
  | .nan => false

end Binary
end Storyboard
