import Storyboard.Binary.Integer
import Storyboard.Decimal.Style

/-!
# Numbers of a storyboard

A number remembers whether it was written as an integer or with a fraction.  Integers have any
size; everything else is single precision.  Arithmetic stays among the integers as long as both
sides are integers.  Otherwise it is done in double precision and rounded once more to single.
-/

namespace Storyboard

/-- An integer or a single-precision number. -/
inductive Number where
  | int (n : Int)
  | float (x : Single)
deriving DecidableEq

namespace Number

def ofDouble (x : Double) : Number :=
  .float (x.convert .single)

/-- The double-precision number nearest to a number; a very large integer has none. -/
def toDouble : Number → Except Binary.Failure Double
  | .int n => Binary.ofInt .double n
  | .float x => .ok (x.convert .double)

def isInt : Number → Bool
  | .int _ => true
  | .float _ => false

/-- Applies an operation to two integers, or to two numbers of which one is no integer. -/
def combine (ints : Int → Int → Int) (doubles : Double → Double → Double) :
    Number → Number → Except Binary.Failure Number
  | .int m, .int n => .ok (.int (ints m n))
  | x, y => do
      let a ← x.toDouble
      let b ← y.toDouble
      return ofDouble (doubles a b)

/-!
## Arithmetic and comparison

An operation fails only when an integer beyond double precision meets a number that is no integer.
-/

def add : Number → Number → Except Binary.Failure Number :=
  combine (· + ·) (· + ·)

def sub : Number → Number → Except Binary.Failure Number :=
  combine (· - ·) (· - ·)

def neg : Number → Number
  | .int n => .int (-n)
  | .float x => .float (-x)

/-- Numeric equality; an integer never equals a number with a fraction, not even a whole one. -/
def equals : Number → Number → Bool
  | .int m, .int n => m = n
  | .float x, .float y => x.equals y
  | _, _ => false

def truncate : Number → Except Binary.Failure Int
  | .int n => .ok n
  | .float x => x.truncate

/-- The nearest integer, of two the even one. -/
def roundToInt : Number → Except Binary.Failure Int
  | .int n => .ok n
  | .float x => x.roundToInt

/-! ## Writing -/

def text : Number → String
  | .int n => toString n
  | .float x => x.text .command

def display : Number → String
  | .int n => s!"Number.Int({n})"
  | .float x =>
      let shown := (x.convert Binary.Format.double).text .answer
      s!"Number.Float({shown})"

instance (n : Nat) : OfNat Number n := ⟨.int n⟩

@[simp] theorem add_int (m n : Int) : add (.int m) (.int n) = .ok (.int (m + n)) :=
  rfl

@[simp] theorem sub_int (m n : Int) : sub (.int m) (.int n) = .ok (.int (m - n)) :=
  rfl

end Number
end Storyboard
