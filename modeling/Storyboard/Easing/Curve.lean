import Storyboard.Binary.Circular
import Storyboard.Binary.Exponential
import Storyboard.Binary.Root
import Storyboard.Easing.Basic

/-!
# Curves

Every easing is built from a few base curves by running one backwards or by joining one to its
reflection.  A progress of less than `epsilon`, or within `epsilon` of one, is taken for the very
end, on every level of the construction, so that a base curve only ever sees what lies in between.
-/

namespace Storyboard

inductive BaseCurve where
  | linear | quad | cubic | quart | quint | sine | expo | circ | elasticOut | back | bounceOut
deriving DecidableEq, Repr

/-- A curve built from a base curve. -/
inductive Curve where
  | base (b : BaseCurve)
  | reversed (c : Curve)
  /-- The curve up to the middle, then its reflection. -/
  | inOut (c : Curve)
deriving DecidableEq, Repr

def pi : Double := 3.141592653589793

/-- How far a curve of the `back` family goes beyond its start. -/
def overshoot : Double := 1.70158

/-- The gap between one and the next number above it. -/
def epsilon : Double := 2.220446049250313e-16

namespace BaseCurve

/-- A parabola of the bounce, with its vertex at the given place and height. -/
def bounce (vertex height : Double) (x : Double) : Double :=
  let y := x - vertex
  7.5625 * y * y + height

def formula : BaseCurve → Double → Except Binary.Failure Double
  | .linear, x => .ok x
  | .quad, x => .ok (x * x)
  | .cubic, x => .ok (x * x * x)
  | .quart, x => .ok (x * x * x * x)
  | .quint, x => .ok (x * x * x * x * x)
  | .sine, x => do return 1 - (← (x * pi / 2).cos)
  | .expo, x => (10 * (x - 1)).exp2
  | .circ, x => do return 1 - (← (1 - x * x).sqrt)
  | .elasticOut, x => do
      let decay ← (-10 * x).exp2
      return decay * (← ((x - 0.075) * 2 * pi / 0.3).sin) + 1
  | .back, x => .ok (x * x * ((overshoot + 1) * x - overshoot))
  | .bounceOut, x => .ok <|
      if x < 1 / 2.75 then 7.5625 * x * x
      else if x < 2 / 2.75 then bounce (1.5 / 2.75) 0.75 x
      else if x < 2.5 / 2.75 then bounce (2.25 / 2.75) 0.9375 x
      else bounce (2.625 / 2.75) 0.984375 x

end BaseCurve

/-- A function with its ends held at zero and one. -/
def snapped (inside : Double → Except Binary.Failure Double) (x : Double) :
    Except Binary.Failure Double :=
  if x < epsilon then .ok 0
  else if 1 - x < epsilon then .ok 1
  else inside x

namespace Curve

/-- A curve between its ends, for a given meaning of the base curves. -/
def insideWith (base : BaseCurve → Double → Except Binary.Failure Double) :
    Curve → Double → Except Binary.Failure Double
  | .base b, x => base b x
  | .reversed c, x => do return 1 - (← snapped (c.insideWith base) (1 - x))
  | .inOut c, x =>
      if x < 0.5 then do return 0.5 * (← snapped (c.insideWith base) (2 * x))
      else do return 0.5 * (2 - (← snapped (c.insideWith base) (2 - 2 * x)))

/-- A curve at any progress, for a given meaning of the base curves. -/
def evaluateWith (base : BaseCurve → Double → Except Binary.Failure Double) (c : Curve) :
    Double → Except Binary.Failure Double :=
  snapped (c.insideWith base)

def evaluate : Curve → Double → Except Binary.Failure Double :=
  evaluateWith BaseCurve.formula

theorem evaluate_of_lt_epsilon (c : Curve) {x : Double} (h : x < epsilon) :
    c.evaluate x = .ok 0 := by
  simp [evaluate, evaluateWith, snapped, h]

theorem evaluate_of_one_sub_lt_epsilon (c : Curve) {x : Double} (low : ¬ x < epsilon)
    (h : 1 - x < epsilon) : c.evaluate x = .ok 1 := by
  simp [evaluate, evaluateWith, snapped, low, h]

end Curve

namespace Easing

def curve : Easing → Curve
  | .linear => .base .linear
  | .easeIn | .quadIn => .base .quad
  | .easeOut | .quadOut => .reversed (.base .quad)
  | .quadInOut => .inOut (.base .quad)
  | .cubicIn => .base .cubic
  | .cubicOut => .reversed (.base .cubic)
  | .cubicInOut => .inOut (.base .cubic)
  | .quartIn => .base .quart
  | .quartOut => .reversed (.base .quart)
  | .quartInOut => .inOut (.base .quart)
  | .quintIn => .base .quint
  | .quintOut => .reversed (.base .quint)
  | .quintInOut => .inOut (.base .quint)
  | .sineIn => .base .sine
  | .sineOut => .reversed (.base .sine)
  | .sineInOut => .inOut (.base .sine)
  | .expoIn => .base .expo
  | .expoOut => .reversed (.base .expo)
  | .expoInOut => .inOut (.base .expo)
  | .circIn => .base .circ
  | .circOut => .reversed (.base .circ)
  | .circInOut => .inOut (.base .circ)
  | .elasticIn => .reversed (.base .elasticOut)
  | .elasticOut | .elasticHalfOut | .elasticQuarterOut => .base .elasticOut
  | .elasticInOut => .inOut (.reversed (.base .elasticOut))
  | .backIn => .base .back
  | .backOut => .reversed (.base .back)
  | .backInOut => .inOut (.base .back)
  | .bounceIn => .reversed (.base .bounceOut)
  | .bounceOut => .base .bounceOut
  | .bounceInOut => .inOut (.reversed (.base .bounceOut))

/-- Equal easings have the same curve. -/
theorem curve_canonical (e : Easing) : e.canonical.curve = e.curve := by
  cases e <;> rfl

/-- The curve at a progress of zero at the start and one at the end. -/
def calculate (e : Easing) (x : Double) : Except Binary.Failure Double :=
  e.curve.evaluate x

def calculateInt (e : Easing) (n : Int) : Except Binary.Failure Double :=
  if n ≤ 0 then .ok 0 else do e.calculate (← Binary.ofInt .double n)

/--
The value at a time of a command with this easing, between two times and from the lower to the
higher of two values; nothing outside those times, or if the values are the wrong way round.
-/
def ease (e : Easing) (time start finish : Int) (low high : Double) :
    Except Binary.Failure (Option Double) := do
  if time < start ∨ finish < time ∨ high < low then return none
  if finish = start then return some high
  let progress := Binary.quotient .double (time - start) (finish - start)
  return some ((← e.calculate progress) * (high - low) + low)

end Easing
end Storyboard
