import Storyboard.Number

/-!
# Vectors of the plane

Positions and scales are pairs of numbers.  Each component stays an integer or a single-precision
number on its own.
-/

namespace Storyboard

/-- A pair of numbers. -/
structure Vec2 where
  x : Number
  y : Number
deriving DecidableEq

namespace Vec2

/-- The vector of the nearest single-precision numbers. -/
def ofDoubles (x y : Double) : Vec2 :=
  ⟨.ofDouble x, .ofDouble y⟩

def add (v w : Vec2) : Except Binary.Failure Vec2 := do
  return ⟨← v.x.add w.x, ← v.y.add w.y⟩

def sub (v w : Vec2) : Except Binary.Failure Vec2 := do
  return ⟨← v.x.sub w.x, ← v.y.sub w.y⟩

def neg (v : Vec2) : Vec2 :=
  ⟨v.x.neg, v.y.neg⟩

def equals (v w : Vec2) : Bool :=
  v.x.equals w.x && v.y.equals w.y

def display (v : Vec2) : String :=
  s!"Vec2(x={v.x.display}, y={v.y.display})"

end Vec2
end Storyboard
