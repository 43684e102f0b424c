import Storyboard.Command.Basic
import Storyboard.Easing.Curve

/-!
# The value of a command at a time

Before and after its times a command holds the value at its nearer end, exactly as it was given.  In
between, the easing of the elapsed part of the time tells how far the value has moved, in double
precision.  Vectors and colors move component by component and are then rounded to what their
components can hold.
-/

namespace Storyboard

inductive Moment (α : Type) where
  | at (value : α)
  | between (first last : α) (progress : Double)

/-- A single number at some time: as it was given, or in double precision on the way. -/
inductive Level where
  | number (n : Number)
  | double (x : Double)

inductive Sample where
  | level (l : Level)
  | vec2 (v : Vec2)
  | color (c : Color)

/-- The point a part of the way from one number to another. -/
def lerp (first last progress : Double) : Double :=
  first + (last - first) * progress

def Action.moment {α : Type} (start : Int) (easing : Easing) (time : Int) :
    Action α → Except Binary.Failure (Moment α)
  | .hold value _ => .ok (.at value)
  | .change finish first last =>
      if finish ≤ start then .ok (.at (if start ≤ time then last else first))
      else if time ≤ start then .ok (.at first)
      else if finish ≤ time then .ok (.at last)
      else do
        let elapsed := Binary.quotient .double (time - start) (finish - start)
        return .between first last (← easing.calculate elapsed)

/-!
## Values on the way

What lies between two values is found in double precision.  A single number is left there, the
components of a vector are brought to single precision, and those of a color to whole channels.
-/

namespace Level

def toDouble : Level → Except Binary.Failure Double
  | .number n => n.toDouble
  | .double x => .ok x

/-- A level as a component of a vector. -/
def toNumber : Level → Number
  | .number n => n
  | .double x => .ofDouble x

def ofMoment : Moment Number → Except Binary.Failure Level
  | .at n => .ok (.number n)
  | .between first last progress => do
      let a ← first.toDouble
      let b ← last.toDouble
      return .double (lerp a b progress)

end Level

def Vec2.ofMoment : Moment Vec2 → Except Binary.Failure Vec2
  | .at v => .ok v
  | .between first last progress => do
      let x := lerp (← first.x.toDouble) (← last.x.toDouble) progress
      let y := lerp (← first.y.toDouble) (← last.y.toDouble) progress
      return .ofDoubles x y

namespace Color

def channelBetween (first last : Fin 256) (progress : Double) : Except Binary.Failure Int := do
  let a ← Binary.ofInt .double (first : Nat)
  let b ← Binary.ofInt .double (last : Nat)
  (lerp a b progress).roundToInt

def ofMoment : Moment Color → Except Binary.Failure Color
  | .at c => .ok c
  | .between first last progress => do
      return ofInts (← channelBetween first.red last.red progress)
        (← channelBetween first.green last.green progress)
        (← channelBetween first.blue last.blue progress)

end Color

/-- The value of a command at a time; flags have none. -/
def Command.sample (c : Command) (time : Int) : Except Binary.Failure (Option Sample) :=
  match c.effect with
  | .scalar _ action => do
      return some (.level (← Level.ofMoment (← action.moment c.start c.easing time)))
  | .vector _ action => do
      return some (.vec2 (← Vec2.ofMoment (← action.moment c.start c.easing time)))
  | .color action => do
      return some (.color (← Color.ofMoment (← action.moment c.start c.easing time)))
  | .flag _ _ => .ok none

namespace Sample

def level? : Sample → Option Level
  | .level l => some l
  | _ => none

def vec2? : Sample → Option Vec2
  | .vec2 v => some v
  | _ => none

def color? : Sample → Option Color
  | .color c => some c
  | _ => none

end Sample
end Storyboard
