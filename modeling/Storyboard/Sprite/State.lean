import Storyboard.Sprite.Writing
import Storyboard.Command.Sampling

/-!
# The state of a sprite at a time

Of every kind one command decides the value at a time.  That is the one that is active and started
last; if none is active, the one that finished last; and before the first command the first one.  Of
several, the one that was added last decides, but before the first command the one added first.

A sprite has a state only within the span of its commands.
-/

namespace Storyboard

/-- The last of the items with the greatest key. -/
def lastMaxBy {α : Type} (key : α → Int) : List α → Option α
  | [] => none
  | a :: rest =>
      match lastMaxBy key rest with
      | some b => if key b < key a then some a else some b
      | none => some a

/-- The first of the items with the least key. -/
def firstMinBy {α : Type} (key : α → Int) : List α → Option α
  | [] => none
  | a :: rest =>
      match firstMinBy key rest with
      | some b => if key b < key a then some b else some a
      | none => some a

structure SpriteState where
  time : Int
  position : Vec2
  opacity : Double
  rotation : Double
  scale : Vec2
  color : Color
  hflip : Bool
  vflip : Bool
  additive : Bool

def Number.isZero : Number → Bool
  | .int n => n = 0
  | .float x => x.isZero

def SpriteState.isVisible (state : SpriteState) : Bool :=
  (0 : Double) < state.opacity && !state.scale.x.isZero && !state.scale.y.isZero

namespace Sprite

/-! ## The command that decides -/

def governing (depths : Depths) (s : Sprite) (kind : Kind) (time : Int) : Option Cue :=
  match (s.timeline kind).get time with
  | [] =>
      let events := s.events depths kind
      match events.filter fun cue => cue.command.high ≤ time with
      | [] => firstMinBy (·.command.low) events
      | finished => lastMaxBy (·.command.high) finished
  | active => lastMaxBy (·.command.low) active

def sample (depths : Depths) (s : Sprite) (kind : Kind) (time : Int) :
    Except Binary.Failure (Option Sample) :=
  match s.governing depths kind time with
  | some cue => cue.command.sample time
  | none => .ok none

def level (depths : Depths) (s : Sprite) (property : ScalarProperty) (time : Int) :
    Except Binary.Failure (Option Level) := do
  return (← s.sample depths (.scalar property) time).bind Sample.level?

def vector (depths : Depths) (s : Sprite) (property : VectorProperty) (time : Int) :
    Except Binary.Failure (Option Vec2) := do
  return (← s.sample depths (.vector property) time).bind Sample.vec2?

def tint (depths : Depths) (s : Sprite) (time : Int) : Except Binary.Failure (Option Color) := do
  return (← s.sample depths .color time).bind Sample.color?

def isOn (s : Sprite) (flag : Flag) (time : Int) : Bool :=
  !((s.timeline (.flag flag)).get time).isEmpty

/-! ## The values of a state -/

/-- The position at a time: a moved sprite's, with the axes that are moved on their own. -/
def positionAt (depths : Depths) (s : Sprite) (time : Int) : Except Binary.Failure Vec2 := do
  let both := (← s.vector depths .move time).getD s.position
  let x ← s.level depths .moveX time
  let y ← s.level depths .moveY time
  return ⟨(x.map Level.toNumber).getD both.x, (y.map Level.toNumber).getD both.y⟩

/-- A scalar property in double precision, with the value it has by default. -/
def doubleAt (depths : Depths) (s : Sprite) (property : ScalarProperty) (default : Double)
    (time : Int) : Except Binary.Failure Double := do
  match ← s.level depths property time with
  | some level => level.toDouble
  | none => return default

/-- The scale at a time, the product of the uniform scale and the scale along the axes. -/
def scaleAt (depths : Depths) (s : Sprite) (time : Int) : Except Binary.Failure Vec2 := do
  let factor ← s.doubleAt depths .scale 1 time
  let axes := (← s.vector depths .scaleVec time).getD ⟨1, 1⟩
  return .ofDoubles ((← axes.x.toDouble) * factor) ((← axes.y.toDouble) * factor)

def stateAt (depths : Depths) (s : Sprite) (time : Int) :
    Except Binary.Failure (Option SpriteState) :=
  match s.span with
  | none => .ok none
  | some span =>
      if span.first ≤ time ∧ time ≤ span.last then do
        return some
          { time
            position := ← s.positionAt depths time
            opacity := ← s.doubleAt depths .fade 1 time
            rotation := ← s.doubleAt depths .rotate 0 time
            scale := ← s.scaleAt depths time
            color := (← s.tint depths time).getD .white
            hflip := s.isOn .hflip time
            vflip := s.isOn .vflip time
            additive := s.isOn .additive time }
      else .ok none

end Sprite
end Storyboard
