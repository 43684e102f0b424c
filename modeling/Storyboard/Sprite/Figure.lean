import Storyboard.Argument.Reading

/-!
# Figures

A figure is what is shown of a sprite before anything happens to it: an image, or several that an
animation runs through, with an origin and a position.
-/

namespace Storyboard

/-- What an animation adds to an image. -/
structure Animation where
  frameCount : Nat
  frameDelay : Number
  loopType : LoopType
  frameCount_pos : 0 < frameCount

structure Figure where
  path : String
  origin : Origin
  position : Vec2
  animation : Option Animation

namespace Figure

/-- The position of figures for which none is given: the middle of the playfield. -/
def defaultPosition : Vec2 := ⟨320, 240⟩

/--
The origin and the position of a figure.  A position may be given in the place of the origin, which
is then the centre, but not in both places.
-/
def readPlace (origin position : Option Argument) : Except Error (Origin × Vec2) :=
  let place (given : Argument) : Except Error (Origin × Vec2) := do
    if position.isSome then throw .positionTwice
    return (.centre, ← given.toVec2)
  match origin with
  | some (.vec2 v) => place (.vec2 v)
  | some (.tuple items) => place (.tuple items)
  | some (.origin o) => do return (o, ← position.elim (.ok defaultPosition) Argument.toVec2)
  | none => do return (.centre, ← position.elim (.ok defaultPosition) Argument.toVec2)
  | some other => .error (.notAnOrigin other)

def image (path : String) (origin position : Option Argument) : Except Error Figure := do
  let (origin, position) ← readPlace origin position
  return { path, origin, position, animation := none }

/--
An animation of at least one frame.  Every argument for the loop type other than the type that plays
once leads to the one that starts over.
-/
def animated (path : String) (frameCount : Int) (frameDelay : Argument)
    (loopType origin position : Option Argument) : Except Error Figure :=
  if h : frameCount < 1 then .error (.noFrames frameCount)
  else do
    let (origin, position) ← readPlace origin position
    let frameDelay ← frameDelay.toNumber
    let loopType :=
      match loopType with
      | some (.loopType .once) => LoopType.once
      | _ => LoopType.forever
    let animation : Animation :=
      { frameCount := frameCount.toNat, frameDelay, loopType, frameCount_pos := by omega }
    return { path, origin, position, animation := some animation }

end Figure
end Storyboard
