import Storyboard.Binary.Circular
import Storyboard.Preview.Picture
import Storyboard.Sprite.State

/-!
# The outline of a sprite

In a preview a sprite is shown as a square around which nothing is known of the image: its corners
are scaled, flipped and turned about the origin, which lies at the position.  Positive angles turn
clockwise, because the vertical axis points down.
-/

namespace Storyboard

/-- The side of an unscaled sprite, in pixels. -/
def spriteSide : Double := 48

/-- The corners of the unit square, clockwise from the top left. -/
def unitSquare : List Point := [⟨0, 0⟩, ⟨1, 0⟩, ⟨1, 1⟩, ⟨0, 1⟩]

/-- A factor with the other sign if the axis is flipped. -/
def flipped (isFlipped : Bool) (factor : Double) : Double :=
  factor * if isFlipped then -1 else 1

def SpriteState.point (state : SpriteState) : Except Binary.Failure Point := do
  return ⟨← state.position.x.toDouble, ← state.position.y.toDouble⟩

/-- The corners of a sprite in a state, clockwise from the top left of its image. -/
def Origin.outline (origin : Origin) (state : SpriteState) :
    Except Binary.Failure (List Point) := do
  let scaleX := flipped state.hflip (← state.scale.x.toDouble)
  let scaleY := flipped state.vflip (← state.scale.y.toDouble)
  let cosine ← state.rotation.cos
  let sine ← state.rotation.sin
  let centre ← state.point
  return unitSquare.map fun corner =>
    let x := (corner.x - origin.column) * spriteSide * scaleX
    let y := (corner.y - origin.row) * spriteSide * scaleY
    ⟨centre.x + x * cosine - y * sine, centre.y + x * sine + y * cosine⟩

end Storyboard
