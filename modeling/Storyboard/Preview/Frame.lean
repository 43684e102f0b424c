import Storyboard.Board.Basic
import Storyboard.Preview.Outline

/-!
# Frames

A frame shows the storyboard at one time.  Over a black playfield, with a grid if wanted, every
visible sprite is drawn in the order of the text: its outline filled with its color, and a dot at
its position.  Each sprite is drawn on a picture of its own first, so that its opacity blends with
what lies below.
-/

namespace Storyboard

/-!
## The playfield

All lengths are in pixels of the playfield.
-/

def playfieldWidth : Nat := 640

def playfieldHeight : Nat := 480

def gridStep : Nat := 80

def blackPaint : Paint := ⟨0, 0, 0, 255⟩
def clearPaint : Paint := ⟨0, 0, 0, 0⟩
def gridPaint : Paint := ⟨40, 40, 40, 255⟩

def dotRadius : Double := 2

def playfield (fill : Paint) (strokes : List Stroke) : Picture :=
  .canvas playfieldWidth playfieldHeight fill strokes

def gridPlaces (length : Nat) : List Nat :=
  (List.range (length / gridStep + 1)).map (· * gridStep)

/-- The vertical lines of the grid, then the horizontal ones. -/
def gridLines : List Stroke :=
  (gridPlaces playfieldWidth).map (fun x => .line x 0 x playfieldHeight gridPaint) ++
    (gridPlaces playfieldHeight).map (fun y => .line 0 y playfieldWidth y gridPaint)

/-!
## Sprites

A sprite without a state, or with one in which it cannot be seen, leaves no stroke.
-/

/-- A number brought into the range from zero to one. -/
def clampUnit (x : Double) : Double :=
  let upper := if x < 1 then x else 1
  if 0 < upper then upper else 0

/-- The outline and the dot of a sprite in a state. -/
def spriteStrokes (origin : Origin) (state : SpriteState) :
    Except Binary.Failure (List Stroke) := do
  let alpha := (← (clampUnit state.opacity * 255).roundToInt).toNat
  let corners ← origin.outline state
  let centre ← state.point
  let outline : Paint := ⟨255, 255, 255, alpha⟩
  let fill : Paint := ⟨state.color.red, state.color.green, state.color.blue, alpha⟩
  return [.polygon corners fill outline,
    .ellipse ⟨centre.x - dotRadius, centre.y - dotRadius⟩
      ⟨centre.x + dotRadius, centre.y + dotRadius⟩ outline]

/-- How a sprite in a state goes on the frame; an additive one is laid over black and added. -/
def compose (state : SpriteState) (strokes : List Stroke) : Stroke :=
  let overlay := playfield clearPaint strokes
  if state.additive then .add (playfield blackPaint [.over overlay]) else .over overlay

/-- What a sprite adds to the frame of a time; nothing if it is not to be seen. -/
def Sprite.strokesAt (depths : Depths) (s : Sprite) (time : Int) :
    Except Binary.Failure (List Stroke) := do
  match ← s.stateAt depths time with
  | some state =>
      if state.isVisible then return [compose state (← spriteStrokes s.origin state)]
      else return []
  | none => return []

def Board.frame (b : Board) (time : Int) (grid : Bool) : Except Binary.Failure Picture := do
  let sprites := b.allSprites.filterMap fun i => b.sprites[i]?
  let strokes ← sprites.mapM fun s => s.strokesAt b.depths time
  let background := if grid then gridLines else []
  return playfield blackPaint (background ++ strokes.flatten ++ [.flatten])

end Storyboard
