import Storyboard.Binary.Rounding

/-!
# Origins

The origin of a sprite is the point of its image that lies at the sprite's position: one of nine,
in three rows and three columns.
-/

namespace Storyboard

inductive Origin where
  | topLeft | topCentre | topRight
  | centreLeft | centre | centreRight
  | bottomLeft | bottomCentre | bottomRight
deriving DecidableEq, Repr

namespace Origin

def all : List Origin :=
  [.topLeft, .topCentre, .topRight, .centreLeft, .centre, .centreRight,
    .bottomLeft, .bottomCentre, .bottomRight]

def text : Origin → String
  | .topLeft => "TopLeft"
  | .topCentre => "TopCentre"
  | .topRight => "TopRight"
  | .centreLeft => "CentreLeft"
  | .centre => "Centre"
  | .centreRight => "CentreRight"
  | .bottomLeft => "BottomLeft"
  | .bottomCentre => "BottomCentre"
  | .bottomRight => "BottomRight"

def name : Origin → String
  | .topLeft => "TOP_LEFT"
  | .topCentre => "TOP_CENTRE"
  | .topRight => "TOP_RIGHT"
  | .centreLeft => "CENTRE_LEFT"
  | .centre => "CENTRE"
  | .centreRight => "CENTRE_RIGHT"
  | .bottomLeft => "BOTTOM_LEFT"
  | .bottomCentre => "BOTTOM_CENTRE"
  | .bottomRight => "BOTTOM_RIGHT"

def ofName? (s : String) : Option Origin :=
  all.find? (·.name = s)

/-- How far to the right the origin lies, as a part of the width. -/
def column : Origin → Double
  | .topLeft | .centreLeft | .bottomLeft => 0
  | .topCentre | .centre | .bottomCentre => 0.5
  | .topRight | .centreRight | .bottomRight => 1

/-- How far down the origin lies, as a part of the height. -/
def row : Origin → Double
  | .topLeft | .topCentre | .topRight => 0
  | .centreLeft | .centre | .centreRight => 0.5
  | .bottomLeft | .bottomCentre | .bottomRight => 1

theorem mem_all (o : Origin) : o ∈ all := by
  cases o <;> decide

end Origin
end Storyboard
