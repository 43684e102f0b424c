import Storyboard.Decimal.Style
import Storyboard.Preview.Picture

/-!
# Listings of pictures

A picture can be written as text, one line for each stroke.  The strokes of a picture are indented
by two spaces more than the line that opens it.
-/

namespace Storyboard

def Point.listing (p : Point) : String :=
  p.x.text .answer ++ "," ++ p.y.text .answer

def Paint.listing (p : Paint) : String :=
  s!"rgba({p.red},{p.green},{p.blue},{p.alpha})"

def indented (depth : Nat) (line : String) : String :=
  String.ofList (List.replicate (2 * depth) ' ') ++ line

mutual

def Picture.listing (depth : Nat) : Picture → List String
  | .canvas width height fill strokes =>
      indented depth s!"canvas {width}x{height} {fill.listing}" :: listingOf (depth + 1) strokes

def Stroke.listing (depth : Nat) : Stroke → List String
  | .line x₀ y₀ x₁ y₁ color => [indented depth s!"line {x₀},{y₀} {x₁},{y₁} {color.listing}"]
  | .polygon corners fill outline =>
      let shown := String.intercalate " " (corners.map Point.listing)
      [indented depth s!"polygon {shown} {fill.listing} {outline.listing}"]
  | .ellipse corner opposite fill =>
      [indented depth s!"ellipse {corner.listing} {opposite.listing} {fill.listing}"]
  | .over picture => indented depth "over" :: picture.listing (depth + 1)
  | .add picture => indented depth "add" :: picture.listing (depth + 1)
  | .flatten => [indented depth "flatten"]

def listingOf (depth : Nat) : List Stroke → List String
  | [] => []
  | stroke :: rest => stroke.listing depth ++ listingOf depth rest

end

def Picture.text (picture : Picture) : String :=
  String.join ((picture.listing 0).map (· ++ "\n"))

end Storyboard
