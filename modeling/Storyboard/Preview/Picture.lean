import Storyboard.Binary.Format

/-!
# Pictures

A picture is described by what is drawn, in order, on a canvas of one color.  Pictures may be laid
over one another or added up.
-/

namespace Storyboard

structure Paint where
  red : Nat
  green : Nat
  blue : Nat
  alpha : Nat
deriving DecidableEq

structure Point where
  x : Double
  y : Double
deriving DecidableEq

mutual

inductive Picture where
  | canvas (width height : Nat) (fill : Paint) (strokes : List Stroke)

inductive Stroke where
  /-- An opaque line between two points given in whole pixels. -/
  | line (x₀ y₀ x₁ y₁ : Nat) (color : Paint)
  | polygon (corners : List Point) (fill outline : Paint)
  | ellipse (corner opposite : Point) (fill : Paint)
  /-- Another picture on top, as far as that one is opaque. -/
  | over (picture : Picture)
  /-- Another picture whose colors are added. -/
  | add (picture : Picture)
  /-- The picture loses its opacity. -/
  | flatten

end

end Storyboard
