import Storyboard.Layer

/-!
# Bundles

A bundle is a list of sprites that belong together and are drawn on one layer.  Sprites are referred
to by number, because a sprite may be in several bundles.
-/

namespace Storyboard

structure Bundle where
  layer : Layer
  sprites : List Nat
deriving DecidableEq

namespace Bundle

def empty (layer : Layer) : Bundle := ⟨layer, []⟩

def push (b : Bundle) (sprite : Nat) : Bundle :=
  { b with sprites := b.sprites ++ [sprite] }

def onLayer (b : Bundle) (layer : Layer) : Bundle :=
  { b with layer }

end Bundle
end Storyboard
