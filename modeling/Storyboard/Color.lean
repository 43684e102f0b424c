import Storyboard.Number

/-!
# Colors

A color has three channels from 0 to 255.  Values outside that range are brought to the nearer end
of it instead of being refused.
-/

namespace Storyboard

structure Color where
  red : Fin 256
  green : Fin 256
  blue : Fin 256
deriving DecidableEq

namespace Color

def channel (n : Int) : Fin 256 :=
  ⟨min n.toNat 255, by omega⟩

def ofInts (r g b : Int) : Color :=
  ⟨channel r, channel g, channel b⟩

/-- The color with the channels nearest to three numbers, each rounded first. -/
def ofNumbers (r g b : Number) : Except Binary.Failure Color := do
  return ofInts (← r.roundToInt) (← g.roundToInt) (← b.roundToInt)

def channels (c : Color) : List Nat :=
  [c.red, c.green, c.blue]

def display (c : Color) : String :=
  s!"Color(r={c.red}, g={c.green}, b={c.blue})"

/-! ## Colors with a name -/

def black : Color := ofInts 0 0 0
def white : Color := ofInts 255 255 255
def pureRed : Color := ofInts 255 0 0
def pureGreen : Color := ofInts 0 255 0
def pureBlue : Color := ofInts 0 0 255

def named : List (String × Color) :=
  [("black", black), ("white", white), ("red", pureRed), ("green", pureGreen), ("blue", pureBlue)]

theorem channel_of_mem (n : Int) (low : 0 ≤ n) (high : n ≤ 255) :
    ((channel n : Nat) : Int) = n := by
  simp only [channel]
  omega

theorem channel_of_neg (n : Int) (h : n ≤ 0) : channel n = 0 := by
  have : n.toNat = 0 := by omega
  simp [channel, this]

end Color
end Storyboard
