/-!
# Layers

A storyboard is drawn in five layers, from the background to the overlay.  The file has one section
per layer, in that order, each opened by a comment line.
-/

namespace Storyboard

inductive Layer where
  | background | fail | pass | foreground | overlay
deriving DecidableEq, Repr

namespace Layer

/-- The layers in the order in which they are written and drawn. -/
def all : List Layer := [.background, .fail, .pass, .foreground, .overlay]

def text : Layer → String
  | .background => "Background"
  | .fail => "Fail"
  | .pass => "Pass"
  | .foreground => "Foreground"
  | .overlay => "Overlay"

def name : Layer → String
  | .background => "BACKGROUND"
  | .fail => "FAIL"
  | .pass => "PASS"
  | .foreground => "FOREGROUND"
  | .overlay => "OVERLAY"

def index : Layer → Nat
  | .background => 0
  | .fail => 1
  | .pass => 2
  | .foreground => 3
  | .overlay => 4

def ofName? (s : String) : Option Layer :=
  all.find? (·.name = s)

def header (l : Layer) : String :=
  s!"//Storyboard Layer {l.index} ({l.text})\n"

theorem mem_all (l : Layer) : l ∈ all := by
  cases l <;> decide

theorem all_getElem?_index (l : Layer) : all[l.index]? = some l := by
  cases l <;> rfl

end Layer
end Storyboard
