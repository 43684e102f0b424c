import Storyboard.Bundle
import Storyboard.Command.Construction
import Storyboard.Sprite.Writing

/-!
# Boards

A board holds everything that a storyboard is made of: the commands with their depths, the sprites,
the bundles, and the bundles that were placed in the storyboard.  All of these are numbered in the
order in which they were made, and refer to each other by number.  So a change to a sprite or to the
depth of a command shows wherever it is used.

A bundle is placed in the section of the layer that it has at that moment.  A sprite takes the layer
that a bundle has when it is put into the bundle.
-/

namespace Storyboard

/-- Commands, sprites and bundles by number, and the placed bundles with their sections. -/
structure Board where
  commands : Array Command
  depths : Depths
  sprites : Array Sprite
  bundles : Array Bundle
  placed : List (Layer × Nat)

namespace Board

def empty : Board :=
  { commands := #[], depths := .empty, sprites := #[], bundles := #[], placed := [] }

/-! ## Making things -/

def newSprite (b : Board) (figure : Figure) : Board :=
  { b with sprites := b.sprites.push (.ofFigure figure) }

def newBundle (b : Board) (layer : Layer) : Board :=
  { b with bundles := b.bundles.push (.empty layer) }

def newCommand (b : Board) (built : Command.Built) : Board :=
  { b with commands := b.commands.push built.command, depths := b.depths.push built.depth }

/-! ## Changing sprites -/

def changeSprite (b : Board) (sprite : Nat) (change : Sprite → Sprite) : Board :=
  { b with sprites := b.sprites.modify sprite change }

def changeBundle (b : Board) (bundle : Nat) (change : Bundle → Bundle) : Board :=
  { b with bundles := b.bundles.modify bundle change }

def cue? (b : Board) (id : Nat) : Option Cue :=
  b.commands[id]?.map fun command => { id, command }

/--
Adds a command of the board to a sprite.  A refusal may leave the span of the sprite widened.
-/
def attach (b : Board) (sprite id : Nat) : Board × Except Error Unit :=
  match b.sprites[sprite]?, b.cue? id with
  | some s, some cue =>
      let result := s.add b.depths cue
      ({ b with sprites := b.sprites.setIfInBounds sprite result.sprite, depths := result.depths },
        match result.refusal with
        | some e => .error e
        | none => .ok ())
  | _, _ => (b, .ok ())

/-- Adds a command to a sprite that is made for this.  A refused command gets no number. -/
def issue (b : Board) (sprite : Nat) (built : Command.Built) : Board × Except Error Unit :=
  match (b.newCommand built).attach sprite b.commands.size with
  | (next, .ok ()) => (next, .ok ())
  | (next, .error e) => ({ b with sprites := next.sprites }, .error e)

def setDepth (b : Board) (id : Nat) (depth : Int) : Except Error Board := do
  return { b with depths := ← b.depths.set id depth }

/-! ## Bundles and sections -/

def enlist (b : Board) (bundle sprite : Nat) : Board :=
  match b.bundles[bundle]? with
  | some found =>
      (b.changeBundle bundle (·.push sprite)).changeSprite sprite (·.onLayer found.layer)
  | none => b

def place (b : Board) (bundle : Nat) : Board :=
  match b.bundles[bundle]? with
  | some found => { b with placed := b.placed ++ [(found.layer, bundle)] }
  | none => b

/-- The bundles in the section of a layer, in the order in which they were placed. -/
def sectionBundles (b : Board) (layer : Layer) : List Nat :=
  (b.placed.filter (·.1 = layer)).map Prod.snd

def bundleSprites (b : Board) (bundle : Nat) : List Nat :=
  (b.bundles[bundle]?.map Bundle.sprites).getD []

/-- The numbers of all sprites of the storyboard, in the order of writing and drawing. -/
def allSprites (b : Board) : List Nat :=
  Layer.all.flatMap fun layer => (b.sectionBundles layer).flatMap b.bundleSprites

/-! ## The text -/

def spriteText (b : Board) (sprite : Nat) : String :=
  (b.sprites[sprite]?.map (Sprite.text b.depths)).getD ""

def bundleText (b : Board) (bundle : Nat) : String :=
  String.join ((b.bundleSprites bundle).map b.spriteText)

def sectionText (b : Board) (layer : Layer) : String :=
  layer.header ++ String.join ((b.sectionBundles layer).map b.bundleText)

def openingText : String := "[Events]\n//Background and Video events\n"

def closingText : String := "//Storyboard Sound Samples\n"

def text (b : Board) : String :=
  openingText ++ String.join (Layer.all.map b.sectionText) ++ closingText

end Board
end Storyboard
