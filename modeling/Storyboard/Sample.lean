import Storyboard.CommandLine.Script

/-!
# A sample storyboard

A logo in the middle of the playfield fades in, turns once around itself, and fades out.
-/

namespace Storyboard
namespace Sample

/-- A command that is written at the depth of its sprite. -/
def command (easing : Easing) (start : Int) (effect : Effect) : Command.Built :=
  { command := { start, easing, effect }, depth := 0 }

/-- A scalar property that goes from one number to another. -/
def glide (property : ScalarProperty) (easing : Easing) (start finish : Int) (first last : Number) :
    Board.Step :=
  .issue 0 (command easing start (.scalar property (.change finish first last)))

def logo : Figure :=
  { path := "sb/logo.png"
    origin := .centre
    position := Figure.defaultPosition
    animation := none }

def steps : List Board.Step :=
  [.bundle .foreground,
    .sprite logo,
    glide .fade .quadOut 0 1000 0 1,
    glide .rotate .sineInOut 0 4000 0 6,
    glide .fade .quadIn 3000 4000 1 0,
    .enlist 0 0,
    .place 0]

def board : Board :=
  Board.empty.run steps

def script : Script :=
  .defining [("storyboard", .function (.storyboard board))]

end Sample
end Storyboard
