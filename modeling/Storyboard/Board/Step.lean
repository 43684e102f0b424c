import Storyboard.Board.Basic

/-!
# Runs of a board

A storyboard comes about step by step.  A step may be refused; the board then is as the step left
it, and the run goes on.
-/

namespace Storyboard
namespace Board

inductive Step where
  | sprite (figure : Figure)
  | bundle (layer : Layer)
  /-- Makes a command, without adding it to a sprite. -/
  | command (built : Command.Built)
  /-- Makes a command and adds it to a sprite. -/
  | issue (sprite : Nat) (built : Command.Built)
  | attach (sprite id : Nat)
  | depth (id : Nat) (depth : Int)
  /-- Changes the depth at which commands are added to a sprite. -/
  | currentDepth (sprite : Nat) (depth : Int)
  | spriteLayer (sprite : Nat) (layer : Layer)
  | bundleLayer (bundle : Nat) (layer : Layer)
  | enlist (bundle sprite : Nat)
  | place (bundle : Nat)

/-- The board after a step, and why the step was refused, if it was. -/
def perform (b : Board) : Step → Board × Except Error Unit
  | .sprite figure => (b.newSprite figure, .ok ())
  | .bundle layer => (b.newBundle layer, .ok ())
  | .command built => (b.newCommand built, .ok ())
  | .issue sprite built => b.issue sprite built
  | .attach sprite id => b.attach sprite id
  | .depth id depth =>
      match b.setDepth id depth with
      | .ok next => (next, .ok ())
      | .error e => (b, .error e)
  | .currentDepth sprite depth => (b.changeSprite sprite (·.atDepth depth), .ok ())
  | .spriteLayer sprite layer => (b.changeSprite sprite (·.onLayer layer), .ok ())
  | .bundleLayer bundle layer => (b.changeBundle bundle (·.onLayer layer), .ok ())
  | .enlist bundle sprite => (b.enlist bundle sprite, .ok ())
  | .place bundle => (b.place bundle, .ok ())

def run (b : Board) (steps : List Step) : Board :=
  steps.foldl (fun b step => (b.perform step).1) b

@[simp] theorem run_nil (b : Board) : b.run [] = b :=
  rfl

theorem run_cons (b : Board) (step : Step) (steps : List Step) :
    b.run (step :: steps) = (b.perform step).1.run steps :=
  rfl

theorem run_append (b : Board) (first last : List Step) :
    b.run (first ++ last) = (b.run first).run last := by
  simp [run, List.foldl_append]

end Board
end Storyboard
