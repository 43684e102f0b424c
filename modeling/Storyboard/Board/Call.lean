import Storyboard.Board.Step

/-!
# Asking a sprite for a command

A sprite is asked to add a command that exists, or to make one from arguments and add it.  The
request may be refused at several points: a value may be no command, arguments may describe none,
and a command may not be added.
-/

namespace Storyboard
namespace Board

inductive Call where
  /-- A new command of a kind, which is described by arguments. -/
  | new (kind : Kind) (args : List Argument)
  | given (id : Nat)
  | other (value : Argument)

/-- The board after a sprite was asked to add something, and why it was refused, if it was. -/
def call (b : Board) (sprite : Nat) : Call → Board × Except Error Unit
  | .new kind args =>
      match Command.ofArguments kind args with
      | .ok built => b.issue sprite built
      | .error e => (b, .error e)
  | .given id => b.attach sprite id
  | .other value => (b, .error (.notACommand value.typeName))

end Board
end Storyboard
