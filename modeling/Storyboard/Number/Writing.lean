import Storyboard.Decimal.Limit
import Storyboard.Error

/-!
# Writing numbers

A sum may be an integer that is too long to be written.  Here a single number has its text only if
it can be written; `Number.text` and `Number.display` are the texts themselves.  Those are what the
lines of commands are made of: a storyboard is written in full for integers of any length.
-/

namespace Storyboard

def Number.isWritable : Number → Bool
  | .int n => Decimal.isWritable n
  | .float _ => true

/-- The text of a number in a command line, if it can be written. -/
def Number.written (n : Number) : Except Error String :=
  if n.isWritable then .ok n.text else .error .integerTooLong

/-- The text of a number in messages, if it can be written. -/
def Number.shown (n : Number) : Except Error String :=
  if n.isWritable then .ok n.display else .error .integerTooLong

/-- The text of a vector in messages, if its components can be written. -/
def Vec2.shown (v : Vec2) : Except Error String :=
  if v.x.isWritable && v.y.isWritable then .ok v.display else .error .integerTooLong

end Storyboard
