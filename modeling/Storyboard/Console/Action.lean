import Storyboard.Console.Failure
import Storyboard.Expression.Reading
import Storyboard.Text.Alphanumeric
import Storyboard.Text.Split

/-!
# Actions of tags

A tag may name an action, with its arguments in parentheses.  The arguments are an expression that
has to stand for a constant value.  Parameters that are no name with arguments are an expression as
a whole.
-/

namespace Storyboard
namespace Console

/-- The arguments among the parameters of an action: what stands in parentheses behind its name. -/
def actionArguments (parameters : List Char) : List Char :=
  let parentheses := parameters.dropWhile fun c => Text.isWordChar c || c = '.'
  if parentheses.isEmpty then "()".toList
  else if parentheses.head? = some '(' ∧ parentheses.getLast? = some ')' ∧ '\n' ∉ parentheses then
    parentheses
  else parameters

def checkAction (parameters : List Char) : Except Failure Unit :=
  let arguments := actionArguments (Text.trim Text.isSpace parameters)
  match Expression.read arguments with
  | .error fault =>
      .error (.actionExpression (String.ofList arguments) (String.ofList parameters) fault)
  | .ok expression =>
      match expression.value with
      | .error fault => .error (.actionValue (String.ofList parameters) fault)
      | .ok _ => .ok ()

end Console
end Storyboard
