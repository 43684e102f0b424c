import Storyboard.Expression.Fault
import Storyboard.Expression.Value
import Storyboard.Text.Quoted

/-!
# Why a line cannot be printed

A line with tags cannot be printed if a tag closes what is not open, if a color has a component
without digits, or if the arguments of an action are not written as constant values.
-/

namespace Storyboard
namespace Console

inductive Failure where
  | nothingToClose (position : Nat)
  | notOpen (tag : String) (position : Nat)
  | numberMissing
  | numberTooLong (digits : Nat)
  | actionExpression (arguments parameters : String) (fault : Expression.Fault)
  | actionValue (parameters : String) (fault : Expression.ValueFault)
deriving DecidableEq, Repr

def Failure.message : Failure → String
  | .nothingToClose position => s!"closing tag '[/]' at position {position} has nothing to close"
  | .notOpen tag position =>
      s!"closing tag '{tag}' at position {position} doesn't match any open tag"
  | .numberMissing => "invalid literal for int() with base 10: ''"
  | .numberTooLong digits => Decimal.tooManyDigitsMessage digits
  | .actionExpression arguments parameters fault =>
      "error parsing " ++ Text.quoted arguments ++ " in " ++ Text.quoted parameters ++ "; " ++
        fault.message
  | .actionValue parameters fault =>
      "error parsing " ++ Text.quoted parameters ++ "; " ++ fault.message

end Console
end Storyboard
