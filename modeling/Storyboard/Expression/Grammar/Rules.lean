import Storyboard.Expression.Grammar.Operator

/-!
# The rules together

The rules of the grammar refer to each other.  They are tied together here, to any depth that the
tokens of a text can need.
-/

namespace Storyboard
namespace Expression
namespace Grammar

open Parse

def parser (rules : Rules) : Rule → Parse Expr
  | .expression => expression rules
  | .starExpression => starExpression rules
  | .misplacedAssignment => misplacedAssignment rules
  | .disjunction => operation rules ["or"] .conjunction
  | .conjunction => operation rules ["and"] .inversion
  | .inversion => inversion rules
  | .bitOr => operation rules ["|"] .bitXor
  | .bitXor => operation rules ["^"] .bitAnd
  | .bitAnd => operation rules ["&"] .shift
  | .shift => operation rules ["<<", ">>"] .sum
  | .sum => joined rules ["+", "-"] .term .sum
  | .term => operation rules ["*", "/", "//", "%", "@"] .factor
  | .factor => factor rules
  | .awaited => awaited rules
  | .primary => primary rules
  | .texts => texts
  | .arguments => arguments rules
  | .target => target rules
  | .plainTarget => plainTarget rules
  | .targetPrimary => targetPrimary rules

/-- The parsers of all rules, which call each other at most `depth` times before one ends. -/
def rules : Nat → Rules
  | 0 => fun _ => missing
  | depth + 1 => fun rule => remembered rule (parser (rules depth) rule)

/-- The most rules that call each other before another token is read. -/
def rulesPerToken : Nat := 32

def rulesFor (tokens : Array Token) : Rules :=
  rules (rulesPerToken * (tokens.size + 1))

/-- A whole text: an expression or a tuple without brackets, and then line ends only. -/
def wholeText (rules : Rules) : Parse Expr := do
  let found ← bareTuple (rules .expression)
  let _ ← many (exactly .newline)
  exactly .finish
  return found

end Grammar
end Expression
end Storyboard
