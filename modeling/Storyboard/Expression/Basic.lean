import Storyboard.Expression.Numeral

/-!
# Expressions

An expression is kept as far as its value or a message may depend on it: the values of constants,
the items of tuples, sets and dictionaries, and the kind of anything else.
-/

namespace Storyboard
namespace Expression

inductive Constant where
  | none
  | true
  | false
  | ellipsis
  | numeral (numeral : Numeral)
  | text
  | bytes
deriving DecidableEq, Repr

mutual

inductive Expr where
  | constant (value : Constant)
  | name (text : List Char)
  | tuple (items : List Expr)
  | set (items : List Expr)
  | dictionary (entries : List Entry)
  | call (function : Expr) (hasArguments : Bool)
  | signed (operand : Expr)
  | sum (left right : Expr)
  /-- Any other expression with an operator. -/
  | operation
  | comparison (left : Expr) (isMembership : Bool)
  | starred (value : Expr)
  | attribute
  | conditional
  | lambda
  | named
  | generator
  | setComprehension
  | dictionaryComprehension
  | formatted
  | yielded
  | awaited

inductive Entry where
  | pair (key value : Expr)
  /-- All entries of another dictionary. -/
  | merged (mapping : Expr)

end

instance : Inhabited Expr := ⟨.operation⟩

def Constant.kindName : Constant → String
  | .none => "None"
  | .true => "True"
  | .false => "False"
  | .ellipsis => "ellipsis"
  | .numeral _ | .text | .bytes => "literal"

def Expr.kindName : Expr → String
  | .constant value => value.kindName
  | .name _ => "name"
  | .tuple _ => "tuple"
  | .set _ => "set display"
  | .dictionary _ => "dict literal"
  | .call _ _ => "function call"
  | .signed _ | .sum _ _ | .operation => "expression"
  | .comparison _ _ => "comparison"
  | .starred _ => "starred"
  | .attribute => "attribute"
  | .conditional => "conditional expression"
  | .lambda => "lambda"
  | .named => "named expression"
  | .generator => "generator expression"
  | .setComprehension => "set comprehension"
  | .dictionaryComprehension => "dict comprehension"
  | .formatted => "f-string expression"
  | .yielded => "yield expression"
  | .awaited => "await expression"

/-! ## Targets -/

mutual

/-- The first part of an expression that a loop cannot assign to. -/
def Expr.invalidTarget? : Expr → Option Expr
  | .tuple items => firstInvalidTarget? items
  | .starred value => value.invalidTarget?
  | .comparison left isMembership => if isMembership then left.invalidTarget? else none
  | .name _ | .attribute => none
  | other => some other

def firstInvalidTarget? : List Expr → Option Expr
  | [] => none
  | item :: rest =>
      match item.invalidTarget? with
      | some part => some part
      | none => firstInvalidTarget? rest

end

/-- Names that once started a statement of their own. -/
def formerStatements : List String :=
  ["print", "exec"]

def Expr.isFormerStatement : Expr → Bool
  | .name text => String.ofList text ∈ formerStatements
  | _ => false

end Expression
end Storyboard
