import Storyboard.Expression.Grammar.Atom
import Storyboard.Expression.Grammar.Lambda

/-!
# Operators

Operators bind more or less tightly: a sum is made of products, a comparison of sums, and so on up
to the choice between two expressions.
-/

namespace Storyboard
namespace Expression
namespace Grammar

open Parse

variable (rules : Rules)

/-! ## Arithmetic -/

def power : Parse Expr := do
  let base ← rules .awaited
  let exponent ← attempt do
    symbol "**"
    rules .factor
  return if exponent.isSome then .operation else base

def factor : Parse Expr :=
  first [
    do
      let _ ← oneOf ["+", "-"]
      return .signed (← rules .factor),
    do
      symbol "~"
      let _ ← rules .factor
      return .operation,
    power rules]

def awaited : Parse Expr :=
  first [
    do
      symbol "await"
      let _ ← rules .primary
      return .awaited,
    rules .primary]

/-- Operands of one rule with some operators between them, joined from the left. -/
def joined (operators : List String) (operand : Rule) (join : Expr → Expr → Expr) :
    Parse Expr := do
  let head ← rules operand
  let rest ← many do
    let _ ← oneOf operators
    rules operand
  return rest.foldl join head

/-- Operands of one rule with some operators between them. -/
def operation (operators : List String) (operand : Rule) : Parse Expr :=
  joined rules operators operand fun _ _ => .operation

/-! ## Truth -/

/-- An operator that compares, and what follows it; whether it asks for an item. -/
def compared : Parse Bool := do
  let isMembership ← first [
    do
      let _ ← oneOf ["==", "!=", "<=", "<", ">=", ">"]
      return false,
    do
      symbol "not"
      symbol "in"
      return false,
    do
      symbol "in"
      return true,
    do
      symbol "is"
      let _ ← attempt (symbol "not")
      return false]
  let _ ← rules .bitOr
  return isMembership

def comparison : Parse Expr := do
  let left ← rules .bitOr
  match ← many (compared rules) with
  | isMembership :: _ => return .comparison left isMembership
  | [] => return left

def inversion : Parse Expr :=
  first [
    do
      symbol "not"
      let _ ← rules .inversion
      return .operation,
    comparison rules]

/-! ## Expressions -/

def conditional : Parse Expr := do
  let _ ← rules .disjunction
  symbol "if"
  let _ ← rules .disjunction
  symbol "else"
  let _ ← rules .expression
  return .conditional

/-- An expression, without the explanations of mistakes at its end. -/
def plainExpression : Parse Expr :=
  first [conditional rules, rules .disjunction, lambda rules]

/-- A name that may have a meaning of its own at the start of a line. -/
def softKeyword : Parse Unit := do
  if !isSoftKeyword (← name) then missing

def explainExpression : Parse Unit :=
  explain [
    do
      notAhead (first [
        do
          let _ ← name
          let _ ← text,
        softKeyword])
      let found ← rules .disjunction
      let _ ← withoutExplanations (plainExpression rules)
      if found.isFormerStatement || (← depth) = 0 then return none
      return some .commaMissing,
    do
      let _ ← rules .disjunction
      symbol "if"
      let _ ← rules .disjunction
      notAhead (first [symbol "else", symbol ":"])
      return some .elseMissing]

/-- The mistake of a call without parentheses. -/
def explainFormerStatement : Parse Unit :=
  explain [do
    let function ← name
    notAhead (symbol "(")
    let _ ← starExpressions rules
    return if (Expr.name function).isFormerStatement then
      some (.callWithoutParentheses (String.ofList function)) else none]

def expression : Parse Expr := do
  explainExpression rules
  explainFormerStatement rules
  plainExpression rules

def starExpression : Parse Expr :=
  first [
    do
      symbol "*"
      return .starred (← rules .bitOr),
    rules .expression]

/-- Mistaken assignments; nothing is found. -/
def misplacedAssignment : Parse Expr :=
  explainMissing [
    do
      let found ← rules .expression
      symbol ":="
      let _ ← rules .expression
      return some (.assignmentTo found.kindName),
    do
      let _ ← name
      symbol "="
      let _ ← rules .bitOr
      notAhead (first [symbol "=", symbol ":="])
      return some .equalsMeant,
    do
      notAhead (first [tuple rules, generator rules, constant])
      let found ← rules .bitOr
      symbol "="
      let _ ← rules .bitOr
      notAhead (first [symbol "=", symbol ":="])
      return some (.notAssignableHere found.kindName)]

end Grammar
end Expression
end Storyboard
