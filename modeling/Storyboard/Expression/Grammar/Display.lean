import Storyboard.Expression.Parse

/-!
# Displays

Tuples, sets and dictionaries are written with their items between brackets.  In place of the items
there may be a loop that makes them.
-/

namespace Storyboard
namespace Expression
namespace Grammar

open Parse

variable (rules : Rules)

/-! ## Items -/

def assignment : Parse Expr := do
  let _ ← name
  symbol ":="
  let _ ← rules .expression
  return .named

def namedExpression : Parse Expr :=
  first [
    assignment rules,
    do
      explain [do
        let _ ← rules .misplacedAssignment
        return none]
      let found ← rules .expression
      notAhead (symbol ":=")
      return found]

/-- An item that may get a name, without the explanations of mistaken names. -/
def generatedItem : Parse Expr :=
  first [
    assignment rules,
    do
      let found ← rules .expression
      notAhead (symbol ":=")
      return found]

def starredExpression : Parse Expr :=
  first [
    do
      symbol "*"
      return .starred (← rules .expression),
    mistaken [do
      symbol "*"
      return some .starAlone]]

def item : Parse Expr :=
  first [
    do
      symbol "*"
      return .starred (← rules .bitOr),
    namedExpression rules]

def items : Parse (List Expr) := do
  let found ← separated (item rules)
  let _ ← attempt (symbol ",")
  return found

/-- A tuple without brackets, or a single expression. -/
def bareTuple (p : Parse Expr) : Parse Expr := do
  let head ← p
  let rest ← many do
    symbol ","
    p
  let comma ← attempt (symbol ",")
  return if rest.isEmpty && comma.isNone then head else .tuple (head :: rest)

def starExpressions : Parse Expr :=
  bareTuple (rules .starExpression)

/-- A value that a function hands out. -/
def yielded : Parse Expr :=
  first [
    do
      symbol "yield"
      symbol "from"
      let _ ← rules .expression
      return .yielded,
    do
      symbol "yield"
      let _ ← attempt (starExpressions rules)
      return .yielded]

/-! ## Loops -/

def targets : Parse Unit := do
  let _ ← rules .target
  let _ ← many do
    symbol ","
    rules .target
  let _ ← attempt (symbol ",")

def tupleTargets : Parse Unit := do
  let _ ← rules .target
  let rest ← many do
    symbol ","
    rules .target
  if rest.isEmpty then symbol ","
  else
    let _ ← attempt (symbol ",")

/-- A target in brackets or a name. -/
def targetAtom : Parse Expr :=
  first [
    do return .name (← name),
    do
      symbol "("
      let target ← rules .plainTarget
      symbol ")"
      return target,
    do
      symbol "("
      let _ ← attempt (tupleTargets rules)
      symbol ")"
      return .tuple []]

def targetGoesOn : Parse Unit := do
  let _ ← oneOf ["(", "[", "."]

/-- A target that is no starred one. -/
def plainTarget : Parse Expr :=
  first [
    do
      let _ ← rules .targetPrimary
      symbol "."
      let _ ← name
      notAhead targetGoesOn
      return .attribute,
    targetAtom rules]

def target : Parse Expr :=
  first [
    do
      symbol "*"
      notAhead (symbol "*")
      rules .target,
    rules .plainTarget]

/-- The start of a loop, up to its source. -/
def loopStart : Parse Unit := do
  let _ ← attempt (symbol "async")
  symbol "for"
  targets rules
  symbol "in"

def loop : Parse Unit := do
  match ← attempt (loopStart rules) with
  | some _ => do
      let _ ← rules .disjunction
      let _ ← many do
        symbol "if"
        rules .disjunction
  | none =>
      explainMissing [do
        let _ ← attempt (symbol "async")
        symbol "for"
        let found ← starExpressions rules
        return found.invalidTarget?.map fun part => .notAssignable part.kindName]

/-- The loops behind an item. -/
def loops : Parse Unit := do
  let _ ← many1 (loop rules)

def explainComprehension : Parse Unit :=
  explain [
    do
      let _ ← oneOf ["[", "(", "\x7b"]
      let _ ← starredExpression rules
      loops rules
      return some .starredInComprehension,
    do
      let _ ← oneOf ["[", "\x7b"]
      let _ ← item rules
      symbol ","
      let _ ← items rules
      loops rules
      return some .bareComprehensionTarget,
    do
      let _ ← oneOf ["[", "\x7b"]
      let _ ← item rules
      symbol ","
      loops rules
      return some .bareComprehensionTarget]

/-! ## Brackets -/

def generator : Parse Expr :=
  first [
    do
      symbol "("
      let _ ← generatedItem rules
      loops rules
      symbol ")"
      return .generator,
    do
      explainComprehension rules
      missing]

def tuple : Parse Expr := do
  symbol "("
  let found ← attempt do
    let head ← item rules
    symbol ","
    return head :: ((← attempt (items rules)).getD [])
  symbol ")"
  return .tuple (found.getD [])

def group : Parse Expr :=
  first [
    do
      symbol "("
      let found ← first [yielded rules, namedExpression rules]
      symbol ")"
      return found,
    explainMissing [
      do
        symbol "("
        let _ ← starredExpression rules
        symbol ")"
        return some .starred,
      do
        symbol "("
        symbol "**"
        let _ ← rules .expression
        symbol ")"
        return some .doubleStarred]]

def set : Parse Expr := do
  symbol "\x7b"
  let found ← items rules
  symbol "\x7d"
  return .set found

def setComprehension : Parse Expr :=
  first [
    do
      symbol "\x7b"
      let _ ← namedExpression rules
      loops rules
      symbol "\x7d"
      return .setComprehension,
    do
      explainComprehension rules
      missing]

/-! ## Dictionaries -/

def pair : Parse Entry := do
  let key ← rules .expression
  symbol ":"
  return .pair key (← rules .expression)

def entry : Parse Entry :=
  first [
    do
      symbol "**"
      return .merged (← rules .bitOr),
    pair rules]

def starredPair : Parse (Option GrammarFault) := do
  let _ ← rules .expression
  symbol ":"
  symbol "*"
  let _ ← rules .bitOr
  return some .starredValue

def halfPair : Parse (Option GrammarFault) := do
  let _ ← rules .expression
  symbol ":"
  ahead (first [symbol "\x7d", symbol ","])
  return some .valueMissing

def dictionary : Parse Expr :=
  first [
    do
      symbol "\x7b"
      let found ← attempt do
        let found ← separated (entry rules)
        let _ ← attempt (symbol ",")
        return found
      symbol "\x7d"
      return .dictionary (found.getD []),
    mistaken [
      do
        symbol "\x7b"
        let _ ← separated (entry rules)
        symbol ","
        mistaken [
          do
            let _ ← rules .expression
            notAhead (symbol ":")
            return some .colonMissing,
          starredPair rules,
          halfPair rules],
      do
        symbol "\x7b"
        starredPair rules,
      do
        symbol "\x7b"
        halfPair rules]]

def dictionaryComprehension : Parse Expr :=
  first [
    do
      symbol "\x7b"
      let _ ← pair rules
      loops rules
      symbol "\x7d"
      return .dictionaryComprehension,
    explainMissing [do
      symbol "\x7b"
      symbol "**"
      let _ ← rules .bitOr
      loops rules
      symbol "\x7d"
      return some .mappingInComprehension]]

end Grammar
end Expression
end Storyboard
