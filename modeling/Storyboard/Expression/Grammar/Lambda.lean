import Storyboard.Expression.Parse

/-!
# Functions without a name

The parameters of a function stand between a word and a colon.  Some have defaults.  A slash ends
those that are given by position only, and a star starts those that are given by name only.
-/

namespace Storyboard
namespace Expression
namespace Grammar

open Parse

variable (rules : Rules)

/-! ## Parameters -/

def parameterDefault : Parse Unit :=
  first [
    do
      symbol "="
      let _ ← rules .expression,
    explainMissing [do
      symbol "="
      ahead (first [symbol ")", symbol ","])
      return some .defaultMissing]]

def plainParameter : Parse Unit :=
  first [
    do
      let _ ← name
      symbol ",",
    do
      let _ ← name
      ahead (symbol ":")]

def defaultParameter : Parse Unit :=
  first [
    do
      let _ ← name
      parameterDefault rules
      symbol ",",
    do
      let _ ← name
      parameterDefault rules
      ahead (symbol ":")]

def anyParameter : Parse Unit :=
  first [
    do
      let _ ← name
      let _ ← attempt (parameterDefault rules)
      symbol ",",
    do
      let _ ← name
      let _ ← attempt (parameterDefault rules)
      ahead (symbol ":")]

/-- Parameters without defaults, and a slash. -/
def plainSlash : Parse Unit :=
  first [
    do
      let _ ← many1 plainParameter
      symbol "/"
      symbol ",",
    do
      let _ ← many1 plainParameter
      symbol "/"
      ahead (symbol ":")]

/-- Parameters of which the last one has a default, and a slash. -/
def defaultSlash : Parse Unit :=
  first [
    do
      let _ ← many plainParameter
      let _ ← many1 (defaultParameter rules)
      symbol "/"
      symbol ",",
    do
      let _ ← many plainParameter
      let _ ← many1 (defaultParameter rules)
      symbol "/"
      ahead (symbol ":")]

/-! ## Stars -/

def explainKeywords : Parse Unit :=
  explain [
    do
      symbol "**"
      let _ ← name
      symbol "="
      return some .keywordsDefault,
    do
      symbol "**"
      let _ ← name
      symbol ","
      let _ ← name
      return some .behindKeywords,
    do
      symbol "**"
      let _ ← name
      symbol ","
      let _ ← oneOf ["*", "**", "/"]
      return some .behindKeywords]

/-- The parameter of all other names. -/
def keywordsParameter : Parse Unit := do
  explainKeywords
  symbol "**"
  plainParameter

def explainStar : Parse Unit :=
  explain [
    do
      symbol "*"
      first [
        symbol ":",
        do
          symbol ","
          first [symbol ":", symbol "**"]]
      return some .nothingBehindStar,
    do
      symbol "*"
      let _ ← name
      symbol "="
      return some .starDefault,
    do
      symbol "*"
      first [plainParameter, symbol ","]
      let _ ← many (anyParameter rules)
      symbol "*"
      first [plainParameter, symbol ","]
      return some .starTwice]

def starParameters : Parse Unit := do
  explainStar rules
  first [
    do
      symbol "*"
      plainParameter
      let _ ← many (anyParameter rules)
      let _ ← attempt keywordsParameter,
    do
      symbol "*"
      symbol ","
      let _ ← many1 (anyParameter rules)
      let _ ← attempt keywordsParameter,
    keywordsParameter]

/-! ## Functions -/

def explainParameters : Parse Unit :=
  explain [
    do
      let _ ← many plainParameter
      first [
        defaultSlash rules,
        do
          let _ ← many1 (defaultParameter rules)]
      plainParameter
      return some .defaultBefore,
    do
      let _ ← many plainParameter
      symbol "("
      let _ ← separated name
      let _ ← attempt (symbol ",")
      symbol ")"
      return some .parameterParentheses,
    do
      symbol "/"
      symbol ","
      return some .nothingBeforeSlash,
    do
      first [plainSlash, defaultSlash rules]
      let _ ← many (anyParameter rules)
      symbol "/"
      return some .slashTwice,
    do
      let _ ← attempt (first [plainSlash, defaultSlash rules])
      let _ ← many (anyParameter rules)
      symbol "*"
      first [symbol ",", plainParameter]
      let _ ← many (anyParameter rules)
      symbol "/"
      return some .slashBehindStar,
    do
      let _ ← many1 (anyParameter rules)
      symbol "/"
      symbol "*"
      return some .commaBeforeStar]

def parameters : Parse Unit := do
  explainParameters rules
  first [
    do
      plainSlash
      let _ ← many plainParameter
      let _ ← many (defaultParameter rules)
      let _ ← attempt (starParameters rules),
    do
      defaultSlash rules
      let _ ← many (defaultParameter rules)
      let _ ← attempt (starParameters rules),
    do
      let _ ← many1 plainParameter
      let _ ← many (defaultParameter rules)
      let _ ← attempt (starParameters rules),
    do
      let _ ← many1 (defaultParameter rules)
      let _ ← attempt (starParameters rules),
    starParameters rules]

def lambda : Parse Expr := do
  symbol "lambda"
  let _ ← attempt (parameters rules)
  symbol ":"
  let _ ← rules .expression
  return .lambda

end Grammar
end Expression
end Storyboard
