import Storyboard.Expression.Formatted
import Storyboard.Expression.Grammar.Display

/-!
# Atoms and calls

An atom is a name, a constant, or something between brackets.  Behind it, attributes may be taken
and functions may be called.
-/

namespace Storyboard
namespace Expression
namespace Grammar

open Parse

variable (rules : Rules)

/-! ## Texts -/

/-- What is wrong with text literals in a row, the first of which may be bytes. -/
def textsFault? (context : Context) (isBytes : Bool) : List TextLiteral → Option Fault
  | [] => none
  | literal :: rest =>
      match literal.fault? with
      | some fault => some (context.report (.literal fault))
      | none =>
        if literal.isBytes ≠ isBytes then some (context.report (.literal .mixedKinds))
        else
          let reader : Formatted.Reader := ⟨context.readInside, context.report, literal.isRaw⟩
          match if literal.isFormatted then reader.readText literal else .ok () with
          | .error fault => some fault
          | .ok () => textsFault? context isBytes rest

/-- Text literals in a row, which make one text. -/
def texts : Parse Expr := do
  let found ← many1 text
  let isBytes := found.head?.any TextLiteral.isBytes
  let value : Expr :=
    if found.any TextLiteral.isFormatted then .formatted
    else .constant (if isBytes then .bytes else .text)
  fun context progress =>
    match textsFault? context isBytes found with
    | some fault => (.refused ⟨fault, false⟩, progress)
    | none => (.found value, progress)

/-! ## Atoms -/

def constants : List (String × Constant) :=
  [("True", .true), ("False", .false), ("None", .none)]

def constant : Parse Expr :=
  next fun kind =>
    match kind with
    | .symbol text => (constants.lookup text).map .constant
    | _ => none

def number : Parse Expr := do
  let found ← numeral
  match found.fault? with
  | some fault => refuse (.literal fault)
  | none => return .constant (.numeral found)

def atom : Parse Expr :=
  first [
    do return .name (← name),
    constant,
    do
      ahead text
      rules .texts,
    number,
    do
      ahead (symbol "(")
      first [tuple rules, group rules, generator rules],
    do
      ahead (symbol "\x7b")
      first [
        dictionary rules, set rules, dictionaryComprehension rules, setComprehension rules],
    do
      symbol "..."
      return .constant .ellipsis]

/-! ## Arguments -/

/-- What was found among the arguments of a call. -/
structure Arguments where
  /-- The arguments without names, starred ones included. -/
  positional : Nat
  /-- Whether the entries of a dictionary are taken over. -/
  hasMapping : Bool

def Arguments.join (a b : Arguments) : Arguments :=
  ⟨a.positional + b.positional, a.hasMapping || b.hasMapping⟩

def Arguments.ofParts (parts : List Arguments) : Arguments :=
  parts.foldl Arguments.join ⟨0, false⟩

def explainKeyword : Parse Unit :=
  explain [
    do
      let word ← oneOf (constants.map Prod.fst)
      symbol "="
      return some (.notAssignable word),
    do
      let _ ← name
      symbol "="
      let _ ← rules .expression
      loops rules
      return some .equalsMeant,
    do
      notAhead do
        let _ ← name
        symbol "="
      let _ ← rules .expression
      symbol "="
      return some .assignmentAsArgument]

def keyword : Parse Arguments := do
  let _ ← name
  symbol "="
  let _ ← rules .expression
  return ⟨0, false⟩

def starredArgument : Parse Arguments := do
  let _ ← starredExpression rules
  return ⟨1, false⟩

def keywordOrStarred : Parse Arguments := do
  explainKeyword rules
  first [keyword rules, starredArgument rules]

def keywordOrMapping : Parse Arguments := do
  explainKeyword rules
  first [
    keyword rules,
    do
      symbol "**"
      let _ ← rules .expression
      return ⟨0, true⟩]

/-- The arguments from the first one with a name on. -/
def keywords : Parse Arguments :=
  first [
    do
      let found ← separated (keywordOrStarred rules)
      symbol ","
      return .ofParts (found ++ (← separated (keywordOrMapping rules))),
    do return .ofParts (← separated (keywordOrStarred rules)),
    do return .ofParts (← separated (keywordOrMapping rules))]

def positionalArgument : Parse Arguments :=
  first [
    starredArgument rules,
    do
      let _ ← generatedItem rules
      notAhead (symbol "=")
      return ⟨1, false⟩]

/-- The arguments of a call, without a comma at their end. -/
def argumentParts : Parse Arguments :=
  first [
    do
      let found ← separated (positionalArgument rules)
      let named ← attempt do
        symbol ","
        keywords rules
      return .ofParts (found ++ named.toList),
    keywords rules]

def arguments : Parse Expr :=
  first [
    do
      let _ ← argumentParts rules
      let _ ← attempt (symbol ",")
      ahead (symbol ")")
      return .tuple [],
    explainMissing [
      do
        let _ ← first [
          do
            let _ ← separated (positionalArgument rules)
            symbol ","
            keywords rules,
          keywords rules]
        symbol ","
        let _ ← separated do
          let _ ← starredExpression rules
          notAhead (symbol "=")
        return some .iterableBehindMapping,
      do
        let _ ← rules .expression
        loops rules
        symbol ","
        let _ ← attempt (first [
          do
            let _ ← argumentParts rules,
          do
            let _ ← rules .expression
            loops rules])
        return some .bareGenerator,
      do
        let _ ← name
        symbol "="
        let _ ← rules .expression
        loops rules
        return some .equalsMeant,
      do
        let found ← argumentParts rules
        loops rules
        return if 1 < found.positional then some .bareGenerator else none,
      do
        let _ ← argumentParts rules
        symbol ","
        let _ ← rules .expression
        loops rules
        return some .bareGenerator,
      do
        let found ← argumentParts rules
        symbol ","
        let _ ← argumentParts rules
        return some (if found.hasMapping then .positionalBehindMapping
          else .positionalBehindKeyword)]]

/-! ## Calls -/

/-- What may follow an atom: an attribute, a loop as the only argument, or arguments. -/
def trailer (function : Expr) : Parse Expr :=
  first [
    do
      symbol "."
      let _ ← name
      return .attribute,
    do
      let _ ← generator rules
      return .call function true,
    do
      symbol "("
      let found ← attempt (rules .arguments)
      symbol ")"
      return .call function found.isSome]

/-- As many trailers as there are, at most `limit`, each of them followed by something. -/
def trailers (limit : Nat) (condition : Parse Unit) (function : Expr) : Parse Expr :=
  match limit with
  | 0 => pure function
  | limit + 1 => do
      let found ← attempt do
        let found ← trailer rules function
        condition
        return found
      match found with
      | some found => trailers limit condition found
      | none => return function

/-- An atom with what follows it, as long as something follows. -/
def trailedAtom (condition : Parse Unit) : Parse Expr := do
  let found ← atom rules
  condition
  fun context progress =>
    trailers rules (context.tokens.size + 1) condition found context progress

def primary : Parse Expr :=
  trailedAtom rules (pure ())

/-- An atom with what follows it up to the last attribute of a target. -/
def targetPrimary : Parse Expr :=
  trailedAtom rules (ahead targetGoesOn)

end Grammar
end Expression
end Storyboard
