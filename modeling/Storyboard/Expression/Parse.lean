import Std.Data.HashMap
import Storyboard.Expression.Basic
import Storyboard.Expression.Token

/-!
# Parsers of expressions

A parser looks at tokens from a position on.  It finds something, or misses it, or refuses the whole
text.  Expressions are read by rules, and what a rule found at a position is remembered.

A text that is no expression is read a second time, with explanations: on the way, forms that are
known mistakes are looked for, and the first of them is the reason for the refusal.  What was
remembered while explanations were off is not looked at again.
-/

namespace Storyboard
namespace Expression

/-! ## Outcomes -/

inductive Rule where
  | expression
  | starExpression
  | misplacedAssignment
  | disjunction
  | conjunction
  | inversion
  | bitOr
  | bitXor
  | bitAnd
  | shift
  | sum
  | term
  | factor
  | awaited
  | primary
  | texts
  | arguments
  | target
  | plainTarget
  | targetPrimary
deriving DecidableEq, Hashable, Repr

structure Refusal where
  fault : Fault
  /-- Whether a token that was needed could not be read. -/
  isStop : Bool
deriving DecidableEq, Repr

inductive Outcome (α : Type) where
  | found (a : α)
  | missing
  | refused (refusal : Refusal)

structure Context where
  tokens : Array Token
  stop : Option Stop
  /-- Whether the tokens are those of an expression inside of a formatted text. -/
  isInside : Bool
  /-- Reads the text of an expression inside of a formatted text, which starts on some line. -/
  readInside : Nat → List Char → Except Fault Unit

def Context.report (context : Context) (fault : Fault) : Fault :=
  if context.isInside then .inside fault else fault

structure Progress where
  position : Nat
  /-- The tokens that were looked at. -/
  seen : Nat
  explains : Bool
  memory : Std.HashMap (Rule × Nat) (Option (Expr × Nat))

def Parse (α : Type) : Type :=
  Context → Progress → Outcome α × Progress

namespace Parse

variable {α β : Type}

instance : Monad Parse where
  pure a := fun _ progress => (.found a, progress)
  bind p f := fun context progress =>
    match p context progress with
    | (.found a, progress) => f a context progress
    | (.missing, progress) => (.missing, progress)
    | (.refused refusal, progress) => (.refused refusal, progress)

/-! ## Steps -/

def missing : Parse α :=
  fun _ progress => (.missing, progress)

def refuse (fault : Fault) : Parse α :=
  fun context progress => (.refused ⟨context.report fault, false⟩, progress)

def token : Parse Token :=
  fun context progress =>
    let seeing := { progress with seen := max progress.seen (progress.position + 1) }
    match context.tokens[progress.position]? with
    | some token => (.found token, seeing)
    | none =>
        match context.stop with
        | some stop =>
            let fault := .token stop.fault
            (.refused ⟨if stop.isPressing then fault else context.report fault, true⟩, seeing)
        | none => (.missing, progress)

def depth : Parse Nat :=
  fun context progress =>
    (.found ((context.tokens[progress.position - 1]?.map Token.depth).getD 0), progress)

/-- Reads the token at the position if it has what is looked for. -/
def next (wanted : TokenKind → Option α) : Parse α := do
  match wanted (← token).kind with
  | some a => fun _ progress => (.found a, { progress with position := progress.position + 1 })
  | none => missing

def symbol (text : String) : Parse Unit :=
  next fun kind => if kind = .symbol text then some () else none

def oneOf (texts : List String) : Parse String :=
  next fun kind =>
    match kind with
    | .symbol text => if text ∈ texts then some text else none
    | _ => none

def name : Parse (List Char) :=
  next fun kind =>
    match kind with
    | .name text => some text
    | _ => none

def text : Parse TextLiteral :=
  next fun kind =>
    match kind with
    | .text literal => some literal
    | _ => none

def numeral : Parse Numeral :=
  next fun kind =>
    match kind with
    | .numeral numeral => some numeral
    | _ => none

/-- Reads a token that is nothing but what it is. -/
def exactly (wanted : TokenKind) : Parse Unit :=
  next fun kind => if kind = wanted then some () else none

/-! ## Combinations -/

/-- What is come to if nothing was read where something is missing. -/
@[noinline] def backIfMissing (position : Nat) :
    Outcome α × Progress → Outcome (Option α) × Progress
  | (.found a, after) => (.found (some a), after)
  | (.missing, after) => (.found none, { after with position := position })
  | (.refused refusal, after) => (.refused refusal, after)

/-- Tries a parser; if it misses, nothing was read. -/
def attempt (p : Parse α) : Parse (Option α) :=
  fun context progress => backIfMissing progress.position (p context progress)

/-- The first of some parsers that finds something. -/
def first : List (Parse α) → Parse α
  | [] => missing
  | p :: rest => do
      match ← attempt p with
      | some a => return a
      | none => first rest

/-- Whether a parser would find something; nothing is read. -/
def isAhead (p : Parse α) : Parse Bool :=
  fun context progress =>
    match p context progress with
    | (.found _, after) => (.found true, { after with position := progress.position })
    | (.missing, after) => (.found false, { after with position := progress.position })
    | (.refused refusal, after) => (.refused refusal, after)

/-- Misses unless a parser would find something. -/
def ahead (p : Parse α) : Parse Unit := do
  if !(← isAhead p) then missing

/-- Misses if a parser would find something. -/
def notAhead (p : Parse α) : Parse Unit := do
  if ← isAhead p then missing

/-- At most `limit` findings of a parser in a row. -/
def upTo (limit : Nat) (p : Parse α) : Parse (List α) :=
  match limit with
  | 0 => pure []
  | limit + 1 => do
      match ← attempt p with
      | some a => return a :: (← upTo limit p)
      | none => return []

/-- The findings of a parser in a row; each of them reads a token. -/
def many (p : Parse α) : Parse (List α) :=
  fun context progress => upTo (context.tokens.size + 1) p context progress

def many1 (p : Parse α) : Parse (List α) := do
  return (← p) :: (← many p)

/-- The findings of a parser with commas between them, at least one. -/
def separated (p : Parse α) : Parse (List α) := do
  let head ← p
  let rest ← many do
    symbol ","
    p
  return head :: rest

/-! ## Explanations -/

/-- Parsers for known mistakes; one that finds no fault after all ends the search. -/
def searchMistake : List (Parse (Option GrammarFault)) → Parse Unit
  | [] => pure ()
  | p :: rest => do
      match ← attempt p with
      | some (some fault) => refuse (.grammar fault)
      | some none => pure ()
      | none => searchMistake rest

/-- Looks for known mistakes if explanations are on; nothing is read. -/
def explain (mistakes : List (Parse (Option GrammarFault))) : Parse Unit :=
  fun context progress =>
    if progress.explains then
      match searchMistake mistakes context progress with
      | (.found _, after) => (.found (), { after with position := progress.position })
      | other => other
    else (.found (), progress)

/-- Looks for known mistakes even if explanations are off, and misses if there are none. -/
def mistaken (mistakes : List (Parse (Option GrammarFault))) : Parse α := do
  searchMistake mistakes
  missing

/-- Looks for known mistakes, and misses if there are none. -/
def explainMissing (mistakes : List (Parse (Option GrammarFault))) : Parse α := do
  explain mistakes
  missing

/-- Turns explanations off. -/
def withoutExplanations (p : Parse α) : Parse α :=
  fun context progress =>
    match p context { progress with explains := false } with
    | (outcome, after) => (outcome, { after with explains := progress.explains })

/-! ## Memory -/

/-- What a rule finds at the position, by its parser only the first time. -/
def remembered (rule : Rule) (p : Parse Expr) : Parse Expr :=
  fun context progress =>
    let key := (rule, progress.position)
    match progress.memory[key]? with
    | some (some (found, position)) => (.found found, { progress with position := position })
    | some none => (.missing, progress)
    | none =>
        let keep (after : Progress) (finding : Option (Expr × Nat)) : Progress :=
          { after with memory := after.memory.insert key finding }
        match p context progress with
        | (.found found, after) => (.found found, keep after (some (found, after.position)))
        | (.missing, after) => (.missing, keep after none)
        | (.refused refusal, after) => (.refused refusal, after)

end Parse

abbrev Rules := Rule → Parse Expr

end Expression
end Storyboard
