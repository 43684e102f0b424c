import Storyboard.Expression.Grammar.Rules
import Storyboard.Expression.Tokens

/-!
# Reading expressions

A text is read once without explanations.  Only if it is no expression, and nothing was refused yet,
it is read again with them.  A fault in the tokens that were not reached may come first.
-/

namespace Storyboard
namespace Expression

/-- A reading from the first token on. -/
def Progress.start (seen : Nat) (explains : Bool) : Progress :=
  ⟨0, seen, explains, {}⟩

/--
The fault that is reported for tokens of which some were seen: one in the tokens behind them if it
is pressing, or a bracket that was left open on an earlier line.
-/
def Context.outermost (context : Context) (seen : Nat) (fault : Fault) : Fault :=
  match context.stop with
  | none => fault
  | some stop =>
      if stop.isPressing then .token stop.fault
      else
        match stop.bracket, context.tokens[seen - 1]? with
        | some (bracket, line), some token =>
            if line < token.line then context.report (.token (.neverClosed bracket)) else fault
        | _, _ => fault

def Context.faultOf (context : Context) (refusal : Refusal) (progress : Progress) : Fault :=
  let last := context.tokens[progress.seen - 1]?
  if refusal.isStop || last.any Token.seesEnd then refusal.fault
  else context.outermost progress.seen refusal.fault

/-- What a parser finds in some tokens, or what is wrong with them. -/
def Context.parse (context : Context) (p : Parse Expr) : Except Fault Expr :=
  match p context (.start 0 false) with
  | (.found found, _) => .ok found
  | (.refused refusal, progress) => .error (context.faultOf refusal progress)
  | (.missing, progress) =>
      match p context (.start progress.seen true) with
      | (.refused refusal, progress) => .error (context.faultOf refusal progress)
      | (_, explained) =>
          if (context.tokens[progress.seen - 1]?).any fun token => token.kind = .indent then
            .error (context.report (.grammar .indent))
          else
            .error (context.outermost explained.seen (context.report (.grammar .noExpression)))

def Context.of (tokens : Tokens) (isInside : Bool)
    (readInside : Nat → List Char → Except Fault Unit) : Context :=
  ⟨tokens.list.toArray, tokens.stop, isInside, readInside⟩

/-- Reads an expression inside of a formatted text, which may hold formatted texts to some depth. -/
def readInside : Nat → Nat → List Char → Except Fault Unit
  | 0, _, _ => .ok ()
  | depth + 1, line, cs => do
      let context := Context.of (tokensOf line cs) true (readInside depth)
      let _ ← context.parse (Grammar.starExpressions (Grammar.rulesFor context.tokens))

def read (cs : List Char) : Except Fault Expr :=
  let context := Context.of (tokensOf 1 cs) false (readInside cs.length)
  context.parse (Grammar.wholeText (Grammar.rulesFor context.tokens))

end Expression
end Storyboard
