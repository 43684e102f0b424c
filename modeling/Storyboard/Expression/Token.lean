import Storyboard.Expression.NameRanges
import Storyboard.Expression.Numeral

/-!
# Tokens

A text is cut into names, numerals, text literals and symbols.  Words with a meaning of their own
count as symbols.  The end of a line is a token unless a bracket is open.
-/

namespace Storyboard
namespace Expression

/-! ## Kinds -/

structure TextLiteral where
  isBytes : Bool
  /-- Whether backslashes stand for themselves. -/
  isRaw : Bool
  /-- Whether expressions may stand between braces. -/
  isFormatted : Bool
  line : Nat
  body : List Char
deriving DecidableEq, Repr

inductive TokenKind where
  | name (text : List Char)
  | numeral (numeral : Numeral)
  | text (literal : TextLiteral)
  | symbol (text : String)
  | newline
  | indent
  | finish
deriving DecidableEq, Repr

structure Token where
  kind : TokenKind
  line : Nat
  /-- The number of brackets that are open behind the token. -/
  depth : Nat
  /-- Whether the end of the text had to be seen to end the token. -/
  seesEnd : Bool
deriving DecidableEq, Repr

/-- What stops the reading of tokens before the end of a text. -/
structure Stop where
  fault : TokenFault
  /-- Whether the fault counts even if no token is missed. -/
  isPressing : Bool
  /-- The innermost bracket that is open, and its line. -/
  bracket : Option (Char × Nat)
deriving DecidableEq, Repr

/-- The tokens of a text; without a stop the last one is its end. -/
structure Tokens where
  list : List Token
  stop : Option Stop
deriving DecidableEq, Repr

/-! ## Words and signs -/

/-- The words that are no names. -/
def keywords : List String := [
  "False", "None", "True", "and", "as", "assert", "async", "await", "break", "class", "continue",
  "def", "del", "elif", "else", "except", "finally", "for", "from", "global", "if", "import", "in",
  "is", "lambda", "nonlocal", "not", "or", "pass", "raise", "return", "try", "while", "with",
  "yield"]

/-- The names that have a meaning of their own at the start of a line. -/
def softKeywords : List String :=
  ["_", "case", "match"]

/-- Whether a soft keyword starts like a name. -/
def isSoftKeyword (name : List Char) : Bool :=
  softKeywords.any fun word => name.isPrefixOf word.toList

def pairs : List String := [
  "!=", "%=", "&=", "**", "*=", "+=", "-=", "->", "//", "/=", ":=", "<<", "<=", "<>", "==", ">=",
  ">>", "@=", "^=", "|="]

def triples : List String :=
  ["**=", "...", "//=", "<<=", ">>="]

/-- The sign at the start of a text that is not empty: the longest one, or a single character. -/
def signAt (cs : List Char) : List Char :=
  match (triples ++ pairs).find? fun sign => sign.toList.isPrefixOf cs with
  | some sign => sign.toList
  | none => cs.take 1

def closing? : Char → Option Char
  | '(' => some ')'
  | '[' => some ']'
  | '{' => some '}'
  | _ => none

def maxBrackets : Nat := 200

def isClosing (c : Char) : Bool :=
  c = ')' || c = ']' || c = '}'

/-- Whether a character may be in a name, or will be refused there. -/
def mayBeInName (c : Char) : Bool :=
  Numeral.isWordChar c || 128 ≤ c.toNat

/-- The token of a word; the first character that may not stand in it is a fault. -/
def ofWord (word : List Char) : Except TokenFault TokenKind :=
  let text := String.ofList word
  if text ∈ keywords then .ok (.symbol text)
  else
    match word with
    | [] => .ok (.name [])
    | first :: others =>
        if !startsName first then .error (.character first)
        else
          match others.find? fun c => !continuesName c with
          | some c => .error (.character c)
          | none => .ok (.name word)

/-! ## Text literals -/

/-- The letters that may stand in front of a quote. -/
def quoteWords : List String :=
  ["", "b", "r", "u", "f", "br", "rb", "fr", "rf"]

/-- The quote at the start of a text, and whether three of them stand there. -/
def openingQuote? : List Char → Option (Char × Bool)
  | c :: rest => if c = '\'' ∨ c = '"' then some (c, [c, c].isPrefixOf rest) else none
  | [] => none

/-- The text up to the quote that closes it, and what follows. -/
def untilQuote (quote : Char) (isLong : Bool) : List Char → Option (List Char × List Char)
  | [] => none
  | '\\' :: c :: rest =>
      (untilQuote quote isLong rest).map fun (body, rest) => ('\\' :: c :: body, rest)
  | c :: rest =>
      if c = quote ∧ !isLong then some ([], rest)
      else if c = quote ∧ [quote, quote].isPrefixOf rest then some ([], rest.drop 2)
      else if c = '\n' ∧ !isLong then none
      else (untilQuote quote isLong rest).map fun (body, rest) => (c :: body, rest)

/-- The line ends that are passed in search of a closing quote that is missing. -/
def passedLines (isLong : Bool) : List Char → Nat
  | [] => 0
  | '\\' :: '\n' :: rest => passedLines isLong rest + 1
  | '\\' :: _ :: rest => passedLines isLong rest
  | '\n' :: rest => if isLong then passedLines isLong rest + 1 else 0
  | _ :: rest => passedLines isLong rest

/-- The text literal behind some letters, if a quote starts there, and what follows. -/
def readText (line : Nat) (word cs : List Char) :
    Option (Except TokenFault (TextLiteral × List Char)) :=
  let word := word.map Char.toLower
  match openingQuote? cs with
  | none => none
  | some (quote, isLong) =>
      if String.ofList word ∉ quoteWords then none
      else
        let cs := cs.drop (if isLong then 3 else 1)
        match untilQuote quote isLong cs with
        | none => some (.error (.openText isLong (line + passedLines isLong cs)))
        | some (body, rest) =>
            some (.ok (⟨'b' ∈ word, 'r' ∈ word, 'f' ∈ word, line, body⟩, rest))

end Expression
end Storyboard
