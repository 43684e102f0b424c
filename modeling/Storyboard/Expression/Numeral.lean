import Storyboard.Expression.Fault

/-!
# Numerals

An integer is written in base ten, or behind a zero and a letter in base sixteen, eight or two.
Single underscores may stand between its digits.  A point, an exponent or a final `j` makes another
number of it.  A word may stand directly behind a numeral only if it is one of a few operators.
-/

namespace Storyboard
namespace Expression

/-- A number as it is written. -/
inductive Numeral where
  | integer (kind : NumeralKind) (digits : List Char)
  | real
  | imaginary
deriving DecidableEq, Repr

namespace NumeralKind

def base : NumeralKind → Nat
  | .hexadecimal => 16
  | .octal => 8
  | .binary => 2
  | .decimal | .imaginary => 10

def digit? (c : Char) : Option Nat :=
  if c.isDigit then some (c.toNat - '0'.toNat)
  else
    let lower := c.toLower
    if 'a' ≤ lower ∧ lower ≤ 'f' then some (lower.toNat - 'a'.toNat + 10) else none

def isDigit (kind : NumeralKind) (c : Char) : Bool :=
  (digit? c).any (· < kind.base)

end NumeralKind

namespace Numeral

def value : Numeral → Nat
  | .integer kind digits =>
      digits.foldl (fun n c => kind.base * n + (NumeralKind.digit? c).getD 0) 0
  | .real | .imaginary => 0

/-- What is wrong with a numeral: only an integer in base ten can have too many digits. -/
def fault? : Numeral → Option LiteralFault
  | .integer .decimal digits =>
      if Decimal.maxDigits < digits.length ∧ digits.any (· ≠ '0') then
        some (.tooManyDigits digits.length)
      else none
  | _ => none

/-! ## Reading -/

def isWordChar (c : Char) : Bool :=
  c.isAlphanum || c = '_'

/-- The operators that may stand directly behind a numeral, and end there. -/
def wholeFollowers : List String :=
  ["and", "else", "for", "or", "not"]

/-- The operators that may stand directly behind a numeral, whatever follows them. -/
def openFollowers : List String :=
  ["if", "in", "is"]

def operatorFollows (rest : List Char) : Bool :=
  (wholeFollowers.any fun word => word.toList.isPrefixOf rest &&
      !(rest.drop word.length).head?.any fun c => isWordChar c || 128 ≤ c.toNat) ||
    openFollowers.any fun word => word.toList.isPrefixOf rest

/-- A numeral together with what follows it, if that does not go on like a word. -/
def ending (kind : NumeralKind) (numeral : Numeral) (rest : List Char) :
    Except TokenFault (Numeral × List Char) :=
  if rest.head?.any isWordChar && !operatorFollows rest then .error (.numeral kind)
  else .ok (numeral, rest)

/-- The digits at the start of a text without the underscores in front of them, and the rest. -/
def decimalDigits : List Char → Except TokenFault (List Char × List Char)
  | '_' :: c :: rest => do
      if c.isDigit then
        let (digits, rest) ← decimalDigits rest
        return (c :: digits, rest)
      else throw (.numeral .decimal)
  | '_' :: [] => .error (.numeral .decimal)
  | c :: rest => do
      if c.isDigit then
        let (digits, rest) ← decimalDigits rest
        return (c :: digits, rest)
      else return ([], c :: rest)
  | [] => .ok ([], [])

/--
The digits of a kind at the start of a text, and the rest.  A digit may be needed, and an underscore
may be allowed.
-/
def basedDigits (kind : NumeralKind) (needed grouped : Bool) :
    List Char → Except TokenFault (List Char × List Char)
  | [] => if needed then .error (.numeral kind) else .ok ([], [])
  | c :: rest =>
      if kind.isDigit c then do
        let (digits, rest) ← basedDigits kind false true rest
        return (c :: digits, rest)
      else if c = '_' ∧ grouped then basedDigits kind true false rest
      else if c.isDigit then .error (.digit c kind)
      else if needed then .error (.numeral kind)
      else .ok ([], c :: rest)

/-- Reads an integer behind its zero and its letter. -/
def readBased (kind : NumeralKind) (cs : List Char) : Except TokenFault (Numeral × List Char) := do
  let (digits, rest) ← basedDigits kind true true cs
  ending kind (.integer kind digits) rest

/-- Reads what may follow the digits of a number: the mark of an imaginary number. -/
def readMark (numeral : Numeral) : List Char → Except TokenFault (Numeral × List Char)
  | 'j' :: rest | 'J' :: rest => ending .imaginary .imaginary rest
  | rest => ending .decimal numeral rest

def readPower (cs : List Char) : Except TokenFault (Numeral × List Char) := do
  let (_, rest) ← decimalDigits cs
  readMark .real rest

/-- Reads what may follow the digits of a number: its exponent. -/
def readExponent (numeral : Numeral) (cs : List Char) : Except TokenFault (Numeral × List Char) :=
  match cs with
  | 'e' :: rest | 'E' :: rest =>
      match rest with
      | '+' :: rest | '-' :: rest =>
          if rest.head?.any Char.isDigit then readPower rest else .error (.numeral .decimal)
      | _ =>
          if rest.head?.any Char.isDigit then readPower rest else ending .decimal numeral cs
  | _ => readMark numeral cs

def readFraction (cs : List Char) : Except TokenFault (Numeral × List Char) := do
  if cs.head?.any Char.isDigit then
    let (_, rest) ← decimalDigits cs
    readExponent .real rest
  else readExponent .real cs

def readDigits (cs : List Char) : Except TokenFault (Numeral × List Char) := do
  let (digits, rest) ← decimalDigits cs
  let numeral := .integer .decimal digits
  match rest with
  | '.' :: rest => readFraction rest
  | 'e' :: _ | 'E' :: _ => readExponent numeral rest
  | 'j' :: _ | 'J' :: _ => readMark numeral rest
  | _ =>
      if digits.head? = some '0' ∧ digits.any (· ≠ '0') then throw .leadingZeros
      else ending .decimal numeral rest

/-- Reads the numeral at the start of a text, which begins with a digit or with a point. -/
def read : List Char → Except TokenFault (Numeral × List Char)
  | '0' :: 'x' :: rest | '0' :: 'X' :: rest => readBased .hexadecimal rest
  | '0' :: 'o' :: rest | '0' :: 'O' :: rest => readBased .octal rest
  | '0' :: 'b' :: rest | '0' :: 'B' :: rest => readBased .binary rest
  | '.' :: rest => readFraction rest
  | cs => readDigits cs

def startsHere : List Char → Bool
  | '.' :: c :: _ | c :: _ => c.isDigit
  | [] => false

end Numeral
end Expression
end Storyboard
