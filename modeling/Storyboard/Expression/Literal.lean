import Storyboard.Text.CharacterName
import Storyboard.Expression.Token

/-!
# Text literals

A backslash in a text may start an escape, which stands for a character: by its code in base
sixteen, or by its name.  Bytes are written in ASCII.  Faults are reported by their positions in the
text, where any character that is not ASCII is written as an escape with its code.
-/

namespace Storyboard
namespace Expression

/-! ## Positions -/

def isAscii (c : Char) : Bool :=
  c.toNat < 128

/-- The length of a text if everything that is not ASCII, or behind a lone backslash, is escaped. -/
def spelledLength : List Char → Nat
  | [] => 0
  | '\\' :: c :: rest => (if isAscii c then 2 else 16) + spelledLength rest
  | '\\' :: [] => 6
  | c :: rest => (if isAscii c then 1 else 10) + spelledLength rest

/-! ## Escapes -/

def isHexDigit (c : Char) : Bool :=
  NumeralKind.hexadecimal.isDigit c

/-- The digits of the code behind a letter. -/
def codeDigits? : Char → Option Nat
  | 'x' => some 2
  | 'u' => some 4
  | 'U' => some 8
  | _ => none

/-- The greatest code of a character. -/
def maxCode : Nat := 0x10FFFF

/-- What is wrong with the code behind a letter at some position, and the last position of it. -/
def codeFault? (position : Nat) (letter : Char) (count : Nat) (rest : List Char) :
    Option LiteralFault :=
  let digits := (rest.take count).takeWhile isHexDigit
  let last := position + 1 + digits.length
  if digits.length < count then some (.escape position last (.truncated letter))
  else if maxCode < (Numeral.integer .hexadecimal digits).value then
    some (.escape position last .noCharacter)
  else none

/-- What is wrong with the name behind an escape at some position. -/
def nameFault? (position : Nat) : List Char → Option LiteralFault
  | '{' :: rest =>
      let name := rest.takeWhile (· ≠ '}')
      let length := spelledLength rest
      let after := spelledLength (rest.drop name.length)
      if after = 0 then some (.escape position (position + 2 + length) .malformedName)
      else if name.isEmpty then some (.escape position (position + 2) .malformedName)
      else if Text.isCharacterName name then none
      else some (.escape position (position + 3 + (length - after)) .unknownName)
  | _ => some (.escape position (position + 1) .malformedName)

/-- The first fault among the escapes of a text, which starts at some position. -/
def escapeFault? (position : Nat) : List Char → Option LiteralFault
  | [] => none
  | '\\' :: c :: rest =>
      let here :=
        if c = 'N' then nameFault? position rest
        else
          match codeDigits? c with
          | some count => codeFault? position c count rest
          | none => none
      match here with
      | some fault => some fault
      | none => escapeFault? (position + spelledLength ['\\', c]) rest
  | c :: rest => escapeFault? (position + spelledLength [c]) rest

/-- The first fault among the escapes of bytes. -/
def byteFault? (position : Nat) : List Char → Option LiteralFault
  | [] => none
  | '\\' :: c :: rest =>
      if c = 'x' ∧ ((rest.take 2).takeWhile isHexDigit).length < 2 then
        some (.byteEscape position)
      else byteFault? (position + 2) rest
  | _ :: rest => byteFault? (position + 1) rest

/-- What is wrong with a text literal on its own; a formatted text is looked at piece by piece. -/
def TextLiteral.fault? (literal : TextLiteral) : Option LiteralFault :=
  if literal.isFormatted then none
  else if literal.isBytes then
    if !literal.body.all isAscii then some .notAscii
    else if literal.isRaw then none
    else byteFault? 0 literal.body
  else if literal.isRaw then none
  else escapeFault? 0 literal.body

example : escapeFault? 0 "\\x".toList = some (.escape 0 1 (.truncated 'x')) := by decide
example : escapeFault? 0 "é\\u12".toList = some (.escape 10 13 (.truncated 'u')) := by decide
example : escapeFault? 0 "\\N\x7b".toList = some (.escape 0 2 .malformedName) := by decide
example : byteFault? 0 "a\\x1".toList = some (.byteEscape 1) := by decide

end Expression
end Storyboard
