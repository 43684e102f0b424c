import Storyboard.Binary.Integer
import Storyboard.Expression.Basic

/-!
# Constant values

An expression stands for a constant value if it is made of numbers, texts, four names, tuples, sets
and dictionaries.  A number may have a sign, and an imaginary number may be added to another one.
What is in a set, or is a key of a dictionary, must not be able to change.
-/

namespace Storyboard
namespace Expression

inductive Value where
  | simple
  | tuple (items : List Value)
  | set
  | dictionary

inductive ValueFault where
  | notConstant
  /-- The entries of another dictionary are taken over. -/
  | merged
  | notHashable (typeName : String)
  | arithmetic (failure : Binary.Failure)
deriving DecidableEq, Repr

def ValueFault.message : ValueFault → String
  | .notConstant => "malformed node or string"
  | .merged => "malformed node or string: None"
  | .notHashable typeName => s!"unhashable type: '{typeName}'"
  | .arithmetic failure => failure.message

mutual

/-- The name of the type of the first part of a value that can change. -/
def Value.changing? : Value → Option String
  | .simple => none
  | .tuple items => firstChanging? items
  | .set => some "set"
  | .dictionary => some "dict"

def firstChanging? : List Value → Option String
  | [] => none
  | value :: rest =>
      match value.changing? with
      | some typeName => some typeName
      | none => firstChanging? rest

end

def Value.checkFixed (value : Value) : Except ValueFault Unit :=
  match value.changing? with
  | some typeName => .error (.notHashable typeName)
  | none => .ok ()

/-! ## Numbers -/

def Expr.numeral? : Expr → Option Numeral
  | .constant (.numeral numeral) => some numeral
  | _ => none

/-- The numeral that an expression is, apart from a sign. -/
def Expr.signedNumeral? : Expr → Option Numeral
  | .signed operand => operand.numeral?
  | other => other.numeral?

/-- Checks the sum of a number and an imaginary number. -/
def checkSum (left right : Expr) : Except ValueFault Unit :=
  match left.signedNumeral?, right.numeral? with
  | some (.integer kind digits), some .imaginary =>
      match Binary.ofInt .double (Numeral.integer kind digits).value with
      | .ok _ => .ok ()
      | .error failure => .error (.arithmetic failure)
  | some .real, some .imaginary => .ok ()
  | _, _ => .error .notConstant

/-! ## Values -/

mutual

def Expr.value : Expr → Except ValueFault Value
  | .constant _ => .ok .simple
  | .tuple items => do return .tuple (← values items)
  | .set items => do
      checkItems items
      return .set
  | .dictionary entries => do
      checkEntries entries
      return .dictionary
  | .call (.name text) false =>
      if text = "set".toList then .ok .set else .error .notConstant
  | .sum left right => do
      checkSum left right
      return .simple
  | .signed operand => if operand.numeral?.isSome then .ok .simple else .error .notConstant
  | _ => .error .notConstant

def values : List Expr → Except ValueFault (List Value)
  | [] => .ok []
  | item :: rest => do return (← item.value) :: (← values rest)

def checkItems : List Expr → Except ValueFault Unit
  | [] => .ok ()
  | item :: rest => do
      (← item.value).checkFixed
      checkItems rest

def checkEntries : List Entry → Except ValueFault Unit
  | [] => .ok ()
  | .pair key value :: rest => do
      let key ← key.value
      let _ ← value.value
      key.checkFixed
      checkEntries rest
  | .merged _ :: _ => .error .merged

end

end Expression
end Storyboard
