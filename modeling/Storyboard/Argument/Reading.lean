import Storyboard.Error
import Storyboard.Easing.Lookup
import Storyboard.Easing.Curve

/-!
# Reading arguments as values

Truth values are never numbers here, except as the channels of a color and as the progress of an
easing.
-/

namespace Storyboard
namespace Argument

def toNumber : Argument → Except Error Number
  | .int n => .ok (.int n)
  | .float x => .ok (.ofDouble x)
  | .number n => .ok n
  | other => .error (.notANumber other.typeName)

def toPlainNumber : Argument → Except Error Number
  | .number _ => .error (.notANumber "Number")
  | other => other.toNumber

/-- Reads a vector, which may be given as a pair of numbers. -/
def toVec2 : Argument → Except Error Vec2
  | .vec2 v => .ok v
  | .tuple [x, y] => do return ⟨← x.toNumber, ← y.toNumber⟩
  | other => .error (.notAVector other)

/-- Reads the channel of a color, which is rounded but may still lie out of range. -/
def toChannel : Argument → Except Error Int
  | .int n => .ok n
  | .float x => x.roundToInt
  | .bool b => .ok (if b then 1 else 0)
  | other => .error (.notRoundable other.typeName)

def toColor (r g b : Argument) : Except Error Color := do
  return .ofInts (← r.toChannel) (← g.toChannel) (← b.toChannel)

/-- The number that an argument is as one of several components, if it is one. -/
def component? : Argument → Option Number
  | .int n => some (.int n)
  | .float x => some (.ofDouble x)
  | .number n => some n
  | _ => Option.none

/-- The number of an easing, if an argument is an integer. -/
def toEasing? : Argument → Except Error (Option Easing)
  | .int n => .ok (Easing.ofNumber? n)
  | other => .error (.easingNumber other)

/-- The different arguments among some, none of which may have a part that can change. -/
def distinct (args : List Argument) : Except Error (List Argument) :=
  match firstChangeable? args with
  | some part => .error (.notHashable part.typeName)
  | Option.none => .ok (firsts args)

theorem toNumber_of_component? {a : Argument} {n : Number} (h : a.component? = some n) :
    a.toNumber = .ok n := by
  cases a <;> simp_all [component?, toNumber]

end Argument

def Easing.calculateArgument (e : Easing) : Argument → Except Error Double
  | .int n => do return ← e.calculateInt n
  | .bool b => do return ← e.calculateInt (if b then 1 else 0)
  | .float x => do return ← e.calculate x
  | other => .error (.notComparable other.typeName)

/-- The eased value at a time, from the lower to the higher of two arguments. -/
def Easing.easeArguments (e : Easing) (time start finish : Int) (low high : Argument) :
    Except Error (Option Double) := do
  let low ← (← low.toNumber).toDouble
  let high ← (← high.toNumber).toDouble
  e.ease time start finish low high

end Storyboard
