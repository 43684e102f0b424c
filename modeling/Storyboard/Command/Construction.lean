import Storyboard.Command.Basic
import Storyboard.Argument.Reading

/-!
# Building commands

A command is built in one of four ways.  `construct` takes values of the right shapes, `static` and
`dynamic` take arguments for the values, and `ofArguments` finds out from the whole list of
arguments which of the two is meant.  All of them end in `construct`, which makes sure that there is
a value at each end and that the flags have an end.
-/

namespace Storyboard

/-- A command with the depth at which it is written first. -/
structure Command.Built where
  command : Command
  depth : Nat

/-- An action from what is known of it, if enough is. -/
def Action.ofParts? {α : Type} (finish : Option Int) (first last : Option α) : Option (Action α) :=
  match finish, first, last with
  | none, some value, spare => some (.hold value spare)
  | some finish, some first, some last => some (.change finish first last)
  | _, _, _ => none

namespace Value

def number? : Value → Option Number
  | .number n => some n
  | _ => none

def vec2? : Value → Option Vec2
  | .vec2 v => some v
  | _ => none

def color? : Value → Option Color
  | .color c => some c
  | _ => none

end Value

namespace Command

/--
The effect of a kind from its second time and its values; a value of another shape is missing.
-/
def effectOf (kind : Kind) (finish : Option Int) (first last : Option Value) :
    Except Error Effect :=
  match kind with
  | .scalar property =>
      match Action.ofParts? finish (first.bind Value.number?) (last.bind Value.number?) with
      | some action => .ok (.scalar property action)
      | none => .error (.valueMissing kind)
  | .vector property =>
      match Action.ofParts? finish (first.bind Value.vec2?) (last.bind Value.vec2?) with
      | some action => .ok (.vector property action)
      | none => .error (.valueMissing kind)
  | .color =>
      match Action.ofParts? finish (first.bind Value.color?) (last.bind Value.color?) with
      | some action => .ok (.color action)
      | none => .error (.valueMissing kind)
  | .flag switch =>
      match finish with
      | some finish => .ok (.flag switch finish)
      | none => .error (.endTimeMissing kind)

/-- Builds a command from its parts.  The depth is looked at first. -/
def construct (kind : Kind) (start : Int) (finish : Option Int) (first last : Option Value)
    (easing : Easing) (depth : Int) : Except Error Built := do
  if depth < 0 then throw (.negativeDepth depth)
  return { command := { start, easing, effect := ← effectOf kind finish first last }
           depth := depth.toNat }

def readTime (kind : Kind) : Argument → Except Error Int
  | .int n => .ok n
  | other => .error (.time kind other)

def readValue (kind : Kind) (a : Argument) : Except Error (Option Value) :=
  match kind, a with
  | _, .none => .ok none
  | .scalar _, a => do return some (.number (← a.toNumber))
  | .vector _, a => do return some (.vec2 (← a.toVec2))
  | .color, .color c => .ok (some (.color c))
  | .color, .tuple [r, g, b] => do
      return some (.color (← Color.ofNumbers (← r.toNumber) (← g.toNumber) (← b.toNumber)))
  | .color, a => .error (.notAColor a)
  | .flag _, _ => .error (.noValue kind)

def static (kind : Kind) (time value : Argument) : Except Error Built := do
  if !kind.hasStaticForm then throw (.noStaticForm kind)
  construct kind (← readTime kind time) none (← readValue kind value) none .linear 0

def dynamic (kind : Kind) (start finish first last : Argument) (easing : Easing) :
    Except Error Built := do
  construct kind (← readTime kind start) (some (← readTime kind finish))
    (← readValue kind first) (← readValue kind last) easing 0

/-! ## Telling the forms apart -/

/-- The value that some arguments spell out by its components, if each of them is a number. -/
def ofComponents (kind : Kind) (parts : List Argument) : Except Error (Option Value) :=
  match kind, parts.map Argument.component? with
  | .scalar _, [some n] => .ok (some (.number n))
  | .vector _, [some x, some y] => .ok (some (.vec2 ⟨x, y⟩))
  | .color, [some r, some g, some b] => do return some (.color (← Color.ofNumbers r g b))
  | _, _ => .ok none

/-- The value that an argument is, if it has the shape of the kind. -/
def wholeValue? (kind : Kind) (a : Argument) : Option Value :=
  match kind, a with
  | .scalar _, .number n => some (.number n)
  | .vector _, .vec2 v => some (.vec2 v)
  | .color, .color c => some (.color c)
  | _, _ => none

/-- The value that some arguments make up, as a whole or by components. -/
def valueOf (kind : Kind) (parts : List Argument) : Except Error (Option Value) :=
  match parts with
  | [a] =>
      match wholeValue? kind a with
      | some v => .ok (some v)
      | none => ofComponents kind parts
  | _ => ofComponents kind parts

/-- The two values that some arguments make up, as wholes or by components. -/
def valuesOf (kind : Kind) (parts : List Argument) : Except Error (Option (Value × Value)) := do
  if let [a, b] := parts then
    if let (some v, some w) := (wholeValue? kind a, wholeValue? kind b) then
      return some (v, w)
  if parts.length = 2 * kind.arity ∧ parts.all (·.component?.isSome) then
    let first ← ofComponents kind (parts.take kind.arity)
    let last ← ofComponents kind (parts.drop kind.arity)
    return first.bind fun v => last.map fun w => (v, w)
  return none

/-- A static command, if the arguments are a time and a value. -/
def asStatic (kind : Kind) : List Argument → Except Error (Option Built)
  | time :: part :: parts => do
      match ← valueOf kind (part :: parts) with
      | some value =>
          return some (← construct kind (← readTime kind time) none (some value) none .linear 0)
      | none => return none
  | _ => .ok none

/-- A dynamic command, if the arguments are two times and two values, or two times for a flag. -/
def asDynamic (kind : Kind) (easing : Easing) : List Argument → Except Error (Option Built)
  | start :: finish :: parts => do
      let build (first last : Option Value) : Except Error Built := do
        construct kind (← readTime kind start) (some (← readTime kind finish)) first last easing 0
      if let .flag _ := kind then
        if parts.isEmpty then return some (← build none none) else return none
      match ← valuesOf kind parts with
      | some (first, last) => return some (← build (some first) (some last))
      | none => return none
  | _ => .ok none

def splitEasing : List Argument → Option Easing × List Argument
  | .easing e :: rest => (some e, rest)
  | args => (none, args)

/--
A command from a list of arguments: a time and a value, or an optional easing, two times and two
values.  Values are given as wholes or by components.  Flags have two times and no values.
-/
def ofArguments (kind : Kind) (args : List Argument) : Except Error Built := do
  let (easing, rest) := splitEasing args
  if easing.isNone ∧ kind.hasStaticForm then
    if let some built ← asStatic kind rest then return built
  if let some built ← asDynamic kind (easing.getD .linear) rest then return built
  throw (.arguments kind rest)

end Command
end Storyboard
