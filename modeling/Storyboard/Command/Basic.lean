import Storyboard.Command.Kind
import Storyboard.Vec2
import Storyboard.Color
import Storyboard.Easing.Basic

/-!
# Commands and their lines

A command sets a property of a sprite: for good at one time, or from one value to another between
two times.  It is written as one line, whose fields are the code of its kind, an easing, two times
and the numbers that make up its values, written in full however long they are.  The spaces in front
of the line are its depth, which is no part of the command: the same command may be written at
another depth later on.
-/

namespace Storyboard

inductive Action (α : Type) where
  /--
  The value holds from a single time on.  Such an action may carry a second value, which is neither
  written nor ever taken.
  -/
  | hold (value : α) (spare : Option α)
  /-- The value goes from the first to the last until a second time, which may also be earlier. -/
  | change (finish : Int) (first last : α)
deriving DecidableEq

inductive Effect where
  | scalar (property : ScalarProperty) (action : Action Number)
  | vector (property : VectorProperty) (action : Action Vec2)
  | color (action : Action Color)
  | flag (switch : Flag) (finish : Int)
deriving DecidableEq

/-- An effect from a time on, with the easing between its values. -/
structure Command where
  start : Int
  easing : Easing
  effect : Effect
deriving DecidableEq

inductive Value where
  | number (n : Number)
  | vec2 (v : Vec2)
  | color (c : Color)
deriving DecidableEq

/-! ## Parts of a command -/

namespace Action

variable {α : Type}

def finish? : Action α → Option Int
  | .hold _ _ => none
  | .change finish _ _ => some finish

def startValue : Action α → α
  | .hold value _ => value
  | .change _ first _ => first

/-- The value at the end, or the second one that an action carries. -/
def endValue? : Action α → Option α
  | .hold _ spare => spare
  | .change _ _ last => some last

def written : Action α → List α
  | .hold value _ => [value]
  | .change _ first last => [first, last]

end Action

namespace Effect

def kind : Effect → Kind
  | .scalar property _ => .scalar property
  | .vector property _ => .vector property
  | .color _ => .color
  | .flag switch _ => .flag switch

def finish? : Effect → Option Int
  | .scalar _ action => action.finish?
  | .vector _ action => action.finish?
  | .color action => action.finish?
  | .flag _ finish => some finish

end Effect

namespace Command

def kind (c : Command) : Kind :=
  c.effect.kind

def isStatic (c : Command) : Bool :=
  c.effect.finish?.isNone

/-- The second time of a command; a static one ends where it starts. -/
def finish (c : Command) : Int :=
  c.effect.finish?.getD c.start

def low (c : Command) : Int :=
  min c.start c.finish

def high (c : Command) : Int :=
  max c.start c.finish

/--
The first time at which a command is no longer active; one of a single time takes up that time.
-/
def stop (c : Command) : Int :=
  if c.high = c.low then c.low + 1 else c.high

def startValue? (c : Command) : Option Value :=
  match c.effect with
  | .scalar _ action => some (.number action.startValue)
  | .vector _ action => some (.vec2 action.startValue)
  | .color action => some (.color action.startValue)
  | .flag _ _ => none

def endValue? (c : Command) : Option Value :=
  match c.effect with
  | .scalar _ action => action.endValue?.map .number
  | .vector _ action => action.endValue?.map .vec2
  | .color action => action.endValue?.map .color
  | .flag _ _ => none

theorem low_lt_stop (c : Command) : c.low < c.stop := by
  unfold stop low high
  split <;> omega

/-! ## The line -/

def vectorFields (v : Vec2) : List String :=
  [v.x.text, v.y.text]

def colorFields (c : Color) : List String :=
  c.channels.map toString

def valueFields (c : Command) : List String :=
  match c.effect with
  | .scalar _ action => action.written.map Number.text
  | .vector _ action => action.written.flatMap vectorFields
  | .color action => action.written.flatMap colorFields
  | .flag switch _ => [switch.letter]

/-- The easing and the times; a static command has the linear easing and a blank second time. -/
def timeFields (c : Command) : List String :=
  match c.effect.finish? with
  | none => [toString Easing.linear.number, toString c.start, ""]
  | some finish => [toString c.easing.number, toString c.start, toString finish]

def fields (c : Command) : List String :=
  c.kind.code :: c.timeFields ++ c.valueFields

/-- The line of a command at a depth: one space more than the depth, and the fields. -/
def line (depth : Nat) (c : Command) : String :=
  String.ofList (List.replicate (depth + 1) ' ') ++ String.intercalate "," c.fields

end Command
end Storyboard
