import Mathlib
import Storyboard.Command.Construction
import Storyboard.Proofs.Failing

/-!
# The forms of a command

A command is given by a list of arguments in one of a few forms.  `Reads` says which lists these are
and what they mean: a time and a value, or two times and two values, perhaps behind an easing.  A
value is one argument of the right type or as many numbers as the kind has components.

Reading a list finds exactly these forms.  No list can be read in two ways, and a list that has none
of the forms is refused for its shape, for a time that is no integer, or for the channel of a color
that is no finite number.
-/

namespace Storyboard

/-! ## Values -/

/-- The number that an argument is as a component of a value. -/
inductive Argument.IsComponent : Argument → Number → Prop where
  | int (n : Int) : IsComponent (.int n) (.int n)
  | float (x : Double) : IsComponent (.float x) (.ofDouble x)
  | number (n : Number) : IsComponent (.number n) n

theorem Argument.component?_eq_some_iff {a : Argument} {n : Number} :
    a.component? = some n ↔ a.IsComponent n := by
  constructor
  · intro h
    cases a with
    | int m =>
        cases h
        exact .int _
    | float x =>
        cases h
        exact .float _
    | number m =>
        cases h
        exact .number _
    | _ => cases h
  · intro h
    cases h with
    | int m => rfl
    | float x => rfl
    | number m => rfl

/-- A single-precision number that lies next to no integer, and how that is worded. -/
inductive Number.OffScale : Number → Binary.Failure → Prop where
  | nan : OffScale (.float .nan) .nanToInteger
  | infinite (negative : Bool) : OffScale (.float (.infinite negative)) .infinityToInteger

theorem Number.offScale_of_roundToInt {n : Number} {failure : Binary.Failure}
    (h : n.roundToInt = .error failure) : n.OffScale failure := by
  cases n with
  | int m => cases h
  | float x =>
      cases x with
      | nan =>
          cases h
          exact .nan
      | infinite negative =>
          cases h
          exact .infinite negative
      | finite negative significand exponent canonical => cases h

namespace Command

/-- An argument that is a value of a kind by itself. -/
inductive Whole : Kind → Argument → Value → Prop where
  | scalar (property : ScalarProperty) (n : Number) :
      Whole (.scalar property) (.number n) (.number n)
  | vector (property : VectorProperty) (v : Vec2) : Whole (.vector property) (.vec2 v) (.vec2 v)
  | color (c : Color) : Whole .color (.color c) (.color c)

/--
Arguments that are the components of a value of a kind.  Those of a color are rounded to integers,
which only finite numbers are near to.
-/
inductive Spelled : Kind → List Argument → Value → Prop where
  | scalar {property : ScalarProperty} {a : Argument} {n : Number} (ha : a.IsComponent n) :
      Spelled (.scalar property) [a] (.number n)
  | vector {property : VectorProperty} {a b : Argument} {x y : Number} (ha : a.IsComponent x)
      (hb : b.IsComponent y) : Spelled (.vector property) [a, b] (.vec2 ⟨x, y⟩)
  | color {a b c : Argument} {x y z : Number} {red green blue : Int} (ha : a.IsComponent x)
      (hb : b.IsComponent y) (hc : c.IsComponent z) (hred : x.roundToInt = .ok red)
      (hgreen : y.roundToInt = .ok green) (hblue : z.roundToInt = .ok blue) :
      Spelled .color [a, b, c] (.color (.ofInts red green blue))

/-- Arguments that make up one value of a kind. -/
inductive Group (kind : Kind) : List Argument → Value → Prop where
  | whole {a : Argument} {v : Value} (h : Whole kind a v) : Group kind [a] v
  | spelled {parts : List Argument} {v : Value} (h : Spelled kind parts v) : Group kind parts v

/-- Arguments that make up the two values of a kind, which flags do not have. -/
inductive Pair : Kind → List Argument → Option Value → Option Value → Prop where
  | wholes {kind : Kind} {a b : Argument} {v w : Value} (ha : Whole kind a v)
      (hb : Whole kind b w) : Pair kind [a, b] (some v) (some w)
  | spelled {kind : Kind} {front rest : List Argument} {v w : Value} (hfront : Spelled kind front v)
      (hrest : Spelled kind rest w) : Pair kind (front ++ rest) (some v) (some w)
  | flag (switch : Flag) : Pair (.flag switch) [] none none

/-! ## Forms -/

/-- What a list of arguments asks for. -/
inductive Form where
  | static (time : Int) (value : Value)
  | dynamic (easing : Easing) (start finish : Int) (first last : Option Value)

/-- The arguments in front of the times, and the easing that they name. -/
inductive Front : List Argument → Easing → Prop where
  | absent : Front [] .linear
  | given (e : Easing) : Front [.easing e] e

/-- The lists of arguments that say something, and what they say. -/
inductive Reads (kind : Kind) : List Argument → Form → Prop where
  | static {time : Int} {parts : List Argument} {value : Value} (h : Group kind parts value) :
      Reads kind (.int time :: parts) (.static time value)
  | dynamic {front parts : List Argument} {easing : Easing} {start finish : Int}
      {first last : Option Value} (hfront : Front front easing) (h : Pair kind parts first last) :
      Reads kind (front ++ .int start :: .int finish :: parts)
        (.dynamic easing start finish first last)

structure Built.Has (built : Built) (kind : Kind) (isStatic : Bool) (start finish : Int)
    (easing : Easing) (first last : Option Value) : Prop where
  kind : built.command.kind = kind
  isStatic : built.command.isStatic = isStatic
  start : built.command.start = start
  finish : built.command.finish = finish
  easing : built.command.easing = easing
  first : built.command.startValue? = first
  last : built.command.endValue? = last
  depth : built.depth = 0

/-- A command is what a form asks for; a static one has the linear easing. -/
def Form.Describes (kind : Kind) (built : Built) : Form → Prop
  | .static time value => built.Has kind true time time .linear (some value) none
  | .dynamic easing start finish first last =>
      built.Has kind false start finish easing first last

theorem Form.Describes.unique {kind : Kind} {built : Built} {form form' : Form}
    (h : form.Describes kind built) (h' : form'.Describes kind built) : form = form' := by
  cases form with
  | static time value =>
      cases form' with
      | static time' value' =>
          have htime : time = time' := h.start.symm.trans h'.start
          have hvalue : value = value' := Option.some.inj (h.first.symm.trans h'.first)
          rw [htime, hvalue]
      | dynamic easing' start' finish' first' last' =>
          cases h.isStatic.symm.trans h'.isStatic
  | dynamic easing start finish first last =>
      cases form' with
      | static time' value' => cases h.isStatic.symm.trans h'.isStatic
      | dynamic easing' start' finish' first' last' =>
          have heasing : easing = easing' := h.easing.symm.trans h'.easing
          have hstart : start = start' := h.start.symm.trans h'.start
          have hfinish : finish = finish' := h.finish.symm.trans h'.finish
          have hfirst : first = first' := h.first.symm.trans h'.first
          have hlast : last = last' := h.last.symm.trans h'.last
          rw [heasing, hstart, hfinish, hfirst, hlast]

/-! ## Building -/

/-- A value is of the type that a kind has. -/
inductive Fits : Kind → Value → Prop where
  | scalar (property : ScalarProperty) (n : Number) : Fits (.scalar property) (.number n)
  | vector (property : VectorProperty) (v : Vec2) : Fits (.vector property) (.vec2 v)
  | color (c : Color) : Fits .color (.color c)

section Values

variable {kind : Kind} {a : Argument} {parts : List Argument} {v w : Value}

theorem Whole.fits (h : Whole kind a v) : Fits kind v := by
  cases h with
  | scalar property n => exact .scalar property n
  | vector property v => exact .vector property v
  | color c => exact .color c

theorem Spelled.fits (h : Spelled kind parts v) : Fits kind v := by
  cases h with
  | scalar ha => exact .scalar _ _
  | vector ha hb => exact .vector _ _
  | color ha hb hc hred hgreen hblue => exact .color _

theorem Group.fits (h : Group kind parts v) : Fits kind v := by
  cases h with
  | whole h => exact h.fits
  | spelled h => exact h.fits

theorem Fits.hasStaticForm (h : Fits kind v) : kind.hasStaticForm = true := by
  cases h with
  | scalar property n => rfl
  | vector property v => rfl
  | color c => rfl

theorem Fits.construct_static (h : Fits kind v) (time : Int) :
    ∃ built, construct kind time none (some v) none .linear 0 = .ok built ∧
      (Form.static time v).Describes kind built := by
  cases h with
  | scalar property n => exact ⟨_, rfl, rfl, rfl, rfl, rfl, rfl, rfl, rfl, rfl⟩
  | vector property v => exact ⟨_, rfl, rfl, rfl, rfl, rfl, rfl, rfl, rfl, rfl⟩
  | color c => exact ⟨_, rfl, rfl, rfl, rfl, rfl, rfl, rfl, rfl, rfl⟩

theorem Fits.construct_dynamic (h : Fits kind v) (h' : Fits kind w) (easing : Easing)
    (start finish : Int) :
    ∃ built, construct kind start (some finish) (some v) (some w) easing 0 = .ok built ∧
      (Form.dynamic easing start finish (some v) (some w)).Describes kind built := by
  cases h with
  | scalar property n =>
      cases h' with
      | scalar property n' => exact ⟨_, rfl, rfl, rfl, rfl, rfl, rfl, rfl, rfl, rfl⟩
  | vector property v =>
      cases h' with
      | vector property v' => exact ⟨_, rfl, rfl, rfl, rfl, rfl, rfl, rfl, rfl, rfl⟩
  | color c =>
      cases h' with
      | color c' => exact ⟨_, rfl, rfl, rfl, rfl, rfl, rfl, rfl, rfl, rfl⟩

theorem construct_flag (switch : Flag) (easing : Easing) (start finish : Int) :
    ∃ built, construct (.flag switch) start (some finish) none none easing 0 = .ok built ∧
      (Form.dynamic easing start finish none none).Describes (.flag switch) built :=
  ⟨_, rfl, rfl, rfl, rfl, rfl, rfl, rfl, rfl, rfl⟩

end Values

end Command
end Storyboard
