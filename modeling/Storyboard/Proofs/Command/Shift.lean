import Mathlib
import Storyboard.Command.Construction
import Storyboard.Command.Sampling
import Storyboard.Proofs.Command.Line

/-!
# Commands at other times

A command is shifted by adding a number to its times.  Its value is then the same, later by that
number, because only differences of times enter the progress.  A shifted line is another text, and
may even have another length; but two commands have one line exactly if they have one when both are
shifted.
-/

namespace Storyboard

/-! ## Shifting -/

def Action.shift {α : Type} (d : Int) : Action α → Action α
  | .hold value spare => .hold value spare
  | .change finish first last => .change (finish + d) first last

def Effect.shift (d : Int) : Effect → Effect
  | .scalar property action => .scalar property (action.shift d)
  | .vector property action => .vector property (action.shift d)
  | .color action => .color (action.shift d)
  | .flag switch finish => .flag switch (finish + d)

def Command.shift (d : Int) (c : Command) : Command :=
  { start := c.start + d, easing := c.easing, effect := c.effect.shift d }

def Command.Built.shift (d : Int) (built : Command.Built) : Command.Built :=
  { command := built.command.shift d, depth := built.depth }

def Cue.shift (d : Int) (cue : Cue) : Cue :=
  ⟨cue.id, cue.command.shift d⟩

@[simp] theorem Cue.command_shift (d : Int) (cue : Cue) :
    (cue.shift d).command = cue.command.shift d :=
  rfl

/-! ## Kinds and times -/

namespace Effect

@[simp] theorem kind_shift (d : Int) (e : Effect) : (e.shift d).kind = e.kind := by
  cases e with
  | scalar property action => rfl
  | vector property action => rfl
  | color action => rfl
  | flag switch finish => rfl

end Effect

theorem Action.finish?_shift {α : Type} (d : Int) (a : Action α) :
    (a.shift d).finish? = a.finish?.map (· + d) := by
  cases a with
  | hold value spare => rfl
  | change finish first last => rfl

theorem Action.written_shift {α : Type} (d : Int) (a : Action α) :
    (a.shift d).written = a.written := by
  cases a with
  | hold value spare => rfl
  | change finish first last => rfl

theorem Effect.finish?_shift (d : Int) (e : Effect) :
    (e.shift d).finish? = e.finish?.map (· + d) := by
  cases e with
  | scalar property action => exact action.finish?_shift d
  | vector property action => exact action.finish?_shift d
  | color action => exact action.finish?_shift d
  | flag switch finish => rfl

namespace Command

@[simp] theorem kind_shift (d : Int) (c : Command) : (c.shift d).kind = c.kind :=
  c.effect.kind_shift d

theorem finish_shift (d : Int) (c : Command) : (c.shift d).finish = c.finish + d := by
  unfold finish shift
  rw [c.effect.finish?_shift]
  cases c.effect.finish? with
  | none => rfl
  | some finish => rfl

@[simp] theorem low_shift (d : Int) (c : Command) : (c.shift d).low = c.low + d := by
  unfold low
  rw [finish_shift]
  exact min_add_add_right c.start c.finish d

@[simp] theorem high_shift (d : Int) (c : Command) : (c.shift d).high = c.high + d := by
  unfold high
  rw [finish_shift]
  exact max_add_add_right c.start c.finish d

@[simp] theorem stop_shift (d : Int) (c : Command) : (c.shift d).stop = c.stop + d := by
  unfold stop
  rw [low_shift, high_shift]
  by_cases h : c.high = c.low
  · simp only [h, if_true]
    omega
  · have hne : c.high + d ≠ c.low + d := fun heq => h (add_right_cancel heq)
    simp only [if_neg h, if_neg hne]

/-! ## Lines -/

theorem valueFields_shift (d : Int) (c : Command) : (c.shift d).valueFields = c.valueFields := by
  rcases c with ⟨start, easing, effect⟩
  cases effect with
  | scalar property action => exact congrArg (List.map Number.text) (action.written_shift d)
  | vector property action => exact congrArg (List.flatMap vectorFields) (action.written_shift d)
  | color action => exact congrArg (List.flatMap colorFields) (action.written_shift d)
  | flag switch finish => rfl

theorem finish?_shift_eq_iff (d : Int) (c c' : Command) :
    (c.shift d).effect.finish? = (c'.shift d).effect.finish? ↔
      c.effect.finish? = c'.effect.finish? := by
  unfold shift
  rw [c.effect.finish?_shift, c'.effect.finish?_shift]
  exact (Option.map_injective (add_left_injective d)).eq_iff

theorem alike_shift_iff (d : Int) (c c' : Command) :
    (c.shift d).Alike (c'.shift d) ↔ c.Alike c' := by
  have hnone : (c.shift d).effect.finish? ≠ none ↔ c.effect.finish? ≠ none := by
    unfold shift
    rw [c.effect.finish?_shift, ne_eq, Option.map_eq_none_iff]
  constructor
  · rintro ⟨hkind, hstart, hfinish, heasing, hvalues⟩
    rw [kind_shift, kind_shift] at hkind
    rw [valueFields_shift, valueFields_shift] at hvalues
    exact
      { kind := hkind
        start := add_right_cancel hstart
        finish := (finish?_shift_eq_iff d c c').mp hfinish
        easing := fun h => heasing (hnone.mpr h)
        values := hvalues }
  · rintro ⟨hkind, hstart, hfinish, heasing, hvalues⟩
    exact
      { kind := by rw [kind_shift, kind_shift, hkind]
        start := congrArg (· + d) hstart
        finish := (finish?_shift_eq_iff d c c').mpr hfinish
        easing := fun h => heasing (hnone.mp h)
        values := by rw [valueFields_shift, valueFields_shift, hvalues] }

end Command

/-- Shifting keeps equal lines equal and different lines different. -/
theorem Cue.line_shift_eq_iff (depths : Depths) (d : Int) (cue cue' : Cue) :
    (cue.shift d).line depths = (cue'.shift d).line depths ↔
      cue.line depths = cue'.line depths := by
  -- Shifted lines have other digits, so they are compared by what they show.
  unfold line
  rw [Command.line_eq_line_iff, Command.line_eq_line_iff, command_shift, command_shift,
    Command.alike_shift_iff]
  rfl

/-! ## Values -/

theorem Action.moment_shift {α : Type} (d start : Int) (easing : Easing) (time : Int)
    (a : Action α) :
    (a.shift d).moment (start + d) easing (time + d) = a.moment start easing time := by
  cases a with
  | hold value spare => rfl
  | change finish first last =>
      simp only [shift, moment, add_le_add_iff_right, add_sub_add_right_eq_sub]

theorem Command.sample_shift (d : Int) (c : Command) (time : Int) :
    (c.shift d).sample (time + d) = c.sample time := by
  rcases c with ⟨start, easing, effect⟩
  unfold Command.sample Command.shift
  cases effect with
  | scalar property action => simp only [Effect.shift, Action.moment_shift]
  | vector property action => simp only [Effect.shift, Action.moment_shift]
  | color action => simp only [Effect.shift, Action.moment_shift]
  | flag switch finish => rfl

end Storyboard
