import Mathlib
import Storyboard.Proofs.Command.Line
import Storyboard.Sprite.Writing

/-!
# Lines and displayed values

What a line says of the values of its command is the text of each of their components.  A static
command shows the components of one value, a dynamic one those of the values at both ends, and a
flag shows its letter, which its kind tells already.  So a line is read back value by value, and of
the commands that a sprite leaves out as repetitions each was of the kind and at the times of the
one that is written.
-/

namespace Storyboard

def Value.texts : Value → List String
  | .number n => [n.text]
  | .vec2 v => [v.x.text, v.y.text]
  | .color c => c.channels.map toString

namespace Command

/-- The displayed components of the value at the start; flags have none. -/
def startTexts (c : Command) : List String :=
  (c.startValue?.map Value.texts).getD []

/-- The displayed components of the value at the end, if there is one. -/
def endTexts (c : Command) : List String :=
  (c.endValue?.map Value.texts).getD []

/-! ## The fields of the values -/

theorem valueFields_of_flag {c : Command} {flag : Flag} (h : c.kind = .flag flag) :
    c.valueFields = [flag.letter] := by
  rcases c with ⟨start, easing, effect⟩
  cases effect with
  | scalar property action => cases h
  | vector property action => cases h
  | color action => cases h
  | flag switch finish =>
      cases h
      rfl

theorem texts_of_flag {c : Command} {flag : Flag} (h : c.kind = .flag flag) :
    c.startTexts = [] ∧ c.endTexts = [] := by
  rcases c with ⟨start, easing, effect⟩
  cases effect with
  | scalar property action => cases h
  | vector property action => cases h
  | color action => cases h
  | flag switch finish => exact ⟨rfl, rfl⟩

theorem length_startTexts (c : Command) : c.startTexts.length = c.kind.arity := by
  rcases c with ⟨start, easing, effect⟩
  cases effect with
  | scalar property action => rfl
  | vector property action => rfl
  | color action => rfl
  | flag switch finish => rfl

/-- A line shows the value at the start and, of a dynamic command, the one at the end. -/
theorem valueFields_of_not_flag {c : Command} (h : ∀ flag, c.kind ≠ .flag flag) :
    c.valueFields = c.startTexts ++ if c.isStatic then [] else c.endTexts := by
  rcases c with ⟨start, easing, effect⟩
  cases effect with
  | scalar property action =>
      cases action with
      | hold value spare => rfl
      | change finish first last => rfl
  | vector property action =>
      cases action with
      | hold value spare => rfl
      | change finish first last => rfl
  | color action =>
      cases action with
      | hold value spare => rfl
      | change finish first last => rfl
  | flag switch finish => exact absurd rfl (h switch)

theorem valueFields_eq_iff {c c' : Command} (hkind : c.kind = c'.kind)
    (hstatic : c.isStatic = c'.isStatic) :
    c.valueFields = c'.valueFields ↔
      c.startTexts = c'.startTexts ∧ (c.isStatic = false → c.endTexts = c'.endTexts) := by
  by_cases hflag : ∃ flag, c.kind = .flag flag
  · obtain ⟨flag, hflag⟩ := hflag
    obtain ⟨hstart, hend⟩ := texts_of_flag hflag
    obtain ⟨hstart', hend'⟩ := texts_of_flag (hkind.symm.trans hflag)
    rw [valueFields_of_flag hflag, valueFields_of_flag (hkind.symm.trans hflag), hstart, hstart',
      hend, hend']
    simp
  · have hvalued : ∀ flag, c.kind ≠ .flag flag := fun flag h => hflag ⟨flag, h⟩
    have hlength : c.startTexts.length = c'.startTexts.length := by
      rw [length_startTexts, length_startTexts, hkind]
    rw [valueFields_of_not_flag hvalued, valueFields_of_not_flag (hkind ▸ hvalued), ← hstatic]
    cases c.isStatic with
    | true => simp
    | false =>
        constructor
        · intro h
          obtain ⟨hstart, hend⟩ := List.append_inj h hlength
          exact ⟨hstart, fun _ => hend⟩
        · rintro ⟨hstart, hend⟩
          rw [hstart, hend rfl]

/-! ## The times -/

theorem finish?_eq_iff {c c' : Command} (hstart : c.start = c'.start) :
    c.effect.finish? = c'.effect.finish? ↔
      c.isStatic = c'.isStatic ∧ (c.isStatic = false → c.finish = c'.finish) := by
  unfold isStatic finish
  rw [hstart]
  cases c.effect.finish? with
  | none =>
      cases c'.effect.finish? with
      | none => simp
      | some finish' => simp
  | some finish =>
      cases c'.effect.finish? with
      | none => simp
      | some finish' => simp

theorem isStatic_eq_false_iff {c : Command} : c.isStatic = false ↔ c.effect.finish? ≠ none := by
  unfold isStatic
  cases c.effect.finish? with
  | none => simp
  | some finish => simp

theorem Alike.finish_eq {c c' : Command} (h : c.Alike c') : c.finish = c'.finish := by
  rw [Command.finish, Command.finish, h.start, h.finish]

theorem alike_iff {c c' : Command} :
    c.Alike c' ↔
      c.kind = c'.kind ∧ c.isStatic = c'.isStatic ∧ c.start = c'.start ∧
        (c.isStatic = false → c.finish = c'.finish ∧ c.easing = c'.easing) ∧
        c.startTexts = c'.startTexts ∧ (c.isStatic = false → c.endTexts = c'.endTexts) := by
  constructor
  · intro h
    obtain ⟨hstatic, hfinish⟩ := (finish?_eq_iff h.start).mp h.finish
    obtain ⟨hfirst, hlast⟩ := (valueFields_eq_iff h.kind hstatic).mp h.values
    refine ⟨h.kind, hstatic, h.start, ?_, hfirst, hlast⟩
    intro hdynamic
    exact ⟨hfinish hdynamic, h.easing (isStatic_eq_false_iff.mp hdynamic)⟩
  · rintro ⟨hkind, hstatic, hstart, hdynamic, hfirst, hlast⟩
    exact
      { kind := hkind
        start := hstart
        finish := (finish?_eq_iff hstart).mpr ⟨hstatic, fun h => (hdynamic h).1⟩
        easing := fun h => (hdynamic (isStatic_eq_false_iff.mpr h)).2
        values := (valueFields_eq_iff hkind hstatic).mpr ⟨hfirst, hlast⟩ }

end Command

/-! ## Repetitions -/

theorem Sprite.exists_mem_events (depths : Depths) (s : Sprite) (kind : Kind) {cue : Cue}
    (h : cue ∈ (s.timeline kind).values) :
    ∃ kept ∈ s.events depths kind, kept.line depths = cue.line depths := by
  have hpair : (cue.line depths, cue) ∈
      (s.timeline kind).values.map fun cue => (cue.line depths, cue) := List.mem_map_of_mem h
  obtain ⟨⟨line, kept⟩, hkept, hline⟩ := exists_mem_firstsBy Prod.fst hpair
  obtain ⟨source, -, hsource⟩ := List.mem_map.mp (mem_of_mem_firstsBy hkept)
  cases hsource
  exact ⟨kept, List.mem_map_of_mem hkept, hline⟩

/-! ## Main result -/

/--
Two lines are equal exactly if depth, kind, times, easing and all displayed components are, where a
static command has neither a second time nor an easing.  A command that is left out as a repetition
is of the kind and has the times of one that is written.
-/
theorem Command.line_shows_exactly :
    (∀ (depth depth' : Nat) (c c' : Command),
      c.line depth = c'.line depth' ↔
        c.kind = c'.kind ∧ depth = depth' ∧ c.isStatic = c'.isStatic ∧ c.start = c'.start ∧
          (c.isStatic = false → c.finish = c'.finish ∧ c.easing = c'.easing) ∧
          c.startTexts = c'.startTexts ∧ (c.isStatic = false → c.endTexts = c'.endTexts)) ∧
    (∀ (depths : Depths) (s : Sprite) (kind : Kind), ∀ cue ∈ (s.timeline kind).values,
      ∃ kept ∈ s.events depths kind, kept.line depths = cue.line depths ∧
        kept.command.kind = cue.command.kind ∧ kept.command.start = cue.command.start ∧
        kept.command.finish = cue.command.finish) := by
  constructor
  · intro depth depth' c c'
    rw [line_eq_line_iff, alike_iff]
    exact and_left_comm
  · intro depths s kind cue hcue
    obtain ⟨kept, hkept, hline⟩ := s.exists_mem_events depths kind hcue
    have halike := Cue.alike_of_line_eq hline
    exact ⟨kept, hkept, hline, halike.kind, halike.start, halike.finish_eq⟩

end Storyboard
