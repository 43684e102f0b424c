import Mathlib
import Storyboard.Board.Call
import Storyboard.Proofs.Sprite.Lifetime
import Storyboard.Proofs.Sprite.Sampling

/-!
# What a refused call leaves behind

A sprite refuses to add what is no command, and it refuses every command while its depth for new
commands is negative.  The board is then as it was before, but for one thing: a command that is
refused for the depth has already been counted in the span of the sprite.  So nothing that is
written changes, and the sprite has new states only at times that its commands never reach.
-/

namespace Storyboard

/-! ## Sprites with another span -/

namespace Sprite

def withSpan (s : Sprite) (span : Option Span) : Sprite :=
  { s with span }

/-- The sprite with a command counted in its span. -/
def widened (s : Sprite) (command : Command) : Sprite :=
  s.withSpan (some (Span.widen s.span command.low command.high))

variable {s : Sprite} {span : Option Span} {time : Int}

theorem stateAt_withSpan (h : s.Covers time ↔ (s.withSpan span).Covers time) (depths : Depths) :
    (s.withSpan span).stateAt depths time = s.stateAt depths time := by
  have halike : SampledAlike depths depths s (s.withSpan span) time time :=
    ⟨rfl, fun _ => rfl, fun _ => rfl⟩
  exact halike.stateAt_eq_of_covers h

theorem Covers.widen (h : s.Covers time) (command : Command) :
    (s.widened command).Covers time := by
  obtain ⟨span, hspan, hfirst, hlast⟩ := h
  refine ⟨_, rfl, ?_⟩
  rw [hspan]
  constructor
  · exact (min_le_left _ _).trans hfirst
  · exact hlast.trans (le_max_left _ _)

end Sprite

namespace Board

variable {b : Board} {i : Nat} {s : Sprite} {c : Call} {command : Command}

def withSprite (b : Board) (i : Nat) (s : Sprite) : Board :=
  { b with sprites := b.sprites.setIfInBounds i s }

def Call.command? (b : Board) : Call → Option Command
  | .new kind args => (Command.ofArguments kind args).toOption.map Command.Built.command
  | .given id => b.commands[id]?
  | .other _ => none

/-! ## Refused commands -/

theorem attach_of_neg (hs : b.sprites[i]? = some s) (hdepth : s.currentDepth < 0) {id : Nat}
    {cue : Cue} (hcue : b.cue? id = some cue) :
    b.attach i id =
      (b.withSprite i (s.widened cue.command), .error (.negativeDepth s.currentDepth)) := by
  simp only [attach, hs, hcue, Sprite.add_of_neg hdepth]
  rfl

theorem issue_of_neg (hs : b.sprites[i]? = some s) (hdepth : s.currentDepth < 0)
    (built : Command.Built) :
    b.issue i built =
      (b.withSprite i (s.widened built.command), .error (.negativeDepth s.currentDepth)) := by
  have hnext : (b.newCommand built).sprites[i]? = some s := hs
  simp only [issue, attach_of_neg hnext hdepth (b.cue?_newCommand built)]
  rfl

theorem call_of_neg (hs : b.sprites[i]? = some s) (hdepth : s.currentDepth < 0)
    (hcommand : c.command? b = some command) :
    b.call i c =
      (b.withSprite i (s.widened command), .error (.negativeDepth s.currentDepth)) := by
  cases c with
  | new kind args =>
      cases hbuilt : Command.ofArguments kind args with
      | error e =>
          simp only [Call.command?, hbuilt] at hcommand
          cases hcommand
      | ok built =>
          simp only [Call.command?, hbuilt] at hcommand
          cases hcommand
          simp only [call, hbuilt, issue_of_neg hs hdepth built]
  | given id =>
      have hcue : b.cue? id = some ⟨id, command⟩ := congrArg (Option.map (Cue.mk id)) hcommand
      rw [call, attach_of_neg hs hdepth hcue]
  | other value => cases hcommand

theorem call_answer_of_nonneg (hs : b.sprites[i]? = some s) (hdepth : 0 ≤ s.currentDepth)
    (hcommand : c.command? b = some command) : (b.call i c).2 = .ok () := by
  cases c with
  | new kind args =>
      cases hbuilt : Command.ofArguments kind args with
      | error e =>
          simp only [Call.command?, hbuilt] at hcommand
          cases hcommand
      | ok built =>
          simp only [call, hbuilt]
          exact issue_answer_of_nonneg hs hdepth built
  | given id => exact attach_answer_of_nonneg hs hdepth id
  | other value => cases hcommand

theorem call_of_command?_eq_none (h : c.command? b = none) : (b.call i c).1 = b := by
  cases c with
  | new kind args =>
      cases hbuilt : Command.ofArguments kind args with
      | error e => simp only [call, hbuilt]
      | ok built =>
          simp only [Call.command?, hbuilt] at h
          cases h
  | given id =>
      have hcue : b.cue? id = none := congrArg (Option.map (Cue.mk id)) h
      cases hs : b.sprites[i]? with
      | none => simp only [call, attach, hcue, hs]
      | some s => simp only [call, attach, hcue, hs]
  | other value => rfl

/-- A call that is refused comes to no command, or to one that may not be added at the depth. -/
theorem call_refused_cases (hs : b.sprites[i]? = some s) {e : Error}
    (h : (b.call i c).2 = .error e) :
    c.command? b = none ∧ (b.call i c).1 = b ∨
      ∃ command, c.command? b = some command ∧ s.currentDepth < 0 ∧
        e = .negativeDepth s.currentDepth ∧ (b.call i c).1 = b.withSprite i (s.widened command) := by
  cases hcommand : c.command? b with
  | none => exact Or.inl ⟨rfl, call_of_command?_eq_none hcommand⟩
  | some command =>
      by_cases hdepth : s.currentDepth < 0
      · have hcall := call_of_neg hs hdepth hcommand
        rw [hcall] at h
        cases h
        exact Or.inr ⟨command, rfl, hdepth, rfl, congrArg Prod.fst hcall⟩
      · rw [call_answer_of_nonneg hs (Int.not_lt.mp hdepth) hcommand] at h
        cases h

/-! ## What is written -/

theorem withSprite_self (hs : b.sprites[i]? = some s) :
    b.withSprite i s = b := by
  have hsprites : b.sprites.setIfInBounds i s = b.sprites := by
    apply Array.ext_getElem?
    intro j
    rw [Array.getElem?_setIfInBounds]
    split
    next hj =>
      subst hj
      rw [hs, if_pos (Array.getElem?_eq_some_iff.mp hs).1]
    next => rfl
  rw [withSprite, hsprites]

theorem spriteText_withSprite (hs : b.sprites[i]? = some s) (span : Option Span) (j : Nat) :
    (b.withSprite i (s.withSpan span)).spriteText j = b.spriteText j := by
  unfold spriteText withSprite
  simp only [Array.getElem?_setIfInBounds]
  split
  next hj =>
    subst hj
    rw [hs, if_pos (Array.getElem?_eq_some_iff.mp hs).1]
    rfl
  next => rfl

theorem text_withSprite (hs : b.sprites[i]? = some s) (span : Option Span) :
    (b.withSprite i (s.withSpan span)).text = b.text := by
  have hsprites := funext (spriteText_withSprite hs span)
  have hsections : ∀ layer,
      (b.withSprite i (s.withSpan span)).sectionText layer = b.sectionText layer := by
    intro layer
    unfold sectionText bundleText
    rw [hsprites]
    rfl
  unfold text
  rw [funext hsections]

/--
A refused call leaves the board as it was, but for the span of the sprite that was called.  The
span is widened only for a command that is refused because of a negative depth.  Whatever the
reason, the sprite has its figure, its layer and its timelines as before, no text changes, and the
state at a time is the same unless the time has just come into the span.
-/
theorem refused_call_keeps_sprite (hs : b.sprites[i]? = some s) {e : Error}
    (h : (b.call i c).2 = .error e) :
    ∃ s', (b.call i c).1 = b.withSprite i s' ∧
      s' = s.withSpan s'.span ∧
      (s'.text b.depths = s.text b.depths ∧ (b.call i c).1.text = b.text) ∧
      (∀ time, s.Covers time ∨ ¬ s'.Covers time →
        s'.stateAt b.depths time = s.stateAt b.depths time) ∧
      (0 ≤ s.currentDepth ∨ c.command? b = none → (b.call i c).1 = b ∧ s' = s) ∧
      ∀ command, c.command? b = some command →
        s.currentDepth < 0 ∧ e = .negativeDepth s.currentDepth ∧
          s'.span = some (Span.widen s.span command.low command.high) := by
  cases call_refused_cases hs h with
  | inl hsame =>
      obtain ⟨hcommand, hcall⟩ := hsame
      have hself := (withSprite_self hs).symm
      refine ⟨s, hcall.trans hself, rfl, ⟨rfl, congrArg text hcall⟩, fun _ _ => rfl,
        fun _ => ⟨hcall, rfl⟩, ?_⟩
      intro command hsome
      cases hcommand.symm.trans hsome
  | inr hwidened =>
      obtain ⟨command, hcommand, hdepth, he, hcall⟩ := hwidened
      have htext := (congrArg text hcall).trans (text_withSprite hs _)
      refine ⟨_, hcall, rfl, ⟨rfl, htext⟩, ?_, ?_, ?_⟩
      · intro time htime
        apply Sprite.stateAt_withSpan
        constructor
        · intro hcovers
          exact hcovers.widen command
        · intro hcovers
          exact htime.resolve_right (not_not_intro hcovers)
      · intro hsame
        cases hsame with
        | inl hnonneg => omega
        | inr hnone => cases hnone.symm.trans hcommand
      · intro command' hsome
        cases hcommand.symm.trans hsome
        exact ⟨hdepth, he, rfl⟩

/-! ## A fade that is refused -/

/-- A fade is added, and the depth for new commands becomes negative. -/
def lowered : List Step :=
  [.sprite ⟨"star.png", .centre, ⟨320, 240⟩, none⟩,
    .issue 0 ⟨⟨0, .linear, .scalar .fade (.change 1000 0 1)⟩, 0⟩, .currentDepth 0 (-1)]

/-- Asked for a later fade, the sprite keeps the state that it has halfway through the first one. -/
theorem lowered_keeps_first_fade :
    ∃ s s' : Sprite, (empty.run lowered).sprites[0]? = some s ∧
      ((empty.run lowered).call 0 (.new (.scalar .fade) [.int 5000, .int 1])).2 =
        .error (.negativeDepth (-1)) ∧
      s' = s.withSpan (some ⟨0, 5000⟩) ∧
      s'.stateAt (empty.run lowered).depths 500 = s.stateAt (empty.run lowered).depths 500 := by
  have hrefused : ((empty.run lowered).call 0 (.new (.scalar .fade) [.int 5000, .int 1])).2 =
      .error (.negativeDepth (-1)) := rfl
  obtain ⟨s', -, hs', -, hstate, -, hspan⟩ := refused_call_keeps_sprite rfl hrefused
  obtain ⟨-, -, hspan⟩ := hspan _ rfl
  rw [hspan] at hs'
  exact ⟨_, s', rfl, hrefused, hs', hstate 500 (Or.inl ⟨⟨0, 1000⟩, rfl, by decide, by decide⟩)⟩

/-- The refused fade stays in the span, and a state appears where there was none. -/
theorem lowered_widens_span :
    ((empty.run lowered).call 0 (.new (.scalar .fade) [.int 5000, .int 1])).2 =
        .error (.negativeDepth (-1)) ∧
      ∃ s s' : Sprite, (empty.run lowered).sprites[0]? = some s ∧
        ((empty.run lowered).call 0 (.new (.scalar .fade) [.int 5000, .int 1])).1.sprites[0]? =
          some s' ∧
        s.span = some ⟨0, 1000⟩ ∧ s'.span = some ⟨0, 5000⟩ ∧
        s.stateAt (empty.run lowered).depths 3000 = .ok none ∧
        ∃ state, s'.stateAt (empty.run lowered).depths 3000 = .ok (some state) ∧
          state.opacity = 1 := by
  refine ⟨rfl, _, _, rfl, rfl, rfl, rfl, rfl, _, rfl, ?_⟩
  decide +kernel

end Board
end Storyboard
