import Mathlib
import Storyboard.Board.Step
import Storyboard.Proofs.Sprite.Shift

/-!
# Storyboards at other times

A run is shifted by shifting every command that it makes.  One step of it leads from a shifted board
to the shift of where the step leads, so that the whole run ends in the shifted board, and every
sprite of it has its span and its states at the shifted times.
-/

namespace Storyboard
namespace Board

def Step.shift (d : Int) : Step → Step
  | .command built => .command (built.shift d)
  | .issue target built => .issue target (built.shift d)
  | step => step

def shift (d : Int) (b : Board) : Board :=
  { b with commands := b.commands.map (Command.shift d), sprites := b.sprites.map (Sprite.shift d) }

section

variable (d : Int) (b : Board)

theorem getElem?_sprites_shift (i : Nat) :
    (b.shift d).sprites[i]? = b.sprites[i]?.map (Sprite.shift d) :=
  Array.getElem?_map

theorem cue?_shift (id : Nat) : (b.shift d).cue? id = (b.cue? id).map (Cue.shift d) := by
  unfold cue? shift
  rw [Array.getElem?_map, Option.map_map, Option.map_map]
  rfl

/-! ## One step -/

theorem newSprite_shift (figure : Figure) :
    (b.shift d).newSprite figure = (b.newSprite figure).shift d := by
  simp [newSprite, shift, Sprite.shift_ofFigure]

theorem newCommand_shift (built : Command.Built) :
    (b.shift d).newCommand (built.shift d) = (b.newCommand built).shift d := by
  simp [newCommand, shift, Command.Built.shift]

theorem changeSprite_shift (sprite : Nat) {change : Sprite → Sprite}
    (hchange : ∀ s : Sprite, change (s.shift d) = (change s).shift d) :
    (b.shift d).changeSprite sprite change = (b.changeSprite sprite change).shift d := by
  have hsprites : (b.sprites.map (Sprite.shift d)).modify sprite change =
      (b.sprites.modify sprite change).map (Sprite.shift d) := by
    apply Array.ext_getElem?
    intro i
    simp only [Array.getElem?_modify, Array.getElem?_map]
    split
    · cases b.sprites[i]? with
      | none => rfl
      | some s => exact congrArg some (hchange s)
    · rfl
  simp only [changeSprite, shift, hsprites]

theorem attach_shift (sprite id : Nat) :
    (b.shift d).attach sprite id = ((b.attach sprite id).1.shift d, (b.attach sprite id).2) := by
  unfold attach
  rw [getElem?_sprites_shift, cue?_shift]
  cases b.sprites[sprite]? with
  | none => rfl
  | some s =>
      cases b.cue? id with
      | none => rfl
      | some cue =>
          obtain ⟨hsprite, hdepths, hrefusal⟩ := s.add_shift d b.depths cue
          have hsame : (b.shift d).depths = b.depths := rfl
          simp only [Option.map_some, hsame, hsprite, hdepths, hrefusal]
          simp only [shift, Array.map_setIfInBounds]

theorem issue_shift (sprite : Nat) (built : Command.Built) :
    (b.shift d).issue sprite (built.shift d) =
      ((b.issue sprite built).1.shift d, (b.issue sprite built).2) := by
  have hsize : (b.shift d).commands.size = b.commands.size := Array.size_map
  unfold issue
  rw [newCommand_shift, hsize, attach_shift]
  cases hattach : (b.newCommand built).attach sprite b.commands.size with
  | mk next outcome =>
      cases outcome with
      | ok _ => rfl
      | error e => rfl

theorem enlist_shift (bundle sprite : Nat) :
    (b.shift d).enlist bundle sprite = (b.enlist bundle sprite).shift d := by
  have hbundles : (b.shift d).bundles = b.bundles := rfl
  unfold enlist
  rw [hbundles]
  cases b.bundles[bundle]? with
  | none => rfl
  | some found =>
      exact changeSprite_shift d (b.changeBundle bundle (·.push sprite)) sprite fun _ => rfl

theorem place_shift (bundle : Nat) : (b.shift d).place bundle = (b.place bundle).shift d := by
  have hbundles : (b.shift d).bundles = b.bundles := rfl
  unfold place
  rw [hbundles]
  cases b.bundles[bundle]? with
  | none => rfl
  | some found => rfl

theorem perform_shift (step : Step) :
    ((b.shift d).perform (step.shift d)).1 = (b.perform step).1.shift d := by
  cases step with
  | sprite figure => exact b.newSprite_shift d figure
  | bundle layer => rfl
  | command built => exact b.newCommand_shift d built
  | issue sprite built => exact congrArg Prod.fst (b.issue_shift d sprite built)
  | attach sprite id => exact congrArg Prod.fst (b.attach_shift d sprite id)
  | depth id depth =>
      have hsame : (b.shift d).depths = b.depths := rfl
      simp only [Step.shift, perform, setDepth, hsame]
      cases b.depths.set id depth with
      | error e => rfl
      | ok depths => rfl
  | currentDepth sprite depth => exact changeSprite_shift d b sprite fun _ => rfl
  | spriteLayer sprite layer => exact changeSprite_shift d b sprite fun _ => rfl
  | bundleLayer bundle layer => rfl
  | enlist bundle sprite => exact b.enlist_shift d bundle sprite
  | place bundle => exact b.place_shift d bundle

/-! ## A run -/

theorem run_shift (steps : List Step) :
    (b.shift d).run (steps.map (Step.shift d)) = (b.run steps).shift d := by
  induction steps generalizing b with
  | nil => rfl
  | cons step rest ih => rw [List.map_cons, run_cons, run_cons, perform_shift, ih]

end

/-! ## Main result -/

/--
With a number added to all times of its commands, a sprite comes to the same states, later by that
number, and its span moves with them.
-/
theorem states_follow_shift (steps : List Step) (i : Nat) (s : Sprite) (d : Int)
    (h : (empty.run steps).sprites[i]? = some s) :
    ∃ s', (empty.run (steps.map (Step.shift d))).sprites[i]? = some s' ∧
      s'.span = s.span.map (Span.shift d) ∧
      ∀ time, s'.stateAt (empty.run (steps.map (Step.shift d))).depths (time + d) =
        (s.stateAt (empty.run steps).depths time).map
          (Option.map fun state => { state with time := state.time + d }) := by
  have hempty : empty.shift d = empty := by simp [shift, empty]
  have hrun := empty.run_shift d steps
  rw [hempty] at hrun
  rw [hrun]
  refine ⟨s.shift d, ?_, rfl, ?_⟩
  · rw [getElem?_sprites_shift, h]
    rfl
  · intro time
    exact s.stateAt_shift (empty.run steps).depths d time

/-- A sprite with a reversed fade, a flag of a single time and two places at one time. -/
def backwards : List Step :=
  [.sprite ⟨"star.png", .centre, Figure.defaultPosition, none⟩, .currentDepth 0 1,
    .issue 0 ⟨⟨700, .quadIn, .scalar .fade (.change (-300) 0 1)⟩, 0⟩,
    .command ⟨⟨-5, .linear, .vector .move (.hold ⟨1, 2⟩ none)⟩, 0⟩,
    .issue 0 ⟨⟨-5, .linear, .vector .move (.hold ⟨3, 4⟩ none)⟩, 0⟩,
    .issue 0 ⟨⟨5, .linear, .flag .hflip 5⟩, 0⟩, .attach 0 1]

theorem states_of_backwards :
    ∃ s s' : Sprite, (empty.run backwards).sprites[0]? = some s ∧
      (empty.run (backwards.map (Step.shift (-10)))).sprites[0]? = some s' ∧
      s'.span = s.span.map (Span.shift (-10)) ∧
      ∀ time, s'.stateAt (empty.run (backwards.map (Step.shift (-10)))).depths (time + -10) =
        (s.stateAt (empty.run backwards).depths time).map
          (Option.map fun state => { state with time := state.time + -10 }) := by
  have hsprite : (empty.run backwards).sprites[0]? = some _ := rfl
  obtain ⟨s', hs'⟩ := states_follow_shift backwards 0 _ (-10) hsprite
  exact ⟨_, s', hsprite, hs'⟩

end Board
end Storyboard
