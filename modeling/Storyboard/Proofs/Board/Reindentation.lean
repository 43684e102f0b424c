import Mathlib
import Storyboard.Proofs.Board.StepEffects
import Storyboard.Proofs.Sprite.Text

/-!
# Depths are indentation

The depth of a command is the number of spaces in front of its line, less one, and the lines of a
sprite depend on nothing else that a new depth changes.  A new depth may tell two commands apart
that had one line, or give two commands one line, and so another command may be the one that is
written.  But the commands that share a line share it without its spaces as well, so that without
them, and without repetitions, the lines of a kind are always the same.
-/

namespace Storyboard

/-! ## Lines without their indentation -/

def unindented (line : String) : String :=
  String.ofList (line.toList.dropWhile (· = ' '))

def Command.body (c : Command) : String :=
  String.intercalate "," c.fields

theorem Command.unindented_line (depth : Nat) (c : Command) :
    unindented (c.line depth) = c.body := by
  have hspaces : ∀ ch ∈ List.replicate (depth + 1) ' ', decide (ch = ' ') = true := by
    intro ch hch
    rw [List.eq_of_mem_replicate hch]
    rfl
  have hbody : c.body.toList.dropWhile (· = ' ') = c.body.toList := by
    rw [List.dropWhile_eq_self_iff]
    intro hlength hspace
    rcases Command.mem_toList_fields (List.getElem_mem hlength) with hcomma | hfield
    · rw [hcomma] at hspace
      cases of_decide_eq_true hspace
    · exact hfield.2.1 (of_decide_eq_true hspace)
  rw [unindented, toList_line, List.dropWhile_append_of_pos hspaces]
  exact (congrArg String.ofList hbody).trans (String.ofList_toList)

/-! ## Sprites at other depths -/

namespace Sprite

/-- The lines of a kind without their spaces, and each of them once. -/
def bodies (depths : Depths) (s : Sprite) (kind : Kind) : List String :=
  ((s.lines depths kind).map unindented).eraseDups

variable {depths depths' : Depths} {s : Sprite}

/-- Which command is written for a line does not matter without the spaces. -/
theorem bodies_eq (depths : Depths) (s : Sprite) (kind : Kind) :
    s.bodies depths kind =
      ((s.timeline kind).values.map fun cue => cue.command.body).eraseDups := by
  have hcoarse : ∀ a b : Cue, a.line depths = b.line depths →
      a.command.body = b.command.body := by
    intro a b hab
    rw [← Command.unindented_line (depths.get a.id), ← Command.unindented_line (depths.get b.id)]
    exact congrArg unindented hab
  have hbody : unindented ∘ Cue.line depths = fun cue => cue.command.body :=
    funext fun cue => Command.unindented_line (depths.get cue.id) cue.command
  rw [bodies, lines_eq_map_events, events_eq_firstsBy, List.map_map, hbody, ← map_firstsBy,
    firstsBy_firstsBy hcoarse, map_firstsBy]

/-- A sprite is written in the same way if each of its commands is. -/
theorem text_eq_of_line_eq
    (h : ∀ kind, ∀ cue ∈ (s.timeline kind).values, cue.line depths = cue.line depths') :
    s.text depths = s.text depths' := by
  have hlines : s.lines depths = s.lines depths' := by
    funext kind
    have hpairs : (s.timeline kind).values.map (fun cue => (cue.line depths, cue)) =
        (s.timeline kind).values.map fun cue => (cue.line depths', cue) :=
      List.map_congr_left fun cue hcue => congrArg (·, cue) (h kind cue hcue)
    rw [lines, lines, written, written, hpairs]
  rw [text, text, allLines, allLines, hlines]

end Sprite

/-! ## Main result -/

namespace Board

/--
The board after a command was given another depth.  All sprites are the same, with their headers,
spans and timelines.  The line of the command is indented anew, and every other line stays.
-/
structure Reindented (before after : Board) (id level : Nat) : Prop where
  unchanged : after = { before with depths := after.depths }
  depth : after.depths.get id = level
  others : ∀ other, other ≠ id → after.depths.get other = before.depths.get other
  line : ∀ cue : Cue, cue.id = id → cue.line after.depths =
    String.ofList (List.replicate (level + 1) ' ') ++ unindented (cue.line before.depths)
  bodies : ∀ s ∈ before.sprites, ∀ kind, s.bodies after.depths kind = s.bodies before.depths kind
  texts : ∀ s ∈ before.sprites, (∀ kind, ∀ cue ∈ (s.timeline kind).values, cue.id ≠ id) →
    s.text after.depths = s.text before.depths

/--
A command of a board takes any depth but a negative one, which changes nothing.  All that is
changed by a depth is the indentation.
-/
theorem perform_depth_reindented (steps : List Step) {id : Nat} {cue : Cue}
    (h : (empty.run steps).cue? id = some cue) (depth : Int) :
    (depth < 0 → (empty.run steps).perform (.depth id depth) =
      (empty.run steps, .error (.negativeDepth depth))) ∧
    (0 ≤ depth → ∃ after, (empty.run steps).perform (.depth id depth) = (after, .ok ()) ∧
      Reindented (empty.run steps) after id depth.toNat) := by
  have hdepths : (empty.run steps).HasDepths := hasDepths_run steps rfl
  have hid : id < (empty.run steps).depths.byCue.size := by
    obtain ⟨command, hcommand, -⟩ := Option.map_eq_some_iff.mp h
    rw [hdepths]
    exact (Array.getElem?_eq_some_iff.mp hcommand).1
  generalize empty.run steps = b at hid
  refine ⟨b.perform_depth_of_neg id, ?_⟩
  intro hdepth
  have hperform := b.perform_depth_of_nonneg id hdepth
  have hself := depths_get_perform_depth hid depth
  have hother : ∀ other, other ≠ id →
      (b.perform (.depth id depth)).1.depths.get other = b.depths.get other :=
    fun other hne => b.depths_get_perform_depth_of_ne hne.symm depth
  rw [if_neg (Int.not_lt.mpr hdepth)] at hself
  rw [hperform] at hself hother
  refine ⟨_, hperform, ?_⟩
  constructor
  case unchanged => rfl
  case depth => exact hself
  case others => exact hother
  case line =>
    intro cue hcue
    rw [Cue.line, Cue.line, Command.unindented_line, hcue, hself]
    rfl
  case bodies =>
    intro s _ kind
    rw [Sprite.bodies_eq, Sprite.bodies_eq]
  case texts =>
    intro s _ hwithout
    apply Sprite.text_eq_of_line_eq
    intro kind cue hcue
    rw [Cue.line, Cue.line, hother cue.id (hwithout kind cue hcue)]

/-- A sprite with two fades that are written as one line. -/
def twinFades : List Step :=
  [.sprite ⟨"star.png", .centre, Figure.defaultPosition, none⟩,
    .issue 0 ⟨⟨0, .linear, .scalar .fade (.change 1000 0 1)⟩, 0⟩,
    .issue 0 ⟨⟨0, .linear, .scalar .fade (.change 1000 0 1)⟩, 0⟩]

/-- At another depth the second fade is written beside the first. -/
theorem reindented_of_twinFades :
    (empty.run twinFades).perform (.depth 1 (-1)) =
      (empty.run twinFades, .error (.negativeDepth (-1))) ∧
    ∃ after, (empty.run twinFades).perform (.depth 1 2) = (after, .ok ()) ∧
      Reindented (empty.run twinFades) after 1 2 ∧
      (empty.run twinFades).spriteText 0 =
        "Sprite,Background,Centre,\"star.png\",320,240\n F,0,0,1000,0,1\n" ∧
      after.spriteText 0 =
        "Sprite,Background,Centre,\"star.png\",320,240\n F,0,0,1000,0,1\n   F,0,0,1000,0,1\n" := by
  have hcue : (empty.run twinFades).cue? 1 =
      some ⟨1, ⟨0, .linear, .scalar .fade (.change 1000 0 1)⟩⟩ := rfl
  constructor
  · exact (perform_depth_reindented twinFades hcue (-1)).1 (by decide)
  · obtain ⟨after, hafter, hreindented⟩ :=
      (perform_depth_reindented twinFades hcue 2).2 (by decide)
    have hnext : ((empty.run twinFades).perform (.depth 1 2)).1 = after :=
      congrArg Prod.fst hafter
    refine ⟨after, hafter, hreindented, ?_, ?_⟩
    · decide +kernel
    · rw [← hnext]
      decide +kernel

end Board
end Storyboard
