import Mathlib
import Storyboard.Proofs.Command.Line
import Storyboard.Proofs.IntervalMap.Values
import Storyboard.Proofs.Sprite.History

/-!
# The text of a sprite and what was added to it

The lines of a kind are written in the order of the earlier time of their commands, those of one
time in the order of addition, and a line that was written is not written again.  So a text loses no
command, and no two of its lines below the header are equal: lines of one kind because repetitions
are left out, lines of different kinds because a line tells its kind.
-/

namespace Storyboard
namespace Sprite

/-- The commands of a kind in the order of their earlier times, those of one time as added. -/
def inOrder (kind : Kind) (added : List Cue) : List Cue :=
  sortedBy (fun cue => cue.command.low) (added.filter fun cue => cue.command.kind = kind)

/-- The different lines of the commands of a kind, in that order. -/
def linesInOrder (depths : Depths) (kind : Kind) (added : List Cue) : List String :=
  ((inOrder kind added).map (Cue.line depths)).eraseDups

/-- The different lines of all commands, kind by kind. -/
def bodyLines (depths : Depths) (added : List Cue) : List String :=
  Kind.all.flatMap fun kind => linesInOrder depths kind added

theorem mem_inOrder {kind : Kind} {added : List Cue} {cue : Cue} :
    cue ∈ inOrder kind added ↔ cue ∈ added ∧ cue.command.kind = kind := by
  rw [inOrder, mem_sortedBy, List.mem_filter, decide_eq_true_eq]

/-! ## The written commands of one kind -/

theorem written_eq (depths : Depths) (s : Sprite) (kind : Kind) :
    s.written depths kind =
      (firstsBy (Cue.line depths) (s.timeline kind).values).map
        fun cue => (cue.line depths, cue) := by
  rw [written, firstsBy_map]
  rfl

theorem events_eq_firstsBy (depths : Depths) (s : Sprite) (kind : Kind) :
    s.events depths kind = firstsBy (Cue.line depths) (s.timeline kind).values := by
  rw [events, written_eq, List.map_map]
  exact List.map_id _

theorem lines_eq_map_events (depths : Depths) (s : Sprite) (kind : Kind) :
    s.lines depths kind = (s.events depths kind).map (Cue.line depths) := by
  rw [events_eq_firstsBy, lines, written_eq, List.map_map]
  rfl

theorem firstsBy_values_timelineOf {β : Type} [DecidableEq β] (key : Cue → β) (kind : Kind)
    (added : List Cue) :
    firstsBy key (timelineOf kind added).values = firstsBy key (inOrder kind added) := by
  rw [timelineOf, IntervalMap.firstsBy_values_ofPushes, accepted_map_toPush, sortedBy_map,
    List.map_map, value_comp_toPush, List.map_id]
  rfl

theorem Records.events_eq {s : Sprite} {added : List Cue} (h : s.Records added) (depths : Depths)
    (kind : Kind) :
    s.events depths kind = firstsBy (Cue.line depths) (inOrder kind added) := by
  rw [events_eq_firstsBy, h kind, firstsBy_values_timelineOf]

theorem Records.map_line_events {s : Sprite} {added : List Cue} (h : s.Records added)
    (depths : Depths) (kind : Kind) :
    (s.events depths kind).map (Cue.line depths) = linesInOrder depths kind added := by
  rw [h.events_eq, map_firstsBy, linesInOrder]

theorem Records.lines_eq {s : Sprite} {added : List Cue} (h : s.Records added) (depths : Depths)
    (kind : Kind) :
    s.lines depths kind = linesInOrder depths kind added := by
  rw [lines_eq_map_events, h.map_line_events]

theorem Records.allLines_eq {s : Sprite} {added : List Cue} (h : s.Records added)
    (depths : Depths) :
    s.allLines depths = s.header :: bodyLines depths added := by
  rw [allLines, bodyLines]
  congr 1
  exact List.flatMap_congr fun kind _ => h.lines_eq depths kind

theorem Records.text_eq {s : Sprite} {added : List Cue} (h : s.Records added) (depths : Depths) :
    s.text depths = Text.joinLines (s.header :: bodyLines depths added) := by
  rw [← h.allLines_eq depths]
  rfl

/-! ## The body -/

theorem mem_linesInOrder {depths : Depths} {kind : Kind} {added : List Cue} {line : String} :
    line ∈ linesInOrder depths kind added ↔
      ∃ cue ∈ added, cue.command.kind = kind ∧ cue.line depths = line := by
  simp only [linesInOrder, List.mem_eraseDups, List.mem_map, mem_inOrder, and_assoc]

theorem mem_bodyLines {depths : Depths} {added : List Cue} {line : String} :
    line ∈ bodyLines depths added ↔ ∃ cue ∈ added, cue.line depths = line := by
  simp only [bodyLines, List.mem_flatMap, mem_linesInOrder]
  constructor
  · rintro ⟨kind, _, cue, hcue, _, hline⟩
    exact ⟨cue, hcue, hline⟩
  · rintro ⟨cue, hcue, hline⟩
    exact ⟨cue.command.kind, Kind.mem_all _, cue, hcue, rfl, hline⟩

theorem nodup_linesInOrder (depths : Depths) (kind : Kind) (added : List Cue) :
    (linesInOrder depths kind added).Nodup := by
  rw [linesInOrder, ← map_firstsBy]
  exact nodup_map_firstsBy _ _

theorem disjoint_linesInOrder (depths : Depths) {j k : Kind} (h : j ≠ k) (added : List Cue) :
    (linesInOrder depths j added).Disjoint (linesInOrder depths k added) := by
  intro line hj hk
  obtain ⟨cue, _, hkind, hline⟩ := mem_linesInOrder.mp hj
  obtain ⟨cue', _, hkind', hline'⟩ := mem_linesInOrder.mp hk
  have halike := Cue.alike_of_line_eq (hline.trans hline'.symm)
  exact h (hkind.symm.trans (halike.kind.trans hkind'))

theorem nodup_bodyLines (depths : Depths) (added : List Cue) : (bodyLines depths added).Nodup := by
  rw [bodyLines, List.nodup_flatMap]
  constructor
  · intro kind _
    exact nodup_linesInOrder depths kind added
  · have hkinds : Kind.all.Pairwise (· ≠ ·) := by decide
    exact hkinds.imp fun h => disjoint_linesInOrder depths h added

/-! ## Main result -/

/--
After a run, a sprite is written as its header and the lines of what was added to it, in order and
without repetitions; no added command is missing, and no line comes twice.
-/
theorem text_holds_every_addition_once (steps : List Board.Step) (i : Nat) (s : Sprite)
    (h : (Board.empty.run steps).sprites[i]? = some s) :
    s.text (Board.empty.run steps).depths =
        Text.joinLines
          (s.header :: bodyLines (Board.empty.run steps).depths (Board.added steps i)) ∧
      (∀ cue ∈ Board.added steps i, cue.line (Board.empty.run steps).depths ∈
        bodyLines (Board.empty.run steps).depths (Board.added steps i)) ∧
      (bodyLines (Board.empty.run steps).depths (Board.added steps i)).Nodup := by
  refine ⟨?_, ?_, ?_⟩
  · exact (Board.records_of_run h).text_eq _
  · intro cue hcue
    exact mem_bodyLines.mpr ⟨cue, hcue, rfl⟩
  · exact nodup_bodyLines _ _

/-- A sprite with two overlapping fades, the first of them added twice. -/
def overlappingFades : List Board.Step :=
  [.sprite ⟨"star.png", .centre, Figure.defaultPosition, none⟩,
    .issue 0 ⟨⟨500, .linear, .scalar .fade (.change 1500 1 0)⟩, 0⟩,
    .issue 0 ⟨⟨0, .linear, .scalar .fade (.change 1000 0 1)⟩, 0⟩,
    .attach 0 0]

theorem text_of_overlappingFades :
    (Board.added overlappingFades 0).length = 3 ∧
      ∃ s : Sprite, (Board.empty.run overlappingFades).sprites[0]? = some s ∧
        s.text (Board.empty.run overlappingFades).depths =
          Text.joinLines (s.header :: bodyLines (Board.empty.run overlappingFades).depths
            (Board.added overlappingFades 0)) ∧
        (∀ cue ∈ Board.added overlappingFades 0,
          cue.line (Board.empty.run overlappingFades).depths ∈
            bodyLines (Board.empty.run overlappingFades).depths (Board.added overlappingFades 0)) ∧
        (bodyLines (Board.empty.run overlappingFades).depths
          (Board.added overlappingFades 0)).Nodup :=
  ⟨rfl, _, rfl, text_holds_every_addition_once overlappingFades 0 _ rfl⟩

end Sprite
end Storyboard
