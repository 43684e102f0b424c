import Mathlib
import Storyboard.Proofs.Sprite.Governing
import Storyboard.Proofs.Sprite.Sampling
import Storyboard.Proofs.Sprite.Span

/-!
# What the order of addition decides

Commands are written and looked up kind by kind, in the order of their earlier times.  The order in
which they were added decides only between commands of one kind and one earlier time.  So sprites
whose additions agree in that have the same text, the same written commands, the same span and the
same states, whatever their timelines look like inside.
-/

namespace Storyboard

theorem Cue.line_congr {depths depths' : Depths} (h : ∀ id, depths.get id = depths'.get id) :
    Cue.line depths = Cue.line depths' := by
  funext cue
  rw [Cue.line, Cue.line, h]

namespace Sprite

theorem header_congr {s s' : Sprite} (hfigure : s.toFigure = s'.toFigure)
    (hlayer : s.layer = s'.layer) : s.header = s'.header := by
  unfold header placeFields
  rw [hfigure, hlayer]

theorem text_eq_of_events_eq {s s' : Sprite} {depths depths' : Depths}
    (hheader : s.header = s'.header)
    (hevents : ∀ kind, s.events depths kind = s'.events depths' kind)
    (hdepths : ∀ id, depths.get id = depths'.get id) : s.text depths = s'.text depths' := by
  have hlines : s.lines depths = s'.lines depths' := by
    funext kind
    rw [lines_eq_map_events, lines_eq_map_events, hevents, Cue.line_congr hdepths]
  rw [text, text, allLines, allLines, hheader, hlines]

/-! ## Additions with the same groups -/

def group (added : List Cue) (kind : Kind) (low : Int) : List Cue :=
  (added.filter fun cue => cue.command.kind = kind).filter fun cue => cue.command.low = low

/-- The same cues were added, those of one kind and one earlier time in the same order. -/
def SameGroups (added added' : List Cue) : Prop :=
  ∀ kind low, group added kind low = group added' kind low

section SameGroups

variable {added added' : List Cue}

theorem SameGroups.symm (h : SameGroups added added') : SameGroups added' added :=
  fun kind low => (h kind low).symm

theorem SameGroups.mem (h : SameGroups added added') {cue : Cue} (hcue : cue ∈ added) :
    cue ∈ added' := by
  have hkind : cue ∈ added.filter fun other => other.command.kind = cue.command.kind := by
    simp [hcue]
  exact List.mem_of_mem_filter (mem_of_filter_eq (h cue.command.kind) hkind)

theorem SameGroups.within (h : SameGroups added added') : Span.Within added added' :=
  fun cue hcue => ⟨cue, h.mem hcue, rfl, rfl⟩

theorem SameGroups.inOrder_eq (h : SameGroups added added') (kind : Kind) :
    inOrder kind added = inOrder kind added' :=
  sortedBy_eq_of_filter_eq (h kind)

theorem filter_low_activeCues (added : List Cue) (kind : Kind) (time low : Int) :
    ((activeCues added kind time).filter fun cue => cue.command.low = low) =
      (group added kind low).filter fun cue => cue.command.IsActiveAt time := by
  rw [activeCues, group, List.filter_comm]

theorem SameGroups.lastMaxBy_activeCues (h : SameGroups added added') (kind : Kind) (time : Int) :
    lastMaxBy (·.command.low) (activeCues added kind time) =
      lastMaxBy (·.command.low) (activeCues added' kind time) := by
  apply lastMaxBy_eq_of_filter_eq
  intro low
  rw [filter_low_activeCues, filter_low_activeCues, h]

theorem SameGroups.activeCues_eq_nil_iff (h : SameGroups added added') (kind : Kind) (time : Int) :
    activeCues added kind time = [] ↔ activeCues added' kind time = [] := by
  rw [← lastMaxBy_eq_none_iff, h.lastMaxBy_activeCues, lastMaxBy_eq_none_iff]

end SameGroups

/-! ## Sprites with the same additions in two orders -/

/-- Two sprites of one header to which the same cues were added. -/
structure Reordered (depths depths' : Depths) (s s' : Sprite) (added added' : List Cue) :
    Prop where
  figure : s.toFigure = s'.toFigure
  layer : s.layer = s'.layer
  depth : ∀ id, depths.get id = depths'.get id
  records : s.Records added
  records' : s'.Records added'
  spans : s.Spans added
  spans' : s'.Spans added'
  groups : SameGroups added added'

section Reordered

variable {depths depths' : Depths} {s s' : Sprite} {added added' : List Cue}

theorem Reordered.events_eq (h : Reordered depths depths' s s' added added') (kind : Kind) :
    s.events depths kind = s'.events depths' kind := by
  rw [h.records.events_eq, h.records'.events_eq, h.groups.inOrder_eq, Cue.line_congr h.depth]

theorem Reordered.text_eq (h : Reordered depths depths' s s' added added') :
    s.text depths = s'.text depths' :=
  text_eq_of_events_eq (header_congr h.figure h.layer) h.events_eq h.depth

theorem Reordered.span_eq (h : Reordered depths depths' s s' added added') : s.span = s'.span :=
  h.spans.span_eq h.spans' h.groups.within h.groups.symm.within

theorem Reordered.governing_eq (h : Reordered depths depths' s s' added added') (kind : Kind)
    (time : Int) : s.governing depths kind time = s'.governing depths' kind time := by
  by_cases hnil : activeCues added kind time = []
  · have hnil' := (h.groups.activeCues_eq_nil_iff kind time).mp hnil
    rw [h.records.governing_of_eq_nil hnil, h.records'.governing_of_eq_nil hnil', h.events_eq]
  -- The two timelines may list the active commands in different orders, but each has the same last
  -- one among those that started last.
  · have hne : activeCues added' kind time ≠ [] :=
      fun hnil' => hnil ((h.groups.activeCues_eq_nil_iff kind time).mpr hnil')
    rw [h.records.governing_of_ne_nil hnil, h.records'.governing_of_ne_nil hne,
      h.groups.lastMaxBy_activeCues]

theorem Reordered.isOn_eq (h : Reordered depths depths' s s' added added') (flag : Flag)
    (time : Int) : s.isOn flag time = s'.isOn flag time := by
  unfold isOn
  rw [h.records.get_timeline, h.records'.get_timeline, Bool.eq_iff_iff]
  simp [h.groups.activeCues_eq_nil_iff]

theorem Reordered.sampledAlike (h : Reordered depths depths' s s' added added') (time : Int) :
    SampledAlike depths depths' s s' time time where
  position := by rw [h.figure]
  sample := by
    intro kind
    unfold Sprite.sample
    rw [h.governing_eq]
  isOn := fun flag => h.isOn_eq flag time

theorem Reordered.stateAt_eq (h : Reordered depths depths' s s' added added') (time : Int) :
    s.stateAt depths time = s'.stateAt depths' time :=
  (h.sampledAlike time).stateAt_eq h.span_eq

end Reordered
end Sprite
end Storyboard
