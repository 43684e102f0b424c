import Mathlib
import Storyboard.Proofs.Command.Shift
import Storyboard.Proofs.IntervalMap.Rekeying
import Storyboard.Proofs.Sprite.Governing
import Storyboard.Proofs.Sprite.Sampling

/-!
# Sprites at other times

A sprite is shifted with all commands in its timelines.  A shifted addition leads from the shifted
sprite to the one that the addition leads to, shifted.  And at every time the shifted sprite is
sampled as the sprite itself was, earlier by as much.
-/

namespace Storyboard

def Span.shift (d : Int) (span : Span) : Span :=
  ⟨span.first + d, span.last + d⟩

def Kind.Table.map {α β : Type} (f : α → β) (t : Kind.Table α) : Kind.Table β :=
  ⟨t.entries.map f⟩

namespace Kind.Table

variable {α β : Type} (f : α → β)

@[simp] theorem get_map (t : Kind.Table α) (k : Kind) : (t.map f).get k = f (t.get k) := by
  simp [get, map]

theorem map_set (t : Kind.Table α) (k : Kind) (a : α) :
    (t.set k a).map f = (t.map f).set k (f a) := by
  simp [set, map]

@[simp] theorem map_fill (a : α) : (fill a).map f = fill (f a) := by
  simp [fill, map]

end Kind.Table

def Timeline.shift (d : Int) (t : Timeline) : Timeline :=
  t.rekey (· + d) (Cue.shift d)

theorem strictMono_add (d : Int) : StrictMono fun time : Int => time + d :=
  fun _ _ h => Int.add_lt_add_right h d

theorem Cue.toPush_shift (d : Int) (cue : Cue) :
    (cue.shift d).toPush = cue.toPush.rekey (· + d) (Cue.shift d) := by
  simp [toPush, IntervalMap.Push.rekey]

theorem Timeline.attempt_shift (d : Int) (t : Timeline) (cue : Cue) :
    (t.shift d).attempt (cue.shift d).toPush = Timeline.shift d (t.attempt cue.toPush) := by
  rw [cue.toPush_shift]
  exact IntervalMap.attempt_rekey (strictMono_add d) (Cue.shift d) t cue.toPush

namespace Sprite

def shift (d : Int) (s : Sprite) : Sprite :=
  { s with
    span := s.span.map (Span.shift d)
    timelines := s.timelines.map (Timeline.shift d) }

@[simp] theorem timeline_shift (d : Int) (s : Sprite) (kind : Kind) :
    (s.shift d).timeline kind = (s.timeline kind).shift d :=
  Kind.Table.get_map (Timeline.shift d) s.timelines kind

theorem shift_ofFigure (d : Int) (figure : Figure) :
    (ofFigure figure).shift d = ofFigure figure := by
  simp only [shift, ofFigure, Kind.Table.map_fill, Timeline.shift, IntervalMap.rekey_empty,
    Option.map_none]

theorem span_widen_shift (d : Int) (span : Option Span) (low high : Int) :
    Span.widen (span.map (Span.shift d)) (low + d) (high + d) =
      (Span.widen span low high).shift d := by
  cases span with
  | none => rfl
  | some span => simp [Span.widen, Span.shift, min_add_add_right, max_add_add_right]

/-! ## Additions -/

theorem add_shift (d : Int) (s : Sprite) (depths : Depths) (cue : Cue) :
    ((s.shift d).add depths (cue.shift d)).sprite = (s.add depths cue).sprite.shift d ∧
      ((s.shift d).add depths (cue.shift d)).depths = (s.add depths cue).depths ∧
      ((s.shift d).add depths (cue.shift d)).refusal = (s.add depths cue).refusal := by
  have hspan := span_widen_shift d s.span cue.command.low cue.command.high
  by_cases hdepth : s.currentDepth < 0
  · have hdepth' : (s.shift d).currentDepth < 0 := hdepth
    rw [add_of_neg hdepth, add_of_neg hdepth']
    refine ⟨?_, rfl, rfl⟩
    simp [shift, hspan]
  -- The depth is not shifted, so the two additions are refused together.
  · have hdepth' : 0 ≤ s.currentDepth := Int.not_lt.mp hdepth
    have hshifted : 0 ≤ (s.shift d).currentDepth := hdepth'
    obtain ⟨hsprite, hrefusal⟩ := add_of_nonneg hdepth' depths cue
    obtain ⟨hsprite', hrefusal'⟩ := add_of_nonneg hshifted depths (cue.shift d)
    refine ⟨?_, ?_, ?_⟩
    · rw [hsprite, hsprite', timeline_shift, Timeline.attempt_shift]
      simp [shift, hspan, Kind.Table.map_set]
    · rw [depths_add_of_nonneg hdepth', depths_add_of_nonneg hshifted]
      rfl
    · rw [hrefusal, hrefusal']

/-! ## Samples -/

section Samples

variable (depths : Depths) (d : Int) (s : Sprite) (kind : Kind) (time : Int)

theorem get_timeline_shift :
    ((s.shift d).timeline kind).get (time + d) =
      ((s.timeline kind).get time).map (Cue.shift d) := by
  rw [timeline_shift]
  exact IntervalMap.get_rekey (strictMono_add d) (Cue.shift d) (s.timeline kind) time

theorem events_shift :
    (s.shift d).events depths kind = (s.events depths kind).map (Cue.shift d) := by
  have hvalues : ((s.timeline kind).shift d).values = (s.timeline kind).values.map (Cue.shift d) :=
    IntervalMap.values_rekey _ _ _
  have hkeys : ∀ a b : Cue, (Cue.line depths ∘ Cue.shift d) a = (Cue.line depths ∘ Cue.shift d) b ↔
      a.line depths = b.line depths := Cue.line_shift_eq_iff depths d
  rw [events_eq_firstsBy, events_eq_firstsBy, timeline_shift, hvalues, firstsBy_map,
    firstsBy_congr hkeys]

theorem filter_high_shift (events : List Cue) :
    ((events.map (Cue.shift d)).filter fun cue => cue.command.high ≤ time + d) =
      (events.filter fun cue => cue.command.high ≤ time).map (Cue.shift d) := by
  rw [List.filter_map]
  congr 1
  apply List.filter_congr
  intro cue _
  simp

theorem governing_shift :
    (s.shift d).governing depths kind (time + d) =
      (s.governing depths kind time).map (Cue.shift d) := by
  have hlatest : ∀ cues : List Cue, lastMaxBy (·.command.low) (cues.map (Cue.shift d)) =
      (lastMaxBy (·.command.low) cues).map (Cue.shift d) :=
    lastMaxBy_map (by simp)
  have hfinished : ∀ cues : List Cue, lastMaxBy (·.command.high) (cues.map (Cue.shift d)) =
      (lastMaxBy (·.command.high) cues).map (Cue.shift d) :=
    lastMaxBy_map (by simp)
  have hfirst : ∀ cues : List Cue, firstMinBy (·.command.low) (cues.map (Cue.shift d)) =
      (firstMinBy (·.command.low) cues).map (Cue.shift d) :=
    firstMinBy_map (by simp)
  unfold governing
  simp only [get_timeline_shift, events_shift, filter_high_shift]
  cases (s.timeline kind).get time with
  | nil =>
      cases (s.events depths kind).filter fun cue => cue.command.high ≤ time with
      | nil => exact hfirst (s.events depths kind)
      | cons cue rest => exact hfinished (cue :: rest)
  | cons cue rest => exact hlatest (cue :: rest)

theorem sample_shift :
    (s.shift d).sample depths kind (time + d) = s.sample depths kind time := by
  unfold Sprite.sample
  rw [governing_shift]
  cases s.governing depths kind time with
  | none => rfl
  | some cue => exact cue.command.sample_shift d time

theorem sampledAlike_shift : SampledAlike depths depths s (s.shift d) time (time + d) where
  position := rfl
  sample := fun kind => (s.sample_shift depths d kind time).symm
  isOn := by
    intro flag
    unfold isOn
    rw [get_timeline_shift, List.isEmpty_map]

theorem covers_shift : (s.shift d).Covers (time + d) ↔ s.Covers time := by
  unfold Covers shift
  cases s.span with
  | none => simp
  | some span => simp [Span.shift]

theorem stateAt_shift :
    (s.shift d).stateAt depths (time + d) =
      (s.stateAt depths time).map
        (Option.map fun state => { state with time := state.time + d }) := by
  have hshows := (s.covers_shift d time).symm
  calc
    (s.shift d).stateAt depths (time + d) =
        (s.stateAt depths time).map
          (Option.map fun state => { state with time := time + d }) :=
      (s.sampledAlike_shift depths d time).stateAt hshows
    _ = ((s.stateAt depths time).map (Option.map fun state => { state with time })).map
          (Option.map fun state => { state with time := state.time + d }) := by
      cases s.stateAt depths time with
      | error e => rfl
      | ok state =>
          cases state with
          | none => rfl
          | some state => rfl
    _ = (s.stateAt depths time).map
          (Option.map fun state => { state with time := state.time + d }) := by
      rw [map_time_stateAt]

end Samples
end Sprite
end Storyboard
