import Mathlib
import Storyboard.Proofs.Failing
import Storyboard.Sprite.State

/-!
# States from samples

A sprite takes its state from its position, the samples of the kinds and the flags that are on; the
time itself is only noted.  So two sprites that are sampled alike, each at a time of its own, have
the same state but for that time.
-/

namespace Storyboard
namespace Sprite

/-- A sprite is sampled at a time as another one is at another time. -/
structure SampledAlike (depths depths' : Depths) (s s' : Sprite) (time time' : Int) : Prop where
  position : s.position = s'.position
  sample : ∀ kind, s.sample depths kind time = s'.sample depths' kind time'
  isOn : ∀ flag, s.isOn flag time = s'.isOn flag time'

/-- A time lies in the span of a sprite. -/
def Covers (s : Sprite) (time : Int) : Prop :=
  ∃ span, s.span = some span ∧ span.first ≤ time ∧ time ≤ span.last

section

variable {depths depths' : Depths} {s s' : Sprite} {time time' : Int}

theorem SampledAlike.refl (depths : Depths) (s : Sprite) (time : Int) :
    SampledAlike depths depths s s time time :=
  ⟨rfl, fun _ => rfl, fun _ => rfl⟩

/-! ## The properties -/

theorem level_congr {property : ScalarProperty}
    (h : s.sample depths (.scalar property) time = s'.sample depths' (.scalar property) time') :
    s.level depths property time = s'.level depths' property time' := by
  unfold level
  rw [h]

theorem vector_congr {property : VectorProperty}
    (h : s.sample depths (.vector property) time = s'.sample depths' (.vector property) time') :
    s.vector depths property time = s'.vector depths' property time' := by
  unfold vector
  rw [h]

theorem tint_congr (h : s.sample depths .color time = s'.sample depths' .color time') :
    s.tint depths time = s'.tint depths' time' := by
  unfold tint
  rw [h]

theorem doubleAt_congr {property : ScalarProperty} (default : Double)
    (h : s.sample depths (.scalar property) time = s'.sample depths' (.scalar property) time') :
    s.doubleAt depths property default time = s'.doubleAt depths' property default time' := by
  unfold doubleAt
  rw [level_congr h]

theorem scaleAt_congr
    (hscale : s.sample depths (.scalar .scale) time = s'.sample depths' (.scalar .scale) time')
    (haxes : s.sample depths (.vector .scaleVec) time =
      s'.sample depths' (.vector .scaleVec) time') :
    s.scaleAt depths time = s'.scaleAt depths' time' := by
  unfold scaleAt
  rw [doubleAt_congr 1 hscale, vector_congr haxes]

theorem SampledAlike.positionAt (h : SampledAlike depths depths' s s' time time') :
    s.positionAt depths time = s'.positionAt depths' time' := by
  unfold Sprite.positionAt
  rw [vector_congr (h.sample _), level_congr (h.sample _), level_congr (h.sample _), h.position]

/-! ## The state -/

theorem except_map_bind {ε α β γ : Type} (f : β → γ) (x : Except ε α) (g : α → Except ε β) :
    (x >>= g).map f = x >>= fun a => (g a).map f := by
  cases x with
  | error e => rfl
  | ok a => rfl

theorem stateAt_of_not_covers (h : ¬ s.Covers time) : s.stateAt depths time = .ok none := by
  unfold stateAt
  cases hspan : s.span with
  | none => rfl
  | some span => exact if_neg fun hin => h ⟨span, hspan, hin⟩

theorem SampledAlike.stateAt (h : SampledAlike depths depths' s s' time time')
    (hcovers : s.Covers time ↔ s'.Covers time') :
    s'.stateAt depths' time' =
      (s.stateAt depths time).map (Option.map fun state => { state with time := time' }) := by
  by_cases htime : s.Covers time
  · obtain ⟨span, hspan, hin⟩ := htime
    obtain ⟨span', hspan', hin'⟩ := hcovers.mp ⟨span, hspan, hin⟩
    simp only [Sprite.stateAt, hspan, hspan', if_pos hin, if_pos hin', ← h.positionAt,
      ← doubleAt_congr _ (h.sample _), ← scaleAt_congr (h.sample _) (h.sample _),
      ← tint_congr (h.sample _), ← h.isOn]
    simp only [except_map_bind]
    rfl
  · rw [stateAt_of_not_covers htime, stateAt_of_not_covers (fun h' => htime (hcovers.mpr h'))]
    rfl

theorem map_time_stateAt (depths : Depths) (s : Sprite) (time : Int) :
    (s.stateAt depths time).map (Option.map fun state => { state with time }) =
      s.stateAt depths time :=
  ((SampledAlike.refl depths s time).stateAt Iff.rfl).symm

theorem SampledAlike.stateAt_eq_of_covers (h : SampledAlike depths depths' s s' time time)
    (hcovers : s.Covers time ↔ s'.Covers time) :
    s'.stateAt depths' time = s.stateAt depths time := by
  rw [h.stateAt hcovers, map_time_stateAt]

theorem SampledAlike.stateAt_eq (h : SampledAlike depths depths' s s' time time)
    (hspan : s.span = s'.span) : s.stateAt depths time = s'.stateAt depths' time := by
  have hcovers : s.Covers time ↔ s'.Covers time := by rw [Covers, Covers, hspan]
  exact (h.stateAt_eq_of_covers hcovers).symm

/-! ## What a state is made of -/

/-- A state has the values that the sprite takes at the time. -/
structure Sampled (depths : Depths) (s : Sprite) (time : Int) (state : SpriteState) : Prop where
  position : s.positionAt depths time = .ok state.position
  opacity : s.doubleAt depths .fade 1 time = .ok state.opacity
  rotation : s.doubleAt depths .rotate 0 time = .ok state.rotation
  scale : s.scaleAt depths time = .ok state.scale
  color : ∃ tint, s.tint depths time = .ok tint ∧ state.color = tint.getD .white
  hflip : state.hflip = s.isOn .hflip time
  vflip : state.vflip = s.isOn .vflip time
  additive : state.additive = s.isOn .additive time

theorem sampled_of_stateAt {state : SpriteState} (h : s.stateAt depths time = .ok (some state)) :
    Sampled depths s time state := by
  unfold stateAt at h
  cases hspan : s.span with
  | none =>
      rw [hspan] at h
      cases h
  | some span =>
      rw [hspan] at h
      dsimp only at h
      split at h
      · obtain ⟨position, hposition, h⟩ := exists_of_bind_eq_ok h
        obtain ⟨opacity, hopacity, h⟩ := exists_of_bind_eq_ok h
        obtain ⟨rotation, hrotation, h⟩ := exists_of_bind_eq_ok h
        obtain ⟨scale, hscale, h⟩ := exists_of_bind_eq_ok h
        obtain ⟨tint, htint, h⟩ := exists_of_bind_eq_ok h
        cases h
        exact ⟨hposition, hopacity, hrotation, hscale, ⟨tint, htint, rfl⟩, rfl, rfl, rfl⟩
      · cases h

theorem exists_of_positionAt {position : Vec2} (h : s.positionAt depths time = .ok position) :
    ∃ both x y, s.vector depths .move time = .ok both ∧ s.level depths .moveX time = .ok x ∧
      s.level depths .moveY time = .ok y ∧
      position.x = (x.map Level.toNumber).getD ((both.map Vec2.x).getD s.position.x) ∧
      position.y = (y.map Level.toNumber).getD ((both.map Vec2.y).getD s.position.y) := by
  obtain ⟨both, hboth, h⟩ := exists_of_bind_eq_ok h
  obtain ⟨x, hx, h⟩ := exists_of_bind_eq_ok h
  obtain ⟨y, hy, h⟩ := exists_of_bind_eq_ok h
  cases h
  refine ⟨both, x, y, hboth, hx, hy, ?_, ?_⟩
  · rw [Option.getD_map]
  · rw [Option.getD_map]

end

end Sprite
end Storyboard
