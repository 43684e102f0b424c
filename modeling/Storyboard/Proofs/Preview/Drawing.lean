import Mathlib
import Storyboard.Preview.Frame
import Storyboard.Proofs.Binary.Bounds
import Storyboard.Proofs.Board.Sections
import Storyboard.Proofs.Failing

/-!
# Frames and texts

A frame is drawn from the list of all sprites, and the text is written section by section and bundle
by bundle.  Both go through the same sprites in the same order.  So a frame has one stroke for every
sprite that is written and to be seen, and the strokes come in the order of the text, from the back
to the front.  Each of these strokes is a picture of its own that shows one sprite.

A frame can fail only where a sprite cannot be sampled or its outline cannot be computed.  The
opacity of its paint can always be computed, because it is brought into the range from zero to one
before it is rounded.
-/

namespace Storyboard

/-! ## Opacities -/

/-- An opacity comes to a channel from 0 to 255; what is no number counts as opaque. -/
inductive HasAlpha (opacity : Double) : Nat → Prop where
  | full (above : ¬ opacity < 1) : HasAlpha opacity 255
  | clear (below : opacity < 1) (nothing : ¬ 0 < opacity) : HasAlpha opacity 0
  | part {alpha : Int} (below : opacity < 1) (above : 0 < opacity)
      (rounded : (opacity * 255).roundToInt = .ok alpha) : HasAlpha opacity alpha.toNat

theorem isFinite_of_between {x : Double} (hone : x < 1) (hzero : 0 < x) : x.isFinite := by
  rw [Binary.lt_iff_below] at hone hzero
  cases x with
  | nan => cases hzero
  | infinite negative =>
      cases negative with
      | false => cases hone
      | true => cases hzero
  | finite s m e canonical => rfl

theorem isFinite_mul_of_between {x : Double} (hone : x < 1) (hzero : 0 < x) :
    (x * 255).isFinite := by
  have hfinite := isFinite_of_between hone hzero
  have hvalues : (0 : Double).value = 0 ∧ (1 : Double).value = 1 ∧
      (255 : Double).value = 255 := by
    decide +kernel
  have hbyte : (255 : Double).isFinite := by decide +kernel
  have hupper := (Binary.lt_iff_value_lt hfinite (by decide +kernel)).mp hone
  have hlower := (Binary.lt_iff_value_lt (by decide +kernel) hfinite).mp hzero
  rw [hvalues.2.1] at hupper
  rw [hvalues.1] at hlower
  have hbound : |x.value * (255 : Double).value| < 2 ^ (8 : Int) := by
    rw [hvalues.2.2, abs_of_pos (by positivity)]
    norm_num
    linarith only [hupper]
  rw [Binary.mul_eq_round hfinite hbyte]
  exact Binary.isFinite_round hbound (by decide) (by decide) _

theorem exists_alpha (x : Double) :
    ∃ alpha, (clampUnit x * 255).roundToInt = .ok alpha ∧ HasAlpha x alpha.toNat := by
  unfold clampUnit
  dsimp only
  by_cases hone : x < 1
  · rw [if_pos hone]
    by_cases hzero : 0 < x
    · rw [if_pos hzero]
      have hrounded := Binary.roundToInt_of_isFinite (isFinite_mul_of_between hone hzero)
      exact ⟨_, hrounded, .part hone hzero hrounded⟩
    · rw [if_neg hzero]
      exact ⟨0, by decide +kernel, .clear hone hzero⟩
  · rw [if_neg hone]
    exact ⟨255, by decide +kernel, .full hone⟩

/-! ## Sprites on a frame -/

/-- Something is to be seen in a state. -/
structure Shows (state : SpriteState) : Prop where
  opacity : 0 < state.opacity
  width : state.scale.x.isZero = false
  height : state.scale.y.isZero = false

theorem isVisible_iff {state : SpriteState} : state.isVisible = true ↔ Shows state := by
  unfold SpriteState.isVisible
  rw [Bool.and_eq_true, Bool.and_eq_true, decide_eq_true_eq, Bool.not_eq_true', Bool.not_eq_true']
  constructor
  · rintro ⟨⟨hopacity, hwidth⟩, hheight⟩
    exact ⟨hopacity, hwidth, hheight⟩
  · rintro ⟨hopacity, hwidth, hheight⟩
    exact ⟨⟨hopacity, hwidth⟩, hheight⟩

/-- The numbers in a state that decide where a sprite is drawn. -/
structure Measures where
  x : Double
  y : Double
  width : Double
  height : Double
  cosine : Double
  sine : Double

namespace Measures

structure Of (m : Measures) (state : SpriteState) : Prop where
  x : state.position.x.toDouble = .ok m.x
  y : state.position.y.toDouble = .ok m.y
  width : state.scale.x.toDouble = .ok m.width
  height : state.scale.y.toDouble = .ok m.height
  cosine : state.rotation.cos = .ok m.cosine
  sine : state.rotation.sin = .ok m.sine

/--
The point at a part of the width and of the height of an image with a side of 48 pixels, which is
flipped, scaled and turned about its origin.
-/
def corner (m : Measures) (origin : Origin) (state : SpriteState) (across down : Double) : Point :=
  let right := (across - origin.column) * 48 * (m.width * if state.hflip then -1 else 1)
  let below := (down - origin.row) * 48 * (m.height * if state.vflip then -1 else 1)
  ⟨m.x + right * m.cosine - below * m.sine, m.y + right * m.sine + below * m.cosine⟩

def corners (m : Measures) (origin : Origin) (state : SpriteState) : List Point :=
  [m.corner origin state 0 0, m.corner origin state 1 0, m.corner origin state 1 1,
    m.corner origin state 0 1]

end Measures

theorem exists_measures_of_outline {origin : Origin} {state : SpriteState} {corners : List Point}
    (h : origin.outline state = .ok corners) :
    ∃ m : Measures, m.Of state ∧ state.point = .ok ⟨m.x, m.y⟩ ∧
      corners = m.corners origin state := by
  unfold Origin.outline at h
  obtain ⟨width, hwidth, h⟩ := exists_of_bind_eq_ok h
  obtain ⟨height, hheight, h⟩ := exists_of_bind_eq_ok h
  obtain ⟨cosine, hcosine, h⟩ := exists_of_bind_eq_ok h
  obtain ⟨sine, hsine, h⟩ := exists_of_bind_eq_ok h
  obtain ⟨centre, hcentre, h⟩ := exists_of_bind_eq_ok h
  have hpoint := hcentre
  unfold SpriteState.point at hpoint
  obtain ⟨x, hx, hpoint⟩ := exists_of_bind_eq_ok hpoint
  obtain ⟨y, hy, hpoint⟩ := exists_of_bind_eq_ok hpoint
  cases hpoint
  cases h
  exact ⟨⟨x, y, width, height, cosine, sine⟩, ⟨hx, hy, hwidth, hheight, hcosine, hsine⟩, hcentre,
    rfl⟩

/-- The strokes are the outline of a sprite in a state, filled with its color, and its dot. -/
def IsFigure (origin : Origin) (state : SpriteState) (strokes : List Stroke) : Prop :=
  ∃ (m : Measures) (alpha : Nat), m.Of state ∧ HasAlpha state.opacity alpha ∧
    strokes =
      [.polygon (m.corners origin state)
          ⟨state.color.red, state.color.green, state.color.blue, alpha⟩ ⟨255, 255, 255, alpha⟩,
        .ellipse ⟨m.x - 2, m.y - 2⟩ ⟨m.x + 2, m.y + 2⟩ ⟨255, 255, 255, alpha⟩]

theorem spriteStrokes_of_outline {origin : Origin} {state : SpriteState} {corners : List Point}
    (h : origin.outline state = .ok corners) :
    ∃ strokes, spriteStrokes origin state = .ok strokes ∧ IsFigure origin state strokes := by
  obtain ⟨alpha, hrounded, halpha⟩ := exists_alpha state.opacity
  obtain ⟨m, hm, hcentre, rfl⟩ := exists_measures_of_outline h
  refine ⟨_, ?_, m, _, hm, halpha, rfl⟩
  unfold spriteStrokes
  rw [hrounded, h, hcentre]
  rfl

namespace Sprite

/-- What a frame has of a sprite: at most one stroke, with a picture of this sprite alone. -/
inductive DrawnAs (depths : Depths) (time : Int) (s : Sprite) : List Stroke → Prop where
  /-- There is no state at the time. -/
  | absent (sampled : s.stateAt depths time = .ok none) : DrawnAs depths time s []
  /-- Nothing is to be seen in the state. -/
  | unseen {state : SpriteState} (sampled : s.stateAt depths time = .ok (some state))
      (hidden : ¬ Shows state) : DrawnAs depths time s []
  /-- The picture is laid over what is below. -/
  | laidOver {state : SpriteState} {strokes : List Stroke}
      (sampled : s.stateAt depths time = .ok (some state)) (visible : Shows state)
      (plain : state.additive = false) (figure : IsFigure s.origin state strokes) :
      DrawnAs depths time s [.over (.canvas 640 480 ⟨0, 0, 0, 0⟩ strokes)]
  /-- The picture is laid over black, and its colors are added to what is below. -/
  | added {state : SpriteState} {strokes : List Stroke}
      (sampled : s.stateAt depths time = .ok (some state)) (visible : Shows state)
      (additive : state.additive = true) (figure : IsFigure s.origin state strokes) :
      DrawnAs depths time s
        [.add (.canvas 640 480 ⟨0, 0, 0, 255⟩ [.over (.canvas 640 480 ⟨0, 0, 0, 0⟩ strokes)])]

/-- The sprite can be sampled at a time, and has an outline then if it is to be seen. -/
def DrawableAt (depths : Depths) (time : Int) (s : Sprite) : Prop :=
  match s.stateAt depths time with
  | .ok (some state) => state.isVisible = true → (s.origin.outline state).isOk = true
  | .ok none => True
  | .error _ => False

instance (depths : Depths) (time : Int) (s : Sprite) : Decidable (s.DrawableAt depths time) := by
  unfold DrawableAt
  split <;> infer_instance

variable {depths : Depths} {time : Int} {s : Sprite}

theorem drawnAs_compose {state : SpriteState} {strokes : List Stroke}
    (sampled : s.stateAt depths time = .ok (some state)) (visible : Shows state)
    (figure : IsFigure s.origin state strokes) :
    s.DrawnAs depths time [compose state strokes] := by
  unfold compose
  dsimp only
  cases hadditive : state.additive with
  | false => exact .laidOver sampled visible hadditive figure
  | true => exact .added sampled visible hadditive figure

theorem DrawableAt.exists_strokesAt (h : s.DrawableAt depths time) :
    ∃ strokes, s.strokesAt depths time = .ok strokes ∧ s.DrawnAs depths time strokes := by
  unfold DrawableAt at h
  unfold strokesAt
  cases hsampled : s.stateAt depths time with
  | error e =>
      rw [hsampled] at h
      cases h
  | ok found =>
      rw [hsampled] at h
      cases found with
      | none => exact ⟨[], rfl, .absent hsampled⟩
      | some state =>
          cases hvisible : state.isVisible with
          | false =>
              have hhidden : ¬ Shows state := by
                rw [← isVisible_iff, hvisible]
                exact Bool.false_ne_true
              refine ⟨[], ?_, .unseen hsampled hhidden⟩
              show (if state.isVisible = true then _ else _) = _
              rw [hvisible]
              rfl
          | true =>
              obtain ⟨corners, houtline⟩ := exists_of_isOk (h hvisible)
              obtain ⟨strokes, hstrokes, hfigure⟩ := spriteStrokes_of_outline houtline
              refine ⟨_, ?_, drawnAs_compose hsampled (isVisible_iff.mp hvisible) hfigure⟩
              show (if state.isVisible = true then _ else _) = _
              rw [if_pos hvisible, hstrokes]
              rfl

end Sprite

/-! ## All sprites of a storyboard -/

namespace Board

theorem filterMap_allSprites (b : Board) :
    (b.allSprites.filterMap fun i => b.sprites[i]?) = Layer.all.flatMap b.sectionSprites := by
  rw [allSprites, List.filterMap_flatMap]
  rfl

/-- The storyboard is written sprite by sprite, within the sections of their bundles. -/
theorem text_eq_join_sprites (b : Board) :
    b.text = openingText ++ String.join (Layer.all.map fun layer =>
      layer.header ++ String.join ((b.sectionSprites layer).map (Sprite.text b.depths))) ++
        closingText := by
  have hsections : Layer.all.map b.sectionText = Layer.all.map fun layer =>
      layer.header ++ String.join ((b.sectionSprites layer).map (Sprite.text b.depths)) := by
    apply List.map_congr_left
    intro layer _
    exact b.sectionText_eq_join_sprites layer
  rw [text, hsections]

/-! ## Main result -/

/--
When every sprite of a storyboard can be drawn, its frame has the background, the lines of the grid
if there is to be one, first those from the top to the bottom, and then for the sprites that are
written, one after the other, what is to be seen of each of them.
-/
theorem frame_draws_in_text_order (b : Board) (time : Int) (grid : Bool)
    (h : ∀ layer, ∀ s ∈ b.sectionSprites layer, s.DrawableAt b.depths time) :
    b.text = openingText ++ String.join (Layer.all.map fun layer =>
        layer.header ++ String.join ((b.sectionSprites layer).map (Sprite.text b.depths))) ++
          closingText ∧
      ∃ drawn, List.Forall₂ (Sprite.DrawnAs b.depths time) (Layer.all.flatMap b.sectionSprites)
          drawn ∧
        b.frame time grid = .ok (.canvas 640 480 ⟨0, 0, 0, 255⟩
          ((if grid then
              (List.range 9).map (fun k => .line (80 * k) 0 (80 * k) 480 ⟨40, 40, 40, 255⟩) ++
                (List.range 7).map (fun k => .line 0 (80 * k) 640 (80 * k) ⟨40, 40, 40, 255⟩)
            else []) ++ drawn.flatten ++ [.flatten])) := by
  have hdrawable : ∀ s ∈ Layer.all.flatMap b.sectionSprites, ∃ strokes,
      s.strokesAt b.depths time = .ok strokes ∧ s.DrawnAs b.depths time strokes := by
    intro s hs
    obtain ⟨layer, -, hs⟩ := List.mem_flatMap.mp hs
    exact (h layer s hs).exists_strokesAt
  obtain ⟨drawn, hmap, hdrawn⟩ := exists_mapM_of_forall hdrawable
  refine ⟨b.text_eq_join_sprites, drawn, hdrawn, ?_⟩
  unfold frame
  dsimp only
  rw [filterMap_allSprites, hmap]
  rfl

/--
A bundle of the overlay is placed twice.  Its sprite is also in a bundle of the background, behind a
sprite with added colors and one that cannot be seen.
-/
def overlaid : List Step :=
  [.bundle .overlay, .bundle .background, .place 0, .place 1, .place 0,
    .sprite ⟨"star.png", .centre, Figure.defaultPosition, none⟩,
    .sprite ⟨"glow.png", .topLeft, Figure.defaultPosition, none⟩,
    .sprite ⟨"dim.png", .centre, Figure.defaultPosition, none⟩,
    .enlist 0 0, .enlist 1 1, .enlist 1 2, .enlist 1 0,
    .issue 0 ⟨⟨0, .linear, .scalar .fade (.change 1000 0 1)⟩, 0⟩,
    .issue 1 ⟨⟨0, .linear, .scalar .fade (.change 1000 1 0)⟩, 0⟩,
    .issue 1 ⟨⟨0, .linear, .flag .additive 1000⟩, 0⟩,
    .issue 2 ⟨⟨0, .linear, .scalar .fade (.change 1000 0 0)⟩, 0⟩]

theorem frame_of_overlaid :
    ((Layer.all.flatMap (empty.run overlaid).sectionSprites).map (·.path) =
        ["glow.png", "dim.png", "star.png", "star.png", "star.png"]) ∧
      (∀ layer, ∀ s ∈ (empty.run overlaid).sectionSprites layer,
        s.DrawableAt (empty.run overlaid).depths 500) ∧
      (empty.run overlaid).text = openingText ++ String.join (Layer.all.map fun layer =>
        layer.header ++ String.join (((empty.run overlaid).sectionSprites layer).map
          (Sprite.text (empty.run overlaid).depths))) ++ closingText ∧
      ∃ drawn, List.Forall₂ (Sprite.DrawnAs (empty.run overlaid).depths 500)
          (Layer.all.flatMap (empty.run overlaid).sectionSprites) drawn ∧
        (empty.run overlaid).frame 500 true = .ok (.canvas 640 480 ⟨0, 0, 0, 255⟩
          ((if true then
              (List.range 9).map (fun k => .line (80 * k) 0 (80 * k) 480 ⟨40, 40, 40, 255⟩) ++
                (List.range 7).map (fun k => .line 0 (80 * k) 640 (80 * k) ⟨40, 40, 40, 255⟩)
            else []) ++ drawn.flatten ++ [.flatten])) := by
  have hdrawable : ∀ layer, ∀ s ∈ (empty.run overlaid).sectionSprites layer,
      s.DrawableAt (empty.run overlaid).depths 500 := by
    intro layer
    cases layer <;> decide +kernel
  exact ⟨by decide +kernel, hdrawable,
    frame_draws_in_text_order (empty.run overlaid) 500 true hdrawable⟩

end Board
end Storyboard
