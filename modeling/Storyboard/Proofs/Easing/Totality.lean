import Mathlib
import Storyboard.Easing.Curve
import Storyboard.Proofs.Binary.Bounds

/-!
# Every easing has a value everywhere

Some base curves have formulas that fail for certain arguments: the root of a negative number, a
power that is too large, the cosine of an infinity.  Each level of a curve holds its ends, so that a
formula is only ever asked for a place between zero and one, and there none of them fails.
-/

namespace Storyboard

/-! ## The domains of the elementary functions -/

namespace Binary

variable {f : Format}

theorem exists_cos {k : Nat} {x : Double} (h : AtMost k x) : ∃ y, x.cos = .ok y := by
  cases x with
  | nan => exact ⟨.nan, rfl⟩
  | infinite negative =>
      cases h with
      | inl hnan => cases hnan
      | inr hbound => cases hbound.1
  | finite negative significand exponent canonical =>
      simp only [cos]
      split
      · exact ⟨_, rfl⟩
      · exact ⟨_, rfl⟩

theorem exists_sin {k : Nat} {x : Double} (h : AtMost k x) : ∃ y, x.sin = .ok y := by
  cases x with
  | nan => exact ⟨.nan, rfl⟩
  | infinite negative =>
      cases h with
      | inl hnan => cases hnan
      | inr hbound => cases hbound.1
  | finite negative significand exponent canonical =>
      simp only [sin]
      split
      · exact ⟨_, rfl⟩
      · exact ⟨_, rfl⟩

theorem exists_exp2 {x : Double} (h : AtMost 9 x) : ∃ y, x.exp2 = .ok y := by
  cases x with
  | nan => exact ⟨.nan, rfl⟩
  | infinite negative =>
      cases h with
      | inl hnan => cases hnan
      | inr hbound => cases hbound.1
  | finite negative significand exponent canonical =>
      have hbound : (finite negative significand exponent canonical).value ≤ 2 ^ 9 := by
        cases h with
        | inl hnan => cases hnan
        | inr hbound => exact (le_abs_self _).trans hbound.2
      have hrange : ¬ ((Format.double.maxExponent + Format.double.precision : Int) : ℚ) ≤
          (finite negative significand exponent canonical).value := by
        rw [not_le]
        apply hbound.trans_lt
        show (2 : ℚ) ^ 9 < ((1024 : Int) : ℚ)
        norm_num
      unfold exp2
      dsimp only
      rw [if_neg hrange]
      split
      · exact ⟨_, rfl⟩
      · exact ⟨_, rfl⟩

theorem exists_sqrt {x : Binary f} (h : x.isNegative = false) : ∃ y, x.sqrt = .ok y := by
  cases x with
  | nan => exact ⟨.nan, rfl⟩
  | infinite negative =>
      have hpositive : negative = false := h
      rw [hpositive]
      exact ⟨.infinite false, rfl⟩
  | finite negative significand exponent canonical =>
      have hpositive : negative = false := h
      simp only [sqrt, hpositive, Bool.false_eq_true, if_false]
      split
      · exact ⟨_, rfl⟩
      · exact ⟨_, rfl⟩

theorem lt_of_isNegative {x y : Binary f} (hx : x.isNegative) (hy : y.isFinite)
    (hpos : 0 < y.value) : x < y := by
  cases x with
  | nan => cases hx
  | infinite negative =>
      obtain ⟨s, m, e, canonical, rfl⟩ := exists_of_isFinite hy
      exact hx
  | finite negative significand exponent canonical =>
      rw [lt_iff_value_lt rfl hy]
      exact (value_nonpos hx).trans_lt hpos

end Binary

open Binary

/-! ## Base curves -/

/-- A place at which neither end of a curve is held. -/
def Inside (x : Double) : Prop :=
  ¬ x < epsilon ∧ ¬ 1 - x < epsilon

theorem epsilon_pos : epsilon.isFinite ∧ 0 < epsilon.value := by
  decide +kernel

theorem one_double : (1 : Double).isFinite ∧ (1 : Double).value = 1 := by
  decide +kernel

theorem Inside.atMost {x : Double} (h : Inside x) : AtMost 0 x := by
  cases x with
  | nan => exact Or.inl rfl
  | infinite negative =>
      exfalso
      cases negative with
      | false =>
          apply h.2
          decide +kernel
      | true =>
          apply h.1
          decide +kernel
  | finite negative significand exponent canonical =>
      generalize hx : Binary.finite negative significand exponent canonical = x at h
      have hfinite : x.isFinite := by
        rw [← hx]
        rfl
      apply AtMost.of_finite hfinite
      · have hlow := h.1
        rw [lt_iff_value_lt hfinite epsilon_pos.1, not_lt] at hlow
        have hpos := epsilon_pos.2.trans_le hlow
        linarith only [hpos]
      · -- Beyond one, the rest of the way is negative and counts as the end.
        by_contra hlarge
        rw [pow_zero, not_le] at hlarge
        apply h.2
        apply lt_of_isNegative _ epsilon_pos.1 epsilon_pos.2
        show (1 + -x).isNegative = true
        have hneg : 1 + -x.value < 0 := by linarith only [hlarge]
        rw [add_eq_round one_double.1 (isFinite_neg hfinite), value_neg, one_double.2,
          isNegative_round, if_neg hneg.ne]
        exact decide_eq_true hneg

theorem not_isNegative_one_sub_sq {x : Double} (h : AtMost 0 x) :
    (1 - x * x).isNegative = false := by
  cases h with
  | inl hnan =>
      rw [hnan]
      decide +kernel
  | inr hx =>
      have hsquare : |x.value * x.value| ≤ |(1 : Double).value| := by
        rw [one_double.2, abs_one, abs_mul]
        exact mul_le_one₀ hx.2 (abs_nonneg _) hx.2
      have hround := round_le one_double.1 hsquare (x.isNegative ^^ x.isNegative)
      rw [← mul_eq_round hx.1 hx.1, one_double.2, abs_one] at hround
      show (1 + -(x * x)).isNegative = false
      have hnonneg : 0 ≤ 1 + -(x * x).value := by
        have hle := (le_abs_self _).trans hround.2
        linarith only [hle]
      have hpositive : (1 : Double).isNegative = false := by decide +kernel
      rw [add_eq_round one_double.1 (isFinite_neg hround.1), value_neg, one_double.2,
        isNegative_round, hpositive]
      split
      · rfl
      · exact decide_eq_false hnonneg.not_gt

theorem constants_atMost :
    AtMost 4 (10 : Double) ∧ AtMost 0 (1 : Double) ∧ AtMost 1 (2 : Double) ∧
      AtMost 0 (0.075 : Double) ∧ AtMost 2 pi := by
  refine ⟨?_, ?_, ?_, ?_, ?_⟩ <;>
    exact AtMost.of_finite (by decide +kernel) (by decide +kernel) (by decide +kernel)

theorem BaseCurve.exists_formula (b : BaseCurve) {x : Double} (h : AtMost 0 x) :
    ∃ y, b.formula x = .ok y := by
  have ⟨hten, hone, htwo, hshift, hpi⟩ := constants_atMost
  cases b with
  | sine =>
      have hangle : AtMost 2 (x * pi / 2) :=
        (h.mul hpi (by decide)).div (k := 0) (y := 2) (by decide +kernel) (by decide +kernel)
          (by decide)
      cases exists_cos hangle with
      | intro y hy =>
          exists 1 - y
          simp only [formula, hy]
          rfl
  | expo =>
      have hexponent : AtMost 5 (10 * (x - 1)) := hten.mul (h.sub hone (by decide)) (by decide)
      exact exists_exp2 (hexponent.mono (by decide))
  | circ =>
      cases exists_sqrt (not_isNegative_one_sub_sq h) with
      | intro y hy =>
          exists 1 - y
          simp only [formula, hy]
          rfl
  | elasticOut =>
      have hexponent : AtMost 4 (-10 * x) := hten.neg.mul h (by decide)
      have hturns : AtMost 4 ((x - 0.075) * 2 * pi) :=
        ((h.sub hshift (by decide)).mul htwo (by decide)).mul hpi (by decide)
      have hangle : AtMost 6 ((x - 0.075) * 2 * pi / 0.3) :=
        hturns.div (k := 2) (y := 0.3) (by decide +kernel) (by decide +kernel) (by decide)
      cases exists_exp2 (hexponent.mono (by decide)) with
      | intro decay hdecay =>
          cases exists_sin hangle with
          | intro y hy =>
              exists decay * y + 1
              simp only [formula, hdecay, hy]
              rfl
  | _ => exact ⟨_, rfl⟩

/-! ## Curves -/

/-- The base curve that a curve is built from. -/
def Curve.root : Curve → BaseCurve
  | .base b => b
  | .reversed c => c.root
  | .inOut c => c.root

/--
How a computation uses the base curves, whatever these are taken to mean: either not at all, or `b`
is asked once, for its value at a place inside, and what else the base curves may answer or refuse
has no influence.
-/
inductive AsksInside (b : BaseCurve)
    (run : (BaseCurve → Double → Except Failure Double) → Except Failure Double) : Prop where
  | never (v : Double) (h : ∀ base, run base = .ok v)
  | once (y : Double) (inside : Inside y) (after : Double → Double)
      (h : ∀ base, run base = (base b y).map after)

namespace AsksInside

variable {b : BaseCurve}
  {run : (BaseCurve → Double → Except Failure Double) → Except Failure Double}

theorem bind_pure (h : AsksInside b run) (g : Double → Double) :
    AsksInside b fun base => do return g (← run base) := by
  cases h with
  | never v h =>
      apply never (g v)
      intro base
      rw [h base]
      rfl
  | once y inside after h =>
      apply once y inside (g ∘ after)
      intro base
      rw [h base]
      cases base b y with
      | error failure => rfl
      | ok v => rfl

theorem snapped {inside : (BaseCurve → Double → Except Failure Double) → Double →
    Except Failure Double} (h : ∀ y, Inside y → AsksInside b fun base => inside base y)
    (x : Double) : AsksInside b fun base => Storyboard.snapped (inside base) x := by
  by_cases hlow : x < epsilon
  · apply never 0
    intro base
    exact if_pos hlow
  · by_cases hhigh : 1 - x < epsilon
    · apply never 1
      intro base
      unfold Storyboard.snapped
      rw [if_neg hlow, if_pos hhigh]
    · have hbetween : ∀ base, Storyboard.snapped (inside base) x = inside base x := by
        intro base
        unfold Storyboard.snapped
        rw [if_neg hlow, if_neg hhigh]
      simp only [hbetween]
      exact h x ⟨hlow, hhigh⟩

/-- A computation has a value if the base curve has one everywhere inside. -/
theorem exists_ok (h : AsksInside b run) {base : BaseCurve → Double → Except Failure Double}
    (hbase : ∀ y, Inside y → ∃ v, base b y = .ok v) : ∃ v, run base = .ok v := by
  cases h with
  | never v h => exact ⟨v, h base⟩
  | once y inside after h =>
      cases hbase y inside with
      | intro v hv =>
          exists after v
          rw [h base, hv]
          rfl

end AsksInside

theorem Curve.asksInside_insideWith (c : Curve) {x : Double} (hx : Inside x) :
    AsksInside c.root fun base => c.insideWith base x := by
  induction c generalizing x with
  | base b =>
      apply AsksInside.once x hx id
      intro base
      exact (congrFun Except.map_id (base b x)).symm
  | reversed c ih => exact (AsksInside.snapped (fun y => ih) (1 - x)).bind_pure fun v => 1 - v
  | inOut c ih =>
      by_cases hhalf : x < 0.5
      · simp only [insideWith, if_pos hhalf]
        exact (AsksInside.snapped (fun y => ih) (2 * x)).bind_pure fun v => 0.5 * v
      · simp only [insideWith, if_neg hhalf]
        exact (AsksInside.snapped (fun y => ih) (2 - 2 * x)).bind_pure fun v => 0.5 * (2 - v)

/-- However a curve is built, its base curve is only asked for places inside. -/
theorem Curve.asksInside_evaluateWith (c : Curve) (x : Double) :
    AsksInside c.root fun base => c.evaluateWith base x :=
  AsksInside.snapped (fun _ hy => c.asksInside_insideWith hy) x

theorem Easing.exists_calculate (e : Easing) (x : Double) : ∃ y, e.calculate x = .ok y := by
  apply (e.curve.asksInside_evaluateWith x).exists_ok
  intro place hplace
  exact e.curve.root.exists_formula hplace.atMost

end Storyboard
