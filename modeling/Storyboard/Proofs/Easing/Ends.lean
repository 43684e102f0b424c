import Mathlib
import Storyboard.Proofs.Binary.Order
import Storyboard.Proofs.Easing.Totality

/-!
# The ends of an easing

An easing is zero up to `epsilon` and one from there on where less than `epsilon` is left.  Only in
between its base curve is asked, and there the formula of every base curve has a value.
-/

namespace Storyboard

open Binary

theorem Binary.not_round_lt {f : Format} {q : ℚ} {y : Binary f} (hy : y.isFinite)
    (hpos : 0 < y.value) (h : y.value ≤ q) (zeroNegative : Bool) :
    ¬ round f q zeroNegative < y := by
  intro hlt
  have hq : 0 < q := hpos.trans_le h
  have hsign := isNegative_round f q zeroNegative
  rw [if_neg hq.ne', decide_eq_false hq.not_gt] at hsign
  cases hround : round f q zeroNegative with
  | nan => exact round_ne_nan f q zeroNegative hround
  | infinite negative =>
      rw [hround] at hlt hsign
      obtain ⟨s, m, e, canonical, rfl⟩ := exists_of_isFinite hy
      have hpositive : negative = false := hsign
      have hnegative : negative = true := hlt
      rw [hpositive] at hnegative
      cases hnegative
  | finite s m e canonical =>
      have hfinite : (round f q zeroNegative).isFinite := by
        rw [hround]
        rfl
      rw [lt_iff_value_lt hfinite hy] at hlt
      exact absurd hlt (le_round_value hy hpos h hfinite).not_gt

/-- No place belongs to both ends. -/
theorem not_lt_epsilon_of_one_sub_lt {x : Double} (h : 1 - x < epsilon) : ¬ x < epsilon := by
  intro hlow
  cases x with
  | nan => exact not_nan_lt _ hlow
  | infinite negative =>
      cases negative with
      | false => exact absurd hlow (by decide +kernel)
      | true => exact absurd h (by decide +kernel)
  | finite s m e canonical =>
      have hfinite : (Binary.finite s m e canonical : Double).isFinite := rfl
      have hsmall : 2 * epsilon.value ≤ 1 := by decide +kernel
      rw [lt_iff_value_lt hfinite epsilon_pos.1] at hlow
      rw [sub_eq_round one_double.1 hfinite, one_double.2] at h
      exact not_round_lt epsilon_pos.1 epsilon_pos.2 (by linarith) _ h

namespace Easing

/-- What the value of an easing at a progress is known to be. -/
structure Evaluates (e : Easing) (x v : Double) : Prop where
  value : e.calculate x = .ok v
  at_start : x < epsilon → v = 0
  at_finish : 1 - x < epsilon → v = 1

theorem exists_evaluates (e : Easing) (x : Double) : ∃ v, e.Evaluates x v := by
  cases e.exists_calculate x with
  | intro v hv =>
      exists v
      constructor
      · exact hv
      · intro hlow
        have hzero : e.calculate x = .ok 0 := e.curve.evaluate_of_lt_epsilon hlow
        exact Except.ok.inj (hv.symm.trans hzero)
      · intro hhigh
        have hone : e.calculate x = .ok 1 :=
          e.curve.evaluate_of_one_sub_lt_epsilon (not_lt_epsilon_of_one_sub_lt hhigh) hhigh
        exact Except.ok.inj (hv.symm.trans hone)

/--
At every progress an easing has a value.  To find it, its base curve is asked at most once, for a
place inside, and nowhere inside the formula of a base curve fails.
-/
theorem calculate_asks_inside (e : Easing) (x : Double) :
    e.calculate x = e.curve.evaluateWith BaseCurve.formula x ∧
      AsksInside e.curve.root (fun base => e.curve.evaluateWith base x) ∧
      (∀ (b : BaseCurve) (y : Double), Inside y → ∃ v, b.formula y = .ok v) ∧
      ∃ v, e.Evaluates x v := by
  refine ⟨rfl, e.curve.asksInside_evaluateWith x, ?_, e.exists_evaluates x⟩
  intro b y hy
  exact b.exists_formula hy.atMost

end Easing
end Storyboard
