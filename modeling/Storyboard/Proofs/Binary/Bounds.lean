import Mathlib
import Storyboard.Proofs.Binary.Rounding

/-!
# Bounds that arithmetic keeps

`AtMost k x` says that `x` is not larger than two to the `k`, or is no number at all.  Sums, products
and quotients of such numbers are bounded in the same way, so that no infinity comes up on the way
as long as the bounds stay in range.
-/

namespace Storyboard
namespace Binary

variable {f : Format}

/-! ## Operations on finite numbers -/

theorem lt_iff_value_lt {x y : Binary f} (hx : x.isFinite) (hy : y.isFinite) :
    x < y ↔ x.value < y.value := by
  obtain ⟨s, m, e, canonical, rfl⟩ := exists_of_isFinite hx
  obtain ⟨s', m', e', canonical', rfl⟩ := exists_of_isFinite hy
  rw [lt_iff_below]
  exact decide_eq_true_iff

theorem add_eq_round {x y : Binary f} (hx : x.isFinite) (hy : y.isFinite) :
    x + y = round f (x.value + y.value) (x.isNegative && y.isNegative) := by
  obtain ⟨s, m, e, canonical, rfl⟩ := exists_of_isFinite hx
  obtain ⟨s', m', e', canonical', rfl⟩ := exists_of_isFinite hy
  rfl

theorem mul_eq_round {x y : Binary f} (hx : x.isFinite) (hy : y.isFinite) :
    x * y = round f (x.value * y.value) (x.isNegative ^^ y.isNegative) := by
  obtain ⟨s, m, e, canonical, rfl⟩ := exists_of_isFinite hx
  obtain ⟨s', m', e', canonical', rfl⟩ := exists_of_isFinite hy
  rfl

theorem value_eq_zero_of_isZero {y : Binary f} (h : y.isZero) : y.value = 0 := by
  cases y with
  | nan => cases h
  | infinite negative => cases h
  | finite s m e canonical =>
      have hzero : m = 0 := of_decide_eq_true h
      rw [value, scale_eq, hzero]
      simp

theorem div_eq_round {x y : Binary f} (hx : x.isFinite) (hy : y.isFinite) (hne : y.value ≠ 0) :
    x / y = round f (x.value / y.value) (x.isNegative ^^ y.isNegative) := by
  obtain ⟨s, m, e, canonical, rfl⟩ := exists_of_isFinite hx
  obtain ⟨s', m', e', canonical', rfl⟩ := exists_of_isFinite hy
  show (if isZero _ then _ else _) = _
  rw [if_neg fun hzero => hne (value_eq_zero_of_isZero hzero)]
  rfl

theorem isFinite_neg {x : Binary f} (h : x.isFinite) : (-x).isFinite := by
  obtain ⟨s, m, e, canonical, rfl⟩ := exists_of_isFinite h
  rfl

theorem isNegative_neg {x : Binary f} (h : x.isFinite) : (-x).isNegative = !x.isNegative := by
  obtain ⟨s, m, e, canonical, rfl⟩ := exists_of_isFinite h
  rfl

theorem sub_eq_round {x y : Binary f} (hx : x.isFinite) (hy : y.isFinite) :
    x - y = round f (x.value - y.value) (x.isNegative && !y.isNegative) := by
  show x + -y = _
  rw [add_eq_round hx (isFinite_neg hy), value_neg, isNegative_neg hy, sub_eq_add_neg]

theorem nan_add (y : Binary f) : .nan + y = .nan := by
  cases y with
  | nan => rfl
  | infinite negative => rfl
  | finite s m e canonical => rfl

theorem nan_mul (y : Binary f) : .nan * y = .nan := by
  cases y with
  | nan => rfl
  | infinite negative => rfl
  | finite s m e canonical => rfl

theorem nan_div (y : Binary f) : .nan / y = .nan := by
  cases y with
  | nan => rfl
  | infinite negative => rfl
  | finite s m e canonical => rfl

theorem mul_comm (x y : Binary f) : x * y = y * x := by
  show mul x y = mul y x
  cases x with
  | nan => exact (nan_mul y).trans (by cases y <;> rfl)
  | infinite s =>
      cases y with
      | nan => rfl
      | infinite t => simp only [mul, isZero, isNegative, Bool.xor_comm, Bool.false_eq_true, if_false]
      | finite t m e canonical =>
          simp only [mul, isNegative, Bool.xor_comm]
  | finite s m e canonical =>
      cases y with
      | nan => rfl
      | infinite t => simp only [mul, isNegative, Bool.xor_comm]
      | finite t m' e' canonical' => simp only [mul, Rat.mul_comm, Bool.xor_comm]

/-! ## Bounds in double precision -/

/-- A number that is at most as large as a power of two, or is no number. -/
def AtMost (k : Nat) (x : Double) : Prop :=
  x = .nan ∨ x.isFinite ∧ |x.value| ≤ 2 ^ k

theorem exists_value_eq_two_pow {k : Nat} (h : k ≤ 1023) :
    ∃ y : Double, y.isFinite ∧ |y.value| = 2 ^ k := by
  have hcanonical : Format.double.Canonical Format.double.leading ((k : Int) - 52) := by
    refine ⟨leading_lt_limit _, ?_, ?_, Or.inl le_rfl⟩
    · show (-1074 : Int) ≤ (k : Int) - 52
      omega
    · show (k : Int) - 52 ≤ 971
      omega
  exists .finite false _ _ hcanonical
  constructor
  · rfl
  · rw [abs_value_finite, cast_leading, ← zpow_add₀ two_ne_zero, ← zpow_natCast]
    congr 1
    show (52 : Int) + ((k : Int) - 52) = k
    omega

namespace AtMost

variable {j k : Nat} {x y : Double}

theorem of_finite (hfinite : x.isFinite) (hlow : -2 ^ k ≤ x.value) (hhigh : x.value ≤ 2 ^ k) :
    AtMost k x :=
  Or.inr ⟨hfinite, abs_le.mpr ⟨hlow, hhigh⟩⟩

theorem mono (h : AtMost j x) (hjk : j ≤ k) : AtMost k x := by
  cases h with
  | inl hnan => exact Or.inl hnan
  | inr hbound => exact Or.inr ⟨hbound.1, hbound.2.trans (pow_le_pow_right₀ one_le_two hjk)⟩

theorem round {q : ℚ} (hq : |q| ≤ 2 ^ k) (hk : k ≤ 1023) (zeroNegative : Bool) :
    AtMost k (Binary.round .double q zeroNegative) := by
  cases exists_value_eq_two_pow hk with
  | intro y hy =>
      rw [← hy.2] at hq
      have hround := round_le hy.1 hq zeroNegative
      rw [hy.2] at hround
      exact Or.inr hround

theorem neg (h : AtMost k x) : AtMost k (-x) := by
  cases h with
  | inl hnan =>
      rw [hnan]
      exact Or.inl rfl
  | inr hbound =>
      apply Or.inr
      constructor
      · exact isFinite_neg hbound.1
      · rw [value_neg, abs_neg]
        exact hbound.2

theorem add (hx : AtMost k x) (hy : AtMost k y) (hk : k + 1 ≤ 1023) : AtMost (k + 1) (x + y) := by
  cases hx with
  | inl hnan =>
      rw [hnan, nan_add]
      exact Or.inl rfl
  | inr hx =>
      cases hy with
      | inl hnan =>
          rw [hnan, add_comm, nan_add]
          exact Or.inl rfl
      | inr hy =>
          rw [add_eq_round hx.1 hy.1]
          apply round
          · calc |x.value + y.value| ≤ |x.value| + |y.value| := abs_add_le _ _
              _ ≤ 2 ^ k + 2 ^ k := add_le_add hx.2 hy.2
              _ = 2 ^ (k + 1) := by ring
          · exact hk

theorem sub (hx : AtMost k x) (hy : AtMost k y) (hk : k + 1 ≤ 1023) : AtMost (k + 1) (x - y) :=
  hx.add hy.neg hk

theorem mul (hx : AtMost j x) (hy : AtMost k y) (hk : j + k ≤ 1023) : AtMost (j + k) (x * y) := by
  cases hx with
  | inl hnan =>
      rw [hnan, nan_mul]
      exact Or.inl rfl
  | inr hx =>
      cases hy with
      | inl hnan =>
          rw [hnan, mul_comm, nan_mul]
          exact Or.inl rfl
      | inr hy =>
          rw [mul_eq_round hx.1 hy.1]
          apply round
          · rw [abs_mul, pow_add]
            exact mul_le_mul hx.2 hy.2 (abs_nonneg _) (by positivity)
          · exact hk

theorem div (hx : AtMost j x) (hfinite : y.isFinite) (hy : 1 ≤ y.value * 2 ^ k)
    (hk : j + k ≤ 1023) : AtMost (j + k) (x / y) := by
  cases hx with
  | inl hnan =>
      rw [hnan, nan_div]
      exact Or.inl rfl
  | inr hx =>
      have hscale : (0 : ℚ) < 2 ^ k := by positivity
      have hpos : 0 < y.value :=
        (mul_pos_iff_of_pos_right hscale).mp (zero_lt_one.trans_le hy)
      rw [div_eq_round hx.1 hfinite hpos.ne']
      apply round
      · rw [abs_div, abs_of_pos hpos, div_le_iff₀ hpos]
        calc |x.value| ≤ 2 ^ j * 1 := by
              rw [mul_one]
              exact hx.2
          _ ≤ 2 ^ j * (y.value * 2 ^ k) := by gcongr
          _ = 2 ^ (j + k) * y.value := by ring
      · exact hk

end AtMost
end Binary
end Storyboard
