import Mathlib
import Storyboard.Proofs.Binary.Rounding

/-!
# Rounding and order

Rounding to an integer turns at the halves: a half itself goes to the even neighbour.  Rounding to a
format never crosses a number of the format, in either direction.
-/

namespace Storyboard

/-! ## The nearest integer -/

theorem nearest_le_iff {n d : Nat} (hd : 0 < d) (k : Nat) :
    nearest n d ≤ k ↔ 2 * n < (2 * k + 1) * d ∨ 2 * n = (2 * k + 1) * d ∧ k % 2 = 0 := by
  have hrest : n % d < d := Nat.mod_lt n hd
  have hsplit : n = n / d * d + n % d := by
    rw [Nat.mul_comm]
    exact (Nat.div_add_mod n d).symm
  unfold nearest
  dsimp only
  generalize n / d = m at hsplit ⊢
  generalize n % d = r at hsplit hrest ⊢
  have htwice : (2 * k + 1) * d = 2 * (k * d) + d := by ring
  rw [htwice]
  rcases Nat.lt_trichotomy m k with hlt | heq | hlt
  · have hmul : (m + 1) * d ≤ k * d := Nat.mul_le_mul_right d hlt
    rw [Nat.add_mul, Nat.one_mul] at hmul
    constructor
    · intro _
      exact Or.inl (by omega)
    · intro _
      split
      · omega
      · split
        · omega
        · omega
  · subst heq
    constructor
    · intro h
      split at h
      · exact Or.inl (by omega)
      · split at h
        · omega
        · exact Or.inr (by omega)
    · intro h
      split
      · omega
      · split
        · omega
        · omega
  · have hmul : (k + 1) * d ≤ m * d := Nat.mul_le_mul_right d hlt
    rw [Nat.add_mul, Nat.one_mul] at hmul
    constructor
    · intro h
      split at h
      · omega
      · split at h
        · omega
        · omega
    · intro h
      omega

namespace Binary

variable {f : Format}

/-- What is below a half is rounded down, and so is the half itself after an even number. -/
theorem nearestInt_le_iff (q : ℚ) (k : Nat) :
    nearestInt q ≤ k ↔ q < k + 1 / 2 ∨ q = k + 1 / 2 ∧ k % 2 = 0 := by
  have hden : (0 : ℚ) < q.den := Nat.cast_pos.mpr q.den_pos
  unfold nearestInt
  dsimp only
  split
  next hneg =>
    have hlt : q < 0 := Rat.num_neg.mp hneg
    constructor
    · intro _
      apply Or.inl
      have hk : (0 : ℚ) ≤ k := Nat.cast_nonneg k
      linarith
    · intro _
      omega
  next hnonneg =>
    have hq : q = (q.num.natAbs : ℚ) / q.den := by
      rw [cast_natAbs_num_div, abs_of_nonneg]
      exact Rat.num_nonneg.mp (Int.not_lt.mp hnonneg)
    have hlt : q < k + 1 / 2 ↔ 2 * q.num.natAbs < (2 * k + 1) * q.den := by
      rw [← Nat.cast_lt (α := ℚ)]
      conv_lhs => rw [hq]
      rw [div_lt_iff₀ hden]
      push_cast
      constructor
      · intro h
        linarith
      · intro h
        linarith
    have heq : q = k + 1 / 2 ↔ 2 * q.num.natAbs = (2 * k + 1) * q.den := by
      rw [← Nat.cast_inj (R := ℚ)]
      conv_lhs => rw [hq]
      rw [div_eq_iff hden.ne']
      push_cast
      constructor
      · intro h
        linarith
      · intro h
        linarith
    rw [Nat.cast_le, nearest_le_iff q.den_pos, hlt, heq]

/-! ## Bounds from below -/

theorem canonical_of_isFinite_pack {negative : Bool} {significand : Nat} {exponent : Int}
    (h : (pack f negative significand exponent).isFinite) : f.Canonical significand exponent := by
  unfold pack at h
  split at h
  next canonical => exact canonical
  next => cases h

theorem unitExponent_le_of_isFinite {negative : Bool} {n d : Nat} (hn : n ≠ 0)
    (h : (ofFraction f negative n d).isFinite) :
    f.unitExponent n d ≤ f.maxExponent ∧
      (unitSignificand f n d = f.limit → f.unitExponent n d < f.maxExponent) := by
  rw [ofFraction, if_neg hn] at h
  dsimp only at h
  split at h
  next hlimit =>
    have hmost := (canonical_of_isFinite_pack h).2.2.1
    constructor
    · omega
    · intro _
      omega
  next hlimit =>
    constructor
    · exact (canonical_of_isFinite_pack h).2.2.1
    · intro h
      exact absurd h hlimit

theorem le_ofFraction {negative : Bool} {n d significand : Nat} {exponent : Int} (hd : 0 < d)
    (h : f.Canonical significand exponent) (hle : (significand : ℚ) * 2 ^ exponent ≤ n / d)
    (hfinite : (ofFraction f negative n d).isFinite) :
    (significand : ℚ) * 2 ^ exponent ≤ |(ofFraction f negative n d).value| := by
  by_cases hn : n = 0
  · rw [hn, Nat.cast_zero, zero_div] at hle
    exact hle.trans (abs_nonneg _)
  · obtain ⟨hrange, hcarry⟩ := unitExponent_le_of_isFinite hn hfinite
    rw [(ofFraction_spec hn hd hrange hcarry).2]
    cases (le_unitExponent hn hd h hle).eq_or_lt with
    | inl heq =>
        rw [heq] at hle ⊢
        have hsignificand := le_unitSignificand hd hle
        gcongr
    | inr hlt =>
        -- At a higher exponent the leading bit alone is more than the bound.
        have hleading : f.leading ≤ unitSignificand f n d := by
          apply (significand_bounds f hn hd).2.resolve_right
          have hleast := h.2.1
          omega
        calc (significand : ℚ) * 2 ^ exponent
            ≤ 2 ^ (f.precision + exponent) := (lt_of_canonical h).le
          _ ≤ 2 ^ ((f.precision : Int) - 1 + f.unitExponent n d) := by
              apply zpow_le_zpow_right₀ one_le_two
              omega
          _ = f.leading * 2 ^ f.unitExponent n d := by
              rw [cast_leading, zpow_add₀ two_ne_zero]
          _ ≤ unitSignificand f n d * 2 ^ f.unitExponent n d := by
              gcongr

theorem le_round {q : ℚ} {y : Binary f} (hy : y.isFinite) (h : |y.value| ≤ |q|)
    {zeroNegative : Bool} (hfinite : (round f q zeroNegative).isFinite) :
    |y.value| ≤ |(round f q zeroNegative).value| := by
  obtain ⟨negative, significand, exponent, canonical, rfl⟩ := exists_of_isFinite hy
  rw [abs_value_finite] at h ⊢
  rw [← cast_natAbs_num_div] at h
  exact le_ofFraction q.den_pos canonical h hfinite

/-! ## Positive bounds -/

theorem round_value_le {q : ℚ} {y : Binary f} (hy : y.isFinite) (hpos : 0 < y.value)
    (h : q ≤ y.value) (zeroNegative : Bool) : (round f q zeroNegative).value ≤ y.value := by
  by_cases hq : q < 0
  · have hsign : (round f q zeroNegative).isNegative = true := by
      rw [isNegative_round, if_neg hq.ne, decide_eq_true hq]
    exact (value_nonpos hsign).trans hpos.le
  · have habs : |q| ≤ |y.value| := by
      rw [abs_of_nonneg (not_lt.mp hq), abs_of_pos hpos]
      exact h
    have hround := (round_le hy habs zeroNegative).2
    rw [abs_of_pos hpos] at hround
    exact (le_abs_self _).trans hround

theorem le_round_value {q : ℚ} {y : Binary f} (hy : y.isFinite) (hpos : 0 < y.value)
    (h : y.value ≤ q) {zeroNegative : Bool} (hfinite : (round f q zeroNegative).isFinite) :
    y.value ≤ (round f q zeroNegative).value := by
  have hq : 0 < q := hpos.trans_le h
  have hsign : (round f q zeroNegative).isNegative = false := by
    rw [isNegative_round, if_neg hq.ne', decide_eq_false hq.not_gt]
  have habs : |y.value| ≤ |q| := by
    rw [abs_of_pos hpos, abs_of_pos hq]
    exact h
  have hround := le_round hy habs hfinite
  rw [abs_of_pos hpos, abs_of_nonneg (value_nonneg hsign)] at hround
  exact hround

end Binary
end Storyboard
