import Mathlib
import Storyboard.Binary.Arithmetic
import Storyboard.Proofs.Binary.Magnitude

/-!
# Rounding and the numbers of a format

A number of a format is rounded to itself, with the exponent and the significand that it has.  What
is at most as large as some number of the format is rounded to something at most as large, and so
never to an infinity.
-/

namespace Storyboard
namespace Binary

variable {f : Format}

/-! ## Values as powers of two -/

theorem scale_eq (n e : Int) : scale n e = n * (2 : ℚ) ^ e := by
  have hpos : (2 : ℚ) ^ (-e).toNat ≠ 0 := by positivity
  rw [scale, Rat.mkRat_eq_div, Nat.one_shiftLeft, Nat.one_shiftLeft]
  push_cast
  rw [div_eq_iff hpos, two_pow_toNat e]
  ring

theorem value_zero (f : Format) (negative : Bool) : (zero f negative).value = 0 := by
  rw [zero, value, scale_eq]
  simp

theorem abs_value_finite (negative : Bool) (significand : Nat) (exponent : Int)
    (canonical : f.Canonical significand exponent) :
    |(Binary.finite negative significand exponent canonical).value| =
      (significand : ℚ) * 2 ^ exponent := by
  have hpos : (0 : ℚ) < 2 ^ exponent := by positivity
  rw [value, scale_eq, abs_mul, abs_of_pos hpos]
  cases negative with
  | false => simp
  | true => simp

theorem value_neg (x : Binary f) : (-x).value = -x.value := by
  cases x with
  | nan => rfl
  | infinite negative => rfl
  | finite negative significand exponent canonical =>
      show (Binary.finite (!negative) significand exponent canonical).value = _
      rw [value, value, scale_eq, scale_eq]
      cases negative with
      | false => simp
      | true => simp

/-! ## Exponents -/

section Exponent

variable {n d significand : Nat} {exponent : Int}

theorem lt_of_canonical (h : f.Canonical significand exponent) :
    (significand : ℚ) * 2 ^ exponent < 2 ^ (f.precision + exponent) := by
  have hlimit : (significand : ℚ) < f.limit := by exact_mod_cast h.1
  have hpos : (0 : ℚ) < 2 ^ exponent := by positivity
  rw [zpow_add₀ two_ne_zero, ← cast_limit]
  exact mul_lt_mul_of_pos_right hlimit hpos

theorem unitExponent_le (hn : n ≠ 0) (hd : 0 < d) (h : f.Canonical significand exponent)
    (hle : (n : ℚ) / d ≤ significand * 2 ^ exponent) : f.unitExponent n d ≤ exponent := by
  have hleading := leadingExponent_lt hn hd (hle.trans_lt (lt_of_canonical h))
  unfold Format.unitExponent
  apply max_le
  · exact h.2.1
  · omega

theorem le_unitExponent (hn : n ≠ 0) (hd : 0 < d) (h : f.Canonical significand exponent)
    (hle : (significand : ℚ) * 2 ^ exponent ≤ n / d) : exponent ≤ f.unitExponent n d := by
  unfold Format.unitExponent
  cases h.2.2.2 with
  | inr hleast =>
      rw [hleast]
      exact le_max_left _ _
  | inl hfull =>
      apply le_max_of_le_right
      have hleading : (2 : ℚ) ^ ((f.precision : Int) - 1 + exponent) ≤ n / d := by
        have hfullcast : (f.leading : ℚ) ≤ significand := by exact_mod_cast hfull
        have hpos : (0 : ℚ) ≤ 2 ^ exponent := by positivity
        rw [zpow_add₀ two_ne_zero, ← cast_leading]
        exact (mul_le_mul_of_nonneg_right hfullcast hpos).trans hle
      have hlt := (zpow_lt_zpow_iff_right₀ one_lt_two).mp
        (hleading.trans_lt (leadingExponent_spec hn hd).2)
      omega

end Exponent

/-! ## Rounding a fraction -/

section Fraction

variable {n d significand : Nat} {exponent : Int} {negative : Bool}

/-- The significand before it is looked at whether it needs one bit more. -/
def unitSignificand (f : Format) (n d : Nat) : Nat :=
  nearest (n <<< (-f.unitExponent n d).toNat) (d <<< (f.unitExponent n d).toNat)

theorem shiftLeft_pos (hd : 0 < d) (k : Nat) : 0 < d <<< k := by
  rw [Nat.shiftLeft_eq]
  positivity

theorem unitSignificand_le (hd : 0 < d) {k : Nat} (h : (n : ℚ) / d ≤ k * 2 ^ f.unitExponent n d) :
    unitSignificand f n d ≤ k :=
  nearest_le (shiftLeft_pos hd _) ((le_mul_shiftLeft_iff hd k _).mpr h)

theorem le_unitSignificand (hd : 0 < d) {k : Nat} (h : (k : ℚ) * 2 ^ f.unitExponent n d ≤ n / d) :
    k ≤ unitSignificand f n d :=
  le_nearest (shiftLeft_pos hd _) ((mul_shiftLeft_le_iff hd k _).mpr h)

theorem ofFraction_of_lt (hn : n ≠ 0) (h : f.Canonical (unitSignificand f n d) (f.unitExponent n d)) :
    ofFraction f negative n d = .finite negative (unitSignificand f n d) (f.unitExponent n d) h := by
  have hne : unitSignificand f n d ≠ f.limit := h.1.ne
  rw [unitSignificand] at hne
  rw [ofFraction, if_neg hn]
  dsimp only
  rw [if_neg hne]
  exact dif_pos h

theorem ofFraction_eq (hd : 0 < d) (h : f.Canonical significand exponent)
    (heq : (n : ℚ) / d = significand * 2 ^ exponent) :
    ofFraction f negative n d = .finite negative significand exponent h := by
  by_cases hn : n = 0
  · have hpos : (2 : ℚ) ^ exponent ≠ 0 := by positivity
    have hzero : significand = 0 := by
      rw [hn, Nat.cast_zero, zero_div, eq_comm, mul_eq_zero] at heq
      exact Nat.cast_eq_zero.mp (heq.resolve_right hpos)
    have hleast : exponent = f.minExponent := by
      apply h.2.2.2.resolve_left
      rw [hzero, Format.leading, Nat.one_shiftLeft]
      exact Nat.not_le.mpr (Nat.two_pow_pos _)
    subst hzero
    subst hleast
    rw [ofFraction, if_pos hn, zero]
  · have hexponent : f.unitExponent n d = exponent :=
      le_antisymm (unitExponent_le hn hd h heq.le) (le_unitExponent hn hd h heq.ge)
    have hsignificand : unitSignificand f n d = significand := by
      apply le_antisymm
      · apply unitSignificand_le hd
        rw [hexponent, heq]
      · apply le_unitSignificand hd
        rw [hexponent, heq]
    subst hexponent
    subst hsignificand
    exact ofFraction_of_lt hn h

theorem ofFraction_spec (hn : n ≠ 0) (hd : 0 < d) (hrange : f.unitExponent n d ≤ f.maxExponent)
    (hcarry : unitSignificand f n d = f.limit → f.unitExponent n d < f.maxExponent) :
    (ofFraction f negative n d).isFinite ∧
      |(ofFraction f negative n d).value| = unitSignificand f n d * 2 ^ f.unitExponent n d := by
  have hleast : f.minExponent ≤ f.unitExponent n d := le_max_left _ _
  have hbounds : unitSignificand f n d ≤ f.limit ∧
      (f.leading ≤ unitSignificand f n d ∨ f.unitExponent n d = f.minExponent) :=
    significand_bounds f hn hd
  by_cases hlimit : unitSignificand f n d = f.limit
  · have hbelow := hcarry hlimit
    have hcanonical : f.Canonical f.leading (f.unitExponent n d + 1) :=
      ⟨leading_lt_limit f, by omega, by omega, Or.inl le_rfl⟩
    have heq : ofFraction f negative n d = .finite negative f.leading _ hcanonical := by
      rw [unitSignificand] at hlimit
      rw [ofFraction, if_neg hn]
      dsimp only
      rw [if_pos hlimit]
      exact dif_pos hcanonical
    rw [heq]
    constructor
    · rfl
    · rw [abs_value_finite, hlimit, cast_leading, cast_limit, ← zpow_add₀ two_ne_zero,
        ← zpow_add₀ two_ne_zero]
      congr 1
      omega
  · have hcanonical : f.Canonical (unitSignificand f n d) (f.unitExponent n d) :=
      ⟨lt_of_le_of_ne hbounds.1 hlimit, hleast, hrange, hbounds.2⟩
    rw [ofFraction_of_lt hn hcanonical]
    constructor
    · rfl
    · rw [abs_value_finite]

theorem ofFraction_le (hd : 0 < d) (h : f.Canonical significand exponent)
    (hle : (n : ℚ) / d ≤ significand * 2 ^ exponent) :
    (ofFraction f negative n d).isFinite ∧
      |(ofFraction f negative n d).value| ≤ significand * 2 ^ exponent := by
  by_cases hn : n = 0
  · rw [ofFraction, if_pos hn]
    constructor
    · rfl
    · rw [zero, abs_value_finite, Nat.cast_zero, zero_mul]
      positivity
  · have hexponent := unitExponent_le hn hd h hle
    have hpos : (0 : ℚ) < 2 ^ f.unitExponent n d := by positivity
    -- At the exponent of the fraction the bound is a whole number of last places.
    have hbound := cast_mul_two_zpow significand hexponent
    have hsignificand : unitSignificand f n d ≤
        significand * 2 ^ (exponent - f.unitExponent n d).toNat := by
      apply unitSignificand_le hd
      rw [← hbound]
      exact hle
    have hvalue : (unitSignificand f n d : ℚ) * 2 ^ f.unitExponent n d ≤
        significand * 2 ^ exponent := by
      rw [hbound]
      exact mul_le_mul_of_nonneg_right (Nat.cast_le.mpr hsignificand) hpos.le
    have hcarry : unitSignificand f n d = f.limit → f.unitExponent n d < f.maxExponent := by
      intro hlimit
      rw [hlimit, cast_limit, ← zpow_add₀ two_ne_zero] at hvalue
      have hlt := (zpow_lt_zpow_iff_right₀ one_lt_two).mp
        (hvalue.trans_lt (lt_of_canonical h))
      have hmost := h.2.2.1
      omega
    have hspec : (ofFraction f negative n d).isFinite ∧
        |(ofFraction f negative n d).value| = unitSignificand f n d * 2 ^ f.unitExponent n d :=
      ofFraction_spec hn hd (hexponent.trans h.2.2.1) hcarry
    constructor
    · exact hspec.1
    · rw [hspec.2]
      exact hvalue

end Fraction

/-! ## Rounding a rational -/

theorem round_eq (f : Format) (q : ℚ) (zeroNegative : Bool) :
    round f q zeroNegative =
      ofFraction f (if q = 0 then zeroNegative else decide (q < 0)) q.num.natAbs q.den := by
  have hsign : (if q.num = 0 then zeroNegative else decide (q.num < 0)) =
      if q = 0 then zeroNegative else decide (q < 0) := by
    simp only [Rat.num_eq_zero, Rat.num_neg]
  rw [round, hsign]

theorem value_nonneg {x : Binary f} (h : x.isNegative = false) : 0 ≤ x.value := by
  cases x with
  | nan => exact le_rfl
  | infinite negative => exact le_rfl
  | finite negative significand exponent canonical =>
      have hnonnegative : negative = false := h
      rw [value, scale_eq, hnonnegative, if_neg Bool.false_ne_true, Int.cast_natCast]
      positivity

theorem value_nonpos {x : Binary f} (h : x.isNegative = true) : x.value ≤ 0 := by
  cases x with
  | nan => exact le_rfl
  | infinite negative => exact le_rfl
  | finite negative significand exponent canonical =>
      have hnegative : negative = true := h
      rw [value, scale_eq, hnegative, if_pos rfl, Int.cast_neg, Int.cast_natCast, neg_mul,
        neg_nonpos]
      positivity

/-- Only the sign of a zero cannot be told from the value. -/
theorem decide_value_neg {x : Binary f} (hfinite : x.isFinite) (h : x.value ≠ 0) :
    decide (x.value < 0) = x.isNegative := by
  obtain ⟨negative, significand, exponent, canonical, rfl⟩ := exists_of_isFinite hfinite
  have hpos : (0 : ℚ) < 2 ^ exponent := by positivity
  rw [value, scale_eq] at h ⊢
  have hne : significand ≠ 0 := by
    intro hzero
    apply h
    rw [hzero]
    simp
  have hsignificand : (0 : ℚ) < significand := Nat.cast_pos.mpr (Nat.pos_of_ne_zero hne)
  cases negative with
  | false =>
      apply decide_eq_false
      rw [not_lt]
      exact mul_nonneg hsignificand.le hpos.le
  | true =>
      apply decide_eq_true
      rw [if_pos rfl, Int.cast_neg, neg_mul, neg_lt_zero]
      exact mul_pos hsignificand hpos

theorem round_value {x : Binary f} (h : x.isFinite) {zeroNegative : Bool}
    (hzero : x.value = 0 → zeroNegative = x.isNegative) : round f x.value zeroNegative = x := by
  have hsign : (if x.value = 0 then zeroNegative else decide (x.value < 0)) = x.isNegative := by
    split
    next heq => exact hzero heq
    next hne => exact decide_value_neg h hne
  rw [round_eq, hsign]
  obtain ⟨negative, significand, exponent, canonical, rfl⟩ := exists_of_isFinite h
  apply ofFraction_eq (Rat.den_pos _)
  rw [cast_natAbs_num_div, abs_value_finite]

/-- Only zeros have the same value and differ. -/
theorem eq_of_value_eq {x y : Binary f} (hx : x.isFinite) (hy : y.isFinite) (hne : y.value ≠ 0)
    (h : x.value = y.value) : x = y := by
  calc x = round f x.value false := (round_value hx fun heq => absurd (h ▸ heq) hne).symm
    _ = round f y.value false := by rw [h]
    _ = y := round_value hy fun heq => absurd heq hne

theorem round_le {q : ℚ} {y : Binary f} (hy : y.isFinite) (h : |q| ≤ |y.value|)
    (zeroNegative : Bool) :
    (round f q zeroNegative).isFinite ∧ |(round f q zeroNegative).value| ≤ |y.value| := by
  obtain ⟨negative, significand, exponent, canonical, rfl⟩ := exists_of_isFinite hy
  rw [abs_value_finite] at h ⊢
  rw [← cast_natAbs_num_div] at h
  exact ofFraction_le q.den_pos canonical h

theorem round_ne_nan (f : Format) (q : ℚ) (zeroNegative : Bool) :
    round f q zeroNegative ≠ .nan := by
  have hpack : ∀ negative significand exponent, pack f negative significand exponent ≠ .nan := by
    intro negative significand exponent
    unfold pack
    split
    · intro h
      cases h
    · intro h
      cases h
  unfold round ofFraction
  split
  · intro h
    cases h
  · dsimp only
    split
    · exact hpack _ _ _
    · exact hpack _ _ _

theorem isNegative_ofFraction (f : Format) (negative : Bool) (n d : Nat) :
    (ofFraction f negative n d).isNegative = negative := by
  have hpack : ∀ significand exponent,
      (pack f negative significand exponent).isNegative = negative := by
    intro significand exponent
    unfold pack
    split
    · rfl
    · rfl
  unfold ofFraction
  split
  · rfl
  · dsimp only
    split
    · exact hpack _ _
    · exact hpack _ _

theorem isNegative_round (f : Format) (q : ℚ) (zeroNegative : Bool) :
    (round f q zeroNegative).isNegative = if q = 0 then zeroNegative else decide (q < 0) := by
  rw [round_eq, isNegative_ofFraction]

end Binary
end Storyboard
