import Mathlib
import Storyboard.Decimal.Basic
import Storyboard.Proofs.Binary.Monotone

/-!
# Reading decimals as binary numbers

A decimal is read by rounding the rational that it stands for.  Decimals far beyond either end of a
format are recognised by their exponents alone, but what they are read as is the same.  So reading
depends on the value and the sign only, and it is monotone.
-/

namespace Storyboard

/-- The format has numbers on both sides of one. -/
structure Binary.Format.SpansOne (f : Binary.Format) : Prop where
  minExponent_nonpos : f.minExponent ≤ 0
  maxExponent_nonneg : 0 ≤ f.maxExponent + f.precision

theorem Binary.Format.single_spansOne : Binary.Format.single.SpansOne :=
  ⟨by decide, by decide⟩

namespace Decimal

/-! ## The rational behind a decimal -/

theorem tenTo_eq (e : Int) : tenTo e = (10 : ℚ) ^ e := by
  have hpos : (10 : ℚ) ^ (-e).toNat ≠ 0 := by positivity
  rw [tenTo, Rat.mkRat_eq_div, Nat.pow_eq, Nat.pow_eq]
  push_cast
  rw [div_eq_iff hpos, ← zpow_natCast, ← zpow_natCast, ← zpow_add₀ (by norm_num)]
  congr 1
  omega

theorem ten_zpow_natCast (k : Nat) : (10 : ℚ) ^ (k : Int) = ((10 ^ k : Nat) : ℚ) := by
  rw [zpow_natCast]
  push_cast
  rfl

theorem cast_mul_ten_zpow (n k : Nat) (e : Int) :
    ((n * 10 ^ k : Nat) : ℚ) * 10 ^ e = n * 10 ^ (k + e) := by
  rw [Nat.cast_mul, mul_assoc, ← ten_zpow_natCast, ← zpow_add₀ (by norm_num)]

theorem magnitude_eq (d : Decimal) : d.magnitude = d.coefficient * (10 : ℚ) ^ d.exponent := by
  rw [magnitude, tenTo_eq]

theorem magnitude_nonneg (d : Decimal) : 0 ≤ d.magnitude := by
  rw [magnitude_eq]
  positivity

theorem abs_value (d : Decimal) : |d.value| = d.magnitude := by
  unfold value
  split
  · rw [abs_neg, abs_of_nonneg d.magnitude_nonneg]
  · exact abs_of_nonneg d.magnitude_nonneg

theorem value_eq_zero_iff (d : Decimal) : d.value = 0 ↔ d.magnitude = 0 := by
  rw [← abs_eq_zero, abs_value]

theorem decide_value_neg (d : Decimal) :
    (if d.value = 0 then d.negative else decide (d.value < 0)) = d.negative := by
  split
  next => rfl
  next hne =>
    have hpos : 0 < d.magnitude :=
      lt_of_le_of_ne d.magnitude_nonneg fun h => hne (d.value_eq_zero_iff.mpr h.symm)
    unfold value
    cases d.negative with
    | false => simpa using hpos.le
    | true => simpa using hpos

theorem natAbs_num_div (d : Decimal) :
    (d.magnitude.num.natAbs : ℚ) / d.magnitude.den = d.magnitude := by
  rw [Binary.cast_natAbs_num_div, abs_of_nonneg d.magnitude_nonneg]

/-! ## Decimals beyond the format -/

section Beyond

variable {f : Binary.Format} {n d : Nat} {negative : Bool}

theorem ofFraction_of_large (hn : n ≠ 0) (hd : 0 < d)
    (h : (2 : ℚ) ^ (f.maxExponent + f.precision) ≤ n / d) :
    Binary.ofFraction f negative n d = .infinite negative := by
  have hleading := (zpow_lt_zpow_iff_right₀ one_lt_two).mp
    (h.trans_lt (Binary.leadingExponent_spec hn hd).2)
  have hexponent : f.maxExponent < f.unitExponent n d := by
    unfold Binary.Format.unitExponent
    omega
  have hpack : ∀ significand exponent, f.maxExponent < exponent →
      Binary.pack f negative significand exponent = .infinite negative := by
    intro significand exponent hlarge
    exact dif_neg fun canonical => absurd canonical.2.2.1 (not_le.mpr hlarge)
  rw [Binary.ofFraction, if_neg hn]
  dsimp only
  split
  · exact hpack _ _ (by omega)
  · exact hpack _ _ hexponent

theorem ofFraction_of_small (hn : n ≠ 0) (hd : 0 < d)
    (h : (n : ℚ) / d < 2 ^ (f.minExponent - 1)) :
    Binary.ofFraction f negative n d = Binary.zero f negative := by
  have hleading := Binary.leadingExponent_lt hn hd h
  have hexponent : f.unitExponent n d = f.minExponent := by
    have hprecision := f.precision_pos
    unfold Binary.Format.unitExponent
    omega
  have hhalf : 2 * ((n : ℚ) / d) < 2 ^ f.minExponent := by
    calc 2 * ((n : ℚ) / d) < 2 * 2 ^ (f.minExponent - 1) := by linarith
      _ = 2 ^ f.minExponent := by
          rw [zpow_sub_one₀ two_ne_zero]
          ring
  have hsignificand : Binary.unitSignificand f n d = 0 := by
    apply Nat.le_zero.mp
    rw [Binary.unitSignificand_le_iff hd, hexponent]
    left
    simpa using hhalf
  have hsize : Binary.roundedSize f n d = 0 := by
    rw [Binary.roundedSize, if_neg hn, hsignificand, Nat.cast_zero, zero_mul]
  have hfinite : (Binary.zero f negative).isFinite := rfl
  rw [Binary.ofFraction_eq_iff hfinite hd, hsize]
  constructor
  · rfl
  · rw [Binary.zero, Binary.value, Binary.scale_eq]
    simp

theorem two_zpow_le_ten_zpow {e k : Int} (hk : 0 ≤ k) (h : k ≤ e) : (2 : ℚ) ^ k ≤ 10 ^ e := by
  calc (2 : ℚ) ^ k ≤ 2 ^ e := zpow_le_zpow_right₀ one_le_two h
    _ ≤ 10 ^ e := by
        obtain ⟨m, rfl⟩ := Int.eq_ofNat_of_zero_le (hk.trans h)
        rw [zpow_natCast, zpow_natCast]
        exact pow_le_pow_left₀ (by norm_num) (by norm_num) m

theorem ten_zpow_le_eight_zpow {e : Int} (h : e ≤ 0) : (10 : ℚ) ^ e ≤ 2 ^ (3 * e) := by
  obtain ⟨m, hm⟩ := Int.eq_ofNat_of_zero_le (Int.neg_nonneg.mpr h)
  have he : e = -(m : Int) := by omega
  have hpow : (2 : ℚ) ^ (3 * m) ≤ 10 ^ m := by
    rw [pow_mul]
    exact pow_le_pow_left₀ (by norm_num) (by norm_num) m
  have hleft : (10 : ℚ) ^ e = (10 ^ m)⁻¹ := by rw [he, zpow_neg, zpow_natCast]
  have hright : (2 : ℚ) ^ (3 * e) = (2 ^ (3 * m))⁻¹ := by
    rw [he, mul_neg, zpow_neg]
    congr 1
  rw [hleft, hright]
  exact inv_anti₀ (by positivity) hpow

end Beyond

/-! ## Reading as rounding -/

section Reading

variable {f : Binary.Format}

/-- Reading is rounding the magnitude, however large or small it is. -/
theorem toBinary_eq_ofFraction (hf : f.SpansOne) (d : Decimal) :
    d.toBinary f =
      Binary.ofFraction f d.negative d.magnitude.num.natAbs d.magnitude.den := by
  have hden := d.magnitude.den_pos
  unfold toBinary
  by_cases hzero : d.coefficient = 0
  · have hmagnitude : d.magnitude = 0 := by
      rw [magnitude_eq, hzero, Nat.cast_zero, zero_mul]
    rw [if_pos hzero, hmagnitude]
    rfl
  · have hnum : d.magnitude.num.natAbs ≠ 0 := by
      rw [Int.natAbs_ne_zero, Rat.num_ne_zero, magnitude_eq]
      positivity
    rw [if_neg hzero]
    by_cases hlarge : f.maxExponent + f.precision ≤ d.exponent
    · rw [if_pos hlarge, ofFraction_of_large hnum hden]
      rw [natAbs_num_div, magnitude_eq]
      have hone : (1 : ℚ) ≤ d.coefficient := by exact_mod_cast Nat.one_le_iff_ne_zero.mpr hzero
      have hpower := two_zpow_le_ten_zpow hf.maxExponent_nonneg hlarge
      have hpos : (0 : ℚ) < 10 ^ d.exponent := by positivity
      calc (2 : ℚ) ^ (f.maxExponent + f.precision) ≤ 10 ^ d.exponent := hpower
        _ ≤ d.coefficient * 10 ^ d.exponent := le_mul_of_one_le_left hpos.le hone
    · rw [if_neg hlarge]
      split
      next hsmall =>
        rw [ofFraction_of_small hnum hden]
        have hleast := hf.minExponent_nonpos
        have hpower : (10 : ℚ) ^ d.exponent ≤ 2 ^ (3 * d.exponent) :=
          ten_zpow_le_eight_zpow (by omega)
        have hcoefficient := Binary.lt_two_zpow_log2 d.coefficient
        have hpos : (0 : ℚ) < 2 ^ (3 * d.exponent) := by positivity
        rw [natAbs_num_div, magnitude_eq]
        calc (d.coefficient : ℚ) * 10 ^ d.exponent
            ≤ d.coefficient * 2 ^ (3 * d.exponent) := by gcongr
          _ < 2 ^ ((d.coefficient.log2 : Int) + 1) * 2 ^ (3 * d.exponent) := by gcongr
          _ = 2 ^ ((d.coefficient.log2 : Int) + 1 + 3 * d.exponent) :=
              (zpow_add₀ two_ne_zero _ _).symm
          _ ≤ 2 ^ (f.minExponent - 1) := zpow_le_zpow_right₀ one_le_two hsmall.le
      next => rfl

/-- A decimal is read as what its value is rounded to, a zero with its sign. -/
theorem toBinary_eq_round (hf : f.SpansOne) (d : Decimal) :
    d.toBinary f = Binary.round f d.value d.negative := by
  have hnum : d.value.num.natAbs = d.magnitude.num.natAbs := by
    unfold value
    split
    · rw [Rat.num_neg_eq_neg_num, Int.natAbs_neg]
    · rfl
  have hden : d.value.den = d.magnitude.den := by
    unfold value
    split
    · rw [Rat.den_neg_eq_den]
    · rfl
  rw [Binary.round_eq, decide_value_neg, hnum, hden, toBinary_eq_ofFraction hf]

theorem toBinary_congr (hf : f.SpansOne) {d d' : Decimal} (hnegative : d.negative = d'.negative)
    (hmagnitude : d.magnitude = d'.magnitude) : d.toBinary f = d'.toBinary f := by
  rw [toBinary_eq_ofFraction hf, toBinary_eq_ofFraction hf, hnegative, hmagnitude]

theorem toBinary_eq_iff (hf : f.SpansOne) {x : Binary f} (hx : x.isFinite) (d : Decimal) :
    d.toBinary f = x ↔ d.negative = x.isNegative ∧
      Binary.roundedSize f d.magnitude.num.natAbs d.magnitude.den = |x.value| := by
  rw [toBinary_eq_ofFraction hf, Binary.ofFraction_eq_iff hx d.magnitude.den_pos]

theorem toBinary_of_magnitude_eq (hf : f.SpansOne) {x : Binary f} (hx : x.isFinite) {d : Decimal}
    (hnegative : d.negative = x.isNegative) (h : d.magnitude = |x.value|) :
    d.toBinary f = x := by
  have hsign : d.value = x.value := by
    unfold value
    rw [h, hnegative]
    cases hneg : x.isNegative with
    | false => rw [if_neg Bool.false_ne_true, abs_of_nonneg (Binary.value_nonneg hneg)]
    | true => rw [if_pos rfl, abs_of_nonpos (Binary.value_nonpos hneg), neg_neg]
  rw [toBinary_eq_round hf, hsign, hnegative]
  exact Binary.round_value hx fun _ => rfl

theorem toBinary_eq_of_between (hf : f.SpansOne) {x : Binary f} (hx : x.isFinite)
    {low d high : Decimal} (hnegative : d.negative = x.isNegative)
    (hlow : low.magnitude ≤ d.magnitude) (hhigh : d.magnitude ≤ high.magnitude)
    (hfirst : low.toBinary f = x) (hlast : high.toBinary f = x) : d.toBinary f = x := by
  have hsign : low.negative = x.isNegative := ((toBinary_eq_iff hf hx low).mp hfirst).1
  have hsign' : high.negative = x.isNegative := ((toBinary_eq_iff hf hx high).mp hlast).1
  rw [toBinary_eq_ofFraction hf, hsign] at hfirst
  rw [toBinary_eq_ofFraction hf, hsign'] at hlast
  rw [toBinary_eq_ofFraction hf, hnegative]
  rw [← low.natAbs_num_div, ← d.natAbs_num_div] at hlow
  rw [← d.natAbs_num_div, ← high.natAbs_num_div] at hhigh
  exact Binary.ofFraction_eq_of_between hx d.magnitude.den_pos low.magnitude.den_pos
    high.magnitude.den_pos hlow hhigh hfirst hlast

end Reading
end Decimal
end Storyboard
