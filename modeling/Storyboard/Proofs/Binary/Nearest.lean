import Mathlib
import Storyboard.Proofs.Binary.Monotone

/-!
# The nearest number of a format

What rounding promises, said without the way in which it is computed.  A rational below the overflow
threshold goes to a finite number that no other number of the format is closer to, and of two that
are equally close to the even one.  From the threshold on it goes to an infinity.
-/

namespace Storyboard
namespace Binary

variable {f : Format}

/-- The threshold of overflow: half a last place above the largest number of the format. -/
def Format.overflow (f : Format) : ℚ :=
  (f.limit - 1 / 2) * 2 ^ f.maxExponent

def IsEven : Binary f → Prop
  | .finite _ significand _ _ => significand % 2 = 0
  | _ => False

/-- No number of the format is closer to the rational, and one that is as close leaves `x` even. -/
structure IsNearest (q : ℚ) (x : Binary f) : Prop where
  finite : x.isFinite
  closest : ∀ y : Binary f, y.isFinite → |x.value - q| ≤ |y.value - q|
  even : ∀ y : Binary f, y.isFinite → y.value ≠ x.value → |y.value - q| = |x.value - q| → x.IsEven

inductive RoundsTo (q : ℚ) : Binary f → Prop where
  | nearest {x : Binary f} (inRange : |q| < f.overflow) (nearest : IsNearest q x)
      (sign : q ≠ 0 → x.isNegative = decide (q < 0)) : RoundsTo q x
  | overflow (outOfRange : f.overflow ≤ |q|) : RoundsTo q (.infinite (decide (q < 0)))

/-! ## The significand -/

theorem le_abs_mul_sub_mul {i j : Int} (h : i ≠ j) {unit : ℚ} (hpos : 0 < unit) :
    unit ≤ |i * unit - j * unit| := by
  have hone : (1 : ℚ) ≤ |(i : ℚ) - j| := by
    have hint : (1 : Int) ≤ |i - j| := Int.one_le_abs (sub_ne_zero.mpr h)
    exact_mod_cast hint
  rw [← sub_mul, abs_mul, abs_of_pos hpos]
  exact le_mul_of_one_le_left hpos.le hone

section Fraction

variable {n d : Nat}

theorem two_mul_le_unitSignificand (f : Format) (hd : 0 < d) :
    2 * ((n : ℚ) / d) ≤ (2 * unitSignificand f n d + 1) * 2 ^ f.unitExponent n d ∧
      (2 * ((n : ℚ) / d) = (2 * unitSignificand f n d + 1) * 2 ^ f.unitExponent n d →
        unitSignificand f n d % 2 = 0) := by
  rcases (unitSignificand_le_iff (f := f) (n := n) hd _).mp le_rfl with hlt | ⟨heq, heven⟩
  · exact ⟨hlt.le, fun heq => absurd heq hlt.ne⟩
  · exact ⟨heq.le, fun _ => heven⟩

theorem unitSignificand_le_two_mul (f : Format) (hd : 0 < d) :
    (2 * (unitSignificand f n d : ℚ) - 1) * 2 ^ f.unitExponent n d ≤ 2 * ((n : ℚ) / d) ∧
      ((2 * (unitSignificand f n d : ℚ) - 1) * 2 ^ f.unitExponent n d = 2 * ((n : ℚ) / d) →
        unitSignificand f n d % 2 = 0) := by
  rcases Nat.eq_zero_or_pos (unitSignificand f n d) with hzero | hpos
  · have hquotient : (0 : ℚ) ≤ n / d := by positivity
    have hunit : (0 : ℚ) < 2 ^ f.unitExponent n d := by positivity
    rw [hzero, Nat.cast_zero]
    constructor
    · linarith
    · intro _
      rfl
  · -- One less would have been too little.
    have hpred := mt (unitSignificand_le_iff (f := f) (n := n) hd _).mpr
      (Nat.not_le.mpr (Nat.sub_lt hpos one_pos))
    have hcast : 2 * ((unitSignificand f n d - 1 : Nat) : ℚ) + 1 =
        2 * (unitSignificand f n d : ℚ) - 1 := by
      rw [Nat.cast_sub hpos, Nat.cast_one]
      ring
    rw [hcast, not_or, not_lt, not_and] at hpred
    constructor
    · exact hpred.1
    · intro heq
      have hodd := hpred.2 heq.symm
      omega

/-- The significand is off by half a last place at most, and by as much only if it is even. -/
theorem unitSignificand_error (f : Format) (hd : 0 < d) :
    2 * |(unitSignificand f n d : ℚ) * 2 ^ f.unitExponent n d - n / d| ≤
        2 ^ f.unitExponent n d ∧
      (2 * |(unitSignificand f n d : ℚ) * 2 ^ f.unitExponent n d - n / d| =
          2 ^ f.unitExponent n d → unitSignificand f n d % 2 = 0) := by
  obtain ⟨hupper, hupperEven⟩ := two_mul_le_unitSignificand f (n := n) hd
  obtain ⟨hlower, hlowerEven⟩ := unitSignificand_le_two_mul f (n := n) hd
  rcases abs_cases ((unitSignificand f n d : ℚ) * 2 ^ f.unitExponent n d - n / d) with
    ⟨heq, -⟩ | ⟨heq, -⟩
  · rw [heq]
    exact ⟨by linarith, fun h => hlowerEven (by linarith)⟩
  · rw [heq]
    exact ⟨by linarith, fun h => hupperEven (by linarith)⟩

theorem unitSignificand_closest (f : Format) (hd : 0 < d) (j : Nat) :
    |(unitSignificand f n d : ℚ) * 2 ^ f.unitExponent n d - n / d| ≤
        |(j : ℚ) * 2 ^ f.unitExponent n d - n / d| ∧
      (j ≠ unitSignificand f n d →
        |(j : ℚ) * 2 ^ f.unitExponent n d - n / d| =
            |(unitSignificand f n d : ℚ) * 2 ^ f.unitExponent n d - n / d| →
          unitSignificand f n d % 2 = 0) := by
  obtain ⟨hle, heven⟩ := unitSignificand_error f (n := n) hd
  by_cases hj : j = unitSignificand f n d
  · rw [hj]
    exact ⟨le_rfl, fun h => absurd rfl h⟩
  · have hunit : (0 : ℚ) < 2 ^ f.unitExponent n d := by positivity
    have hunits : (2 : ℚ) ^ f.unitExponent n d ≤
        |(j : ℚ) * 2 ^ f.unitExponent n d - unitSignificand f n d * 2 ^ f.unitExponent n d| := by
      have hne : (j : Int) ≠ unitSignificand f n d := by
        intro hsame
        exact hj (Int.ofNat_inj.mp hsame)
      exact_mod_cast le_abs_mul_sub_mul hne hunit
    have hapart := hunits.trans (abs_sub_le _ ((n : ℚ) / d) _)
    rw [abs_sub_comm ((n : ℚ) / d)] at hapart
    constructor
    · linarith
    · intro _ heq
      exact heven (by linarith)

theorem leading_mul_le (hn : n ≠ 0) (hd : 0 < d) (h : f.minExponent < f.unitExponent n d) :
    (f.leading : ℚ) * 2 ^ f.unitExponent n d ≤ n / d := by
  have hexponent : f.unitExponent n d = leadingExponent n d - ((f.precision : Int) - 1) :=
    (max_choice _ _).resolve_left h.ne'
  rw [cast_leading, ← zpow_add₀ two_ne_zero, hexponent, add_sub_cancel]
  exact (leadingExponent_spec hn hd).1

/-- A number of the format is not closer than the significand, nor is it as close to no purpose. -/
theorem unitSignificand_nearest {significand : Nat} {exponent : Int} (hn : n ≠ 0) (hd : 0 < d)
    (h : f.Canonical significand exponent) :
    |(unitSignificand f n d : ℚ) * 2 ^ f.unitExponent n d - n / d| ≤
        |(significand : ℚ) * 2 ^ exponent - n / d| ∧
      ((significand : ℚ) * 2 ^ exponent ≠ unitSignificand f n d * 2 ^ f.unitExponent n d →
        |(significand : ℚ) * 2 ^ exponent - n / d| =
            |(unitSignificand f n d : ℚ) * 2 ^ f.unitExponent n d - n / d| →
          unitSignificand f n d % 2 = 0) := by
  rcases le_or_gt (f.unitExponent n d) exponent with hle | hlt
  · -- On the same grid or a coarser one.
    have hgrid := cast_mul_two_zpow significand hle
    obtain ⟨hclosest, heven⟩ := unitSignificand_closest f (n := n) hd
      (significand * 2 ^ (exponent - f.unitExponent n d).toNat)
    rw [hgrid]
    constructor
    · exact hclosest
    · intro hne
      apply heven
      intro hsame
      exact hne (by rw [hsame])
  · -- On a finer grid all numbers lie below the leading place of the fraction.
    have hleast : f.minExponent < f.unitExponent n d := h.2.1.trans_lt hlt
    have hleading := leading_mul_le hn hd hleast
    have hbelow : (significand : ℚ) * 2 ^ exponent < f.leading * 2 ^ f.unitExponent n d := by
      apply (lt_of_canonical h).trans_le
      rw [cast_leading, ← zpow_add₀ two_ne_zero]
      apply zpow_le_zpow_right₀ one_le_two
      omega
    have hfarther : |(unitSignificand f n d : ℚ) * 2 ^ f.unitExponent n d - n / d| <
        |(significand : ℚ) * 2 ^ exponent - n / d| := by
      apply (unitSignificand_closest f (n := n) hd f.leading).1.trans_lt
      rw [abs_of_nonpos (by linarith), abs_of_neg (by linarith)]
      linarith
    constructor
    · exact hfarther.le
    · intro _ heq
      exact absurd heq hfarther.ne'

end Fraction

/-! ## The threshold -/

section Overflow

variable {n d : Nat} {negative : Bool}

theorem odd_limit_sub_one (f : Format) : (f.limit - 1) % 2 ≠ 0 := by
  have hsplit : f.limit = 2 * f.leading := by
    have hpos := f.precision_pos
    rw [Format.limit, Format.leading, Nat.one_shiftLeft, Nat.one_shiftLeft, ← pow_succ']
    congr 1
    omega
  have hleading : 0 < f.leading := by
    rw [Format.leading, Nat.one_shiftLeft]
    exact Nat.two_pow_pos _
  omega

theorem unitSignificand_lt_limit_iff (hd : 0 < d) (h : f.unitExponent n d = f.maxExponent) :
    unitSignificand f n d < f.limit ↔ (n : ℚ) / d < f.overflow := by
  have hpred : (2 * ((f.limit - 1 : Nat) : ℚ) + 1) * 2 ^ f.maxExponent = 2 * f.overflow := by
    rw [Nat.cast_sub f.limit_pos, Format.overflow]
    push_cast
    ring
  rw [Nat.lt_iff_le_pred f.limit_pos, unitSignificand_le_iff hd, h, hpred,
    or_iff_left fun hodd => odd_limit_sub_one f hodd.2]
  exact mul_lt_mul_iff_right₀ two_pos

theorem overflow_bounds (f : Format) :
    (2 : ℚ) ^ ((f.precision : Int) - 1 + f.maxExponent) ≤ f.overflow ∧
      f.overflow < 2 ^ ((f.precision : Int) + f.maxExponent) := by
  have hpos : (0 : ℚ) < 2 ^ f.maxExponent := by positivity
  have hone : (1 : ℚ) ≤ f.leading := by
    rw [Format.leading, Nat.one_shiftLeft]
    exact_mod_cast Nat.one_le_two_pow
  have hsplit : (f.limit : ℚ) = 2 * f.leading := by
    rw [cast_limit, cast_leading, zpow_sub_one₀ two_ne_zero]
    ring
  rw [zpow_add₀ two_ne_zero, zpow_add₀ two_ne_zero, ← cast_leading, ← cast_limit, Format.overflow]
  constructor
  · apply mul_le_mul_of_nonneg_right _ hpos.le
    linarith
  · apply mul_lt_mul_of_pos_right _ hpos
    linarith

theorem isFinite_ofFraction_iff (hd : 0 < d) :
    (ofFraction f negative n d).isFinite ↔ (n : ℚ) / d < f.overflow := by
  by_cases hn : n = 0
  · have hpos : (0 : ℚ) < f.overflow := lt_of_lt_of_le (by positivity) (overflow_bounds f).1
    rw [ofFraction, if_pos hn, hn, Nat.cast_zero, zero_div]
    exact iff_of_true rfl hpos
  · have hleast : f.minExponent ≤ f.unitExponent n d := le_max_left _ _
    have hlimit := (significand_bounds f hn hd).1
    have hspec := leadingExponent_spec hn hd
    constructor
    · intro hfinite
      obtain ⟨hrange, hcarry⟩ := unitExponent_le_of_isFinite hn hfinite
      rcases hrange.lt_or_eq with hlt | heq
      · apply hspec.2.trans_le
        apply le_trans _ (overflow_bounds f).1
        apply zpow_le_zpow_right₀ one_le_two
        have hunit : leadingExponent n d - ((f.precision : Int) - 1) ≤ f.unitExponent n d :=
          le_max_right _ _
        omega
      · rw [← unitSignificand_lt_limit_iff hd heq]
        apply lt_of_le_of_ne hlimit
        intro hsame
        exact (hcarry hsame).ne heq
    · intro hlt
      have hleading := leadingExponent_lt hn hd (hlt.trans (overflow_bounds f).2)
      have hrange : f.unitExponent n d ≤ f.maxExponent := by
        apply max_le f.minExponent_le
        omega
      have hcarry : unitSignificand f n d = f.limit → f.unitExponent n d < f.maxExponent := by
        intro hsame
        apply lt_of_le_of_ne hrange
        intro heq
        exact ((unitSignificand_lt_limit_iff hd heq).mpr hlt).ne hsame
      exact (ofFraction_spec hn hd hrange hcarry).1

/-- A rational is rounded to a finite number exactly below the threshold of overflow. -/
theorem isFinite_round_iff {q : ℚ} {zeroNegative : Bool} :
    (round f q zeroNegative).isFinite ↔ |q| < f.overflow := by
  rw [← cast_natAbs_num_div]
  exact isFinite_ofFraction_iff q.den_pos

end Overflow

/-! ## Rounding -/

theorem isEven_ofFraction {n d : Nat} {negative : Bool} (hf : 1 < f.precision) (hn : n ≠ 0)
    (hfinite : (ofFraction f negative n d).isFinite) (heven : unitSignificand f n d % 2 = 0) :
    (ofFraction f negative n d).IsEven := by
  have hpack : ∀ {significand exponent}, (pack f negative significand exponent).isFinite →
      significand % 2 = 0 → (pack f negative significand exponent).IsEven := by
    intro significand exponent hpacked hparity
    rw [pack, dif_pos (canonical_of_isFinite_pack hpacked)]
    exact hparity
  rw [ofFraction, if_neg hn] at hfinite ⊢
  dsimp only at hfinite ⊢
  split at hfinite
  next hlimit =>
    rw [if_pos hlimit]
    apply hpack hfinite
    rw [Format.leading, Nat.one_shiftLeft, ← Nat.dvd_iff_mod_eq_zero]
    exact dvd_pow_self 2 (by omega)
  next hlimit =>
    rw [if_neg hlimit]
    exact hpack hfinite heven

theorem isNearest_zero (negative : Bool) : IsNearest 0 (zero f negative) := by
  constructor
  · rfl
  · intro y _
    rw [value_zero, sub_zero, sub_zero, abs_zero]
    exact abs_nonneg _
  · intro y _ _ _
    rfl

/-- Rounding keeps the sign, so that only the sizes have to be compared. -/
theorem abs_round_value_sub (f : Format) (q : ℚ) (zeroNegative : Bool) :
    |(round f q zeroNegative).value - q| = |(|(round f q zeroNegative).value| - |q|)| := by
  have hsign := isNegative_round f q zeroNegative
  rcases lt_trichotomy q 0 with hneg | hzero | hpos
  · rw [if_neg hneg.ne, decide_eq_true hneg] at hsign
    rw [abs_of_nonpos (value_nonpos hsign), abs_of_neg hneg, neg_sub_neg, abs_sub_comm]
  · rw [hzero, abs_zero, sub_zero, sub_zero, abs_abs]
  · rw [if_neg hpos.ne', decide_eq_false hpos.not_gt] at hsign
    rw [abs_of_nonneg (value_nonneg hsign), abs_of_pos hpos]

/-- No number is closer than the one that is rounded to, and another one as close leaves it even. -/
theorem round_nearest {q : ℚ} (hzero : q ≠ 0) (hq : |q| < f.overflow) (zeroNegative : Bool)
    {y : Binary f} (hy : y.isFinite) :
    |(round f q zeroNegative).value - q| ≤ |y.value - q| ∧
      (y.value ≠ (round f q zeroNegative).value →
        |y.value - q| = |(round f q zeroNegative).value - q| →
          unitSignificand f q.num.natAbs q.den % 2 = 0) := by
  have hfinite : (round f q zeroNegative).isFinite := isFinite_round_iff.mpr hq
  have hn : q.num.natAbs ≠ 0 := Int.natAbs_ne_zero.mpr (Rat.num_ne_zero.mpr hzero)
  have hsize : |(round f q zeroNegative).value| =
      unitSignificand f q.num.natAbs q.den * 2 ^ f.unitExponent q.num.natAbs q.den := by
    obtain ⟨hrange, hcarry⟩ := unitExponent_le_of_isFinite hn hfinite
    exact (ofFraction_spec hn q.den_pos hrange hcarry).2
  have hle : |(|y.value| - |q|)| ≤ |y.value - q| := abs_abs_sub_abs_le _ _
  have hsizes : |(round f q zeroNegative).value - q| ≤ |(|y.value| - |q|)| ∧
      (|y.value| ≠ |(round f q zeroNegative).value| →
        |(|y.value| - |q|)| = |(round f q zeroNegative).value - q| →
          unitSignificand f q.num.natAbs q.den % 2 = 0) := by
    obtain ⟨negative, significand, exponent, canonical, rfl⟩ := exists_of_isFinite hy
    rw [abs_round_value_sub, abs_value_finite, hsize, ← cast_natAbs_num_div q]
    exact unitSignificand_nearest hn q.den_pos canonical
  constructor
  · exact hsizes.1.trans hle
  · intro hne heq
    by_cases hsame : |y.value| = |(round f q zeroNegative).value|
    · -- The number of the other sign is as close only if both are zero.
      have hopposite : y.value = -(round f q zeroNegative).value :=
        (abs_eq_abs.mp hsame).resolve_left hne
      rw [hopposite] at hne heq
      rcases abs_eq_abs.mp heq with hleft | hright
      · exact absurd (by linarith) hne
      · exact absurd (by linarith) hzero
    · exact hsizes.2 hsame (le_antisymm (hle.trans heq.le) hsizes.1)

theorem round_closest {q : ℚ} (hq : |q| < f.overflow) (zeroNegative : Bool) {y : Binary f}
    (hy : y.isFinite) : |(round f q zeroNegative).value - q| ≤ |y.value - q| := by
  by_cases hzero : q = 0
  · rw [hzero, round_zero]
    exact (isNearest_zero zeroNegative).closest y hy
  · exact (round_nearest hzero hq zeroNegative hy).1

theorem isNearest_round (hf : 1 < f.precision) {q : ℚ} (hq : |q| < f.overflow)
    (zeroNegative : Bool) : IsNearest q (round f q zeroNegative) := by
  by_cases hzero : q = 0
  · rw [hzero, round_zero]
    exact isNearest_zero zeroNegative
  · have hfinite : (round f q zeroNegative).isFinite := isFinite_round_iff.mpr hq
    constructor
    · exact hfinite
    · intro y hy
      exact round_closest hq zeroNegative hy
    · intro y hy hne heq
      have hn : q.num.natAbs ≠ 0 := Int.natAbs_ne_zero.mpr (Rat.num_ne_zero.mpr hzero)
      exact isEven_ofFraction hf hn hfinite ((round_nearest hzero hq zeroNegative hy).2 hne heq)

theorem roundsTo_round (hf : 1 < f.precision) (q : ℚ) (zeroNegative : Bool) :
    RoundsTo q (round f q zeroNegative) := by
  have hsign := isNegative_round f q zeroNegative
  rcases lt_or_ge |q| f.overflow with hlt | hge
  · apply RoundsTo.nearest hlt (isNearest_round hf hlt zeroNegative)
    intro hne
    rw [hsign, if_neg hne]
  · have hinfinite : ¬ (round f q zeroNegative).isFinite := mt isFinite_round_iff.mp hge.not_gt
    have hne : q ≠ 0 := by
      rintro rfl
      exact hinfinite rfl
    rw [if_neg hne] at hsign
    cases hround : round f q zeroNegative with
    | nan => exact absurd hround (round_ne_nan f q zeroNegative)
    | infinite negative =>
        rw [hround] at hsign
        have hnegative : negative = decide (q < 0) := hsign
        rw [hnegative]
        exact .overflow hge
    | finite negative significand exponent canonical =>
        rw [hround] at hinfinite
        exact absurd rfl hinfinite

end Binary
end Storyboard
