import Mathlib
import Storyboard.Proofs.Binary.Bounds
import Storyboard.Proofs.Binary.Nearest

/-!
# Sums in a wider format

A sum that is computed in a format of more than twice the precision and then rounded back is the sum
that is rounded once.  Rounding twice is wrong where the first rounding lands on a point halfway
between two numbers.  A sum never comes so close to one: either the wider format holds it exactly,
or one of the numbers is too small to take it away from the other.
-/

namespace Storyboard
namespace Binary

variable {f g : Format}

/-- The second format has the exponents of the first and more than twice its precision. -/
structure Format.Within (f g : Format) : Prop where
  precision : 2 * f.precision + 3 ≤ g.precision
  minExponent : g.minExponent ≤ f.minExponent
  maxExponent : f.maxExponent ≤ g.maxExponent

theorem Format.single_within_double : Format.single.Within .double :=
  ⟨by decide, by decide, by decide⟩

/-! ## Rationals that a format holds -/

/-- Short enough multiples of a place that the format has are rounded to themselves. -/
theorem round_exact {q : ℚ} {k : Nat} {e : Int} (hk : k < f.limit) (hleast : f.minExponent ≤ e)
    (hmost : e ≤ f.maxExponent) (hq : |q| = k * 2 ^ e) (zeroNegative : Bool) :
    (round f q zeroNegative).isFinite ∧ (round f q zeroNegative).value = q := by
  by_cases hzero : q = 0
  · rw [hzero, round_zero]
    exact ⟨rfl, value_zero f zeroNegative⟩
  · have hn : q.num.natAbs ≠ 0 := Int.natAbs_ne_zero.mpr (Rat.num_ne_zero.mpr hzero)
    rw [← cast_natAbs_num_div] at hq
    have hbelow : (q.num.natAbs : ℚ) / q.den < 2 ^ ((f.precision : Int) + e) := by
      rw [hq, zpow_add₀ two_ne_zero, ← cast_limit]
      gcongr
    have hexponent : f.unitExponent q.num.natAbs q.den ≤ e := by
      have hleading := leadingExponent_lt hn q.den_pos hbelow
      apply max_le hleast
      omega
    have hgrid := hq.trans (cast_mul_two_zpow k hexponent)
    have hsignificand : unitSignificand f q.num.natAbs q.den =
        k * 2 ^ (e - f.unitExponent q.num.natAbs q.den).toNat :=
      le_antisymm (unitSignificand_le q.den_pos hgrid.le) (le_unitSignificand q.den_pos hgrid.ge)
    rw [← hsignificand] at hgrid
    have hcarry : unitSignificand f q.num.natAbs q.den = f.limit →
        f.unitExponent q.num.natAbs q.den < f.maxExponent := by
      intro hlimit
      rw [hgrid, hlimit, cast_limit, ← zpow_add₀ two_ne_zero] at hbelow
      have hlt := (zpow_lt_zpow_iff_right₀ one_lt_two).mp hbelow
      omega
    have hspec : (round f q zeroNegative).isFinite ∧ |(round f q zeroNegative).value| =
        unitSignificand f q.num.natAbs q.den * 2 ^ f.unitExponent q.num.natAbs q.den :=
      ofFraction_spec hn q.den_pos (hexponent.trans hmost) hcarry
    constructor
    · exact hspec.1
    · have hdistance := abs_round_value_sub f q zeroNegative
      rw [hspec.2, ← hgrid, cast_natAbs_num_div, sub_self, abs_zero] at hdistance
      exact sub_eq_zero.mp (abs_eq_zero.mp hdistance)

theorem convert_within (h : f.Within g) {x : Binary f} (hx : x.isFinite) :
    (x.convert g).isFinite ∧ (x.convert g).value = x.value ∧
      (x.convert g).isNegative = x.isNegative := by
  obtain ⟨negative, significand, exponent, canonical, rfl⟩ := exists_of_isFinite hx
  have hlimit : f.limit ≤ g.limit := by
    have hprecision := h.precision
    rw [Format.limit, Format.limit, Nat.one_shiftLeft, Nat.one_shiftLeft]
    exact Nat.pow_le_pow_right two_pos (by omega)
  obtain ⟨hfinite, hvalue⟩ := round_exact (canonical.1.trans_le hlimit)
    (h.minExponent.trans canonical.2.1) (canonical.2.2.1.trans h.maxExponent)
    (abs_value_finite negative significand exponent canonical) negative
  refine ⟨hfinite, hvalue, ?_⟩
  show (round g _ negative).isNegative = negative
  rw [isNegative_round]
  split
  next => rfl
  next hne => exact decide_value_neg hx hne

/-! ## Numbers next to each other -/

theorem exists_int_units (negative : Bool) {significand : Nat} {exponent : Int}
    (canonical : f.Canonical significand exponent) {place : Int} (h : place ≤ exponent) :
    ∃ j : Int, (Binary.finite negative significand exponent canonical).value = j * 2 ^ place := by
  refine ⟨(if negative then -(significand : Int) else significand) *
    2 ^ (exponent - place).toNat, ?_⟩
  rw [value, scale_eq, two_zpow_eq_pow_mul h]
  push_cast
  rw [mul_assoc]

section Spacing

variable {negative : Bool} {significand : Nat} {exponent : Int}
  {canonical : f.Canonical significand exponent}

theorem two_zpow_le_of_full (canonical : f.Canonical significand exponent)
    (hfull : f.minExponent < exponent) :
    (2 : ℚ) ^ ((f.precision : Int) - 1 + exponent) ≤ significand * 2 ^ exponent := by
  have hcast : (f.leading : ℚ) ≤ significand := by
    exact_mod_cast canonical.2.2.2.resolve_right hfull.ne'
  rw [zpow_add₀ two_ne_zero, ← cast_leading]
  gcongr

/-- Other numbers keep away from a full one by half its last place. -/
theorem le_abs_value_sub {x y : Binary f} (hx : x = .finite negative significand exponent canonical)
    (hfull : f.minExponent < exponent) (hy : y.isFinite) (hne : y.value ≠ x.value) :
    (2 : ℚ) ^ (exponent - 1) ≤ |y.value - x.value| := by
  subst hx
  obtain ⟨negative', significand', exponent', canonical', rfl⟩ := exists_of_isFinite hy
  rcases le_or_gt (exponent - 1) exponent' with hle | hlt
  · -- Both are multiples of half the last place.
    obtain ⟨i, hi⟩ := exists_int_units negative canonical (show exponent - 1 ≤ exponent by omega)
    obtain ⟨j, hj⟩ := exists_int_units negative' canonical' hle
    rw [hi, hj] at hne ⊢
    apply le_abs_mul_sub_mul
    · rintro rfl
      exact hne rfl
    · positivity
  · -- The other number is less than half as large.
    have hlarge := two_zpow_le_of_full canonical hfull
    have hsmall : (significand' : ℚ) * 2 ^ exponent' <
        2 ^ ((f.precision : Int) - 1 + (exponent - 1)) := by
      apply (lt_of_canonical canonical').trans_le
      apply zpow_le_zpow_right₀ one_le_two
      omega
    have hhalf : (2 : ℚ) ^ ((f.precision : Int) - 1 + exponent) =
        2 * 2 ^ ((f.precision : Int) - 1 + (exponent - 1)) := by
      rw [← zpow_one_add₀ two_ne_zero]
      congr 1
      omega
    have hplace : (2 : ℚ) ^ (exponent - 1) ≤
        2 ^ ((f.precision : Int) - 1 + (exponent - 1)) := by
      have hprecision := f.precision_pos
      apply zpow_le_zpow_right₀ one_le_two
      omega
    rw [← abs_value_finite negative significand exponent canonical] at hlarge
    rw [← abs_value_finite negative' significand' exponent' canonical'] at hsmall
    have htriangle := abs_sub_abs_le_abs_sub
      (Binary.finite negative significand exponent canonical).value
      (Binary.finite negative' significand' exponent' canonical').value
    rw [abs_sub_comm] at htriangle
    linarith

/-- The threshold of overflow is half a last place away from every number. -/
theorem lt_overflow_of_close {q : ℚ} {x : Binary f}
    (hx : x = .finite negative significand exponent canonical)
    (hclose : 4 * |q - x.value| < 2 ^ exponent) : |q| < f.overflow := by
  have hsize : |x.value| = significand * 2 ^ exponent := by
    rw [hx, abs_value_finite]
  have hlimit : (significand : ℚ) + 1 ≤ f.limit := by exact_mod_cast canonical.1
  have hhalf : (0 : ℚ) ≤ f.limit - 1 / 2 := by
    have hzero : (0 : ℚ) ≤ significand := Nat.cast_nonneg _
    linarith
  have htriangle := abs_add_le x.value (q - x.value)
  rw [add_sub_cancel, hsize] at htriangle
  have hnonneg := abs_nonneg (q - x.value)
  calc |q| ≤ significand * 2 ^ exponent + |q - x.value| := htriangle
    _ < (significand + 1 / 2) * 2 ^ exponent := by linarith
    _ ≤ (f.limit - 1 / 2) * 2 ^ exponent := by
        gcongr
        linarith
    _ ≤ f.overflow :=
        mul_le_mul_of_nonneg_left (zpow_le_zpow_right₀ one_le_two canonical.2.2.1) hhalf

theorem round_eq_of_close {q : ℚ} {x : Binary f}
    (hx : x = .finite negative significand exponent canonical) (hfull : f.minExponent < exponent)
    (hclose : 4 * |q - x.value| < 2 ^ exponent) (zeroNegative : Bool) :
    round f q zeroNegative = x := by
  have hfinite : x.isFinite := by
    rw [hx]
    rfl
  have hrange := lt_overflow_of_close hx hclose
  have hrounded : (round f q zeroNegative).isFinite := isFinite_round_iff.mpr hrange
  have hne : x.value ≠ 0 := by
    have hpower : (0 : ℚ) < 2 ^ ((f.precision : Int) - 1 + exponent) := by positivity
    rw [← abs_pos, hx, abs_value_finite]
    exact hpower.trans_le (two_zpow_le_of_full canonical hfull)
  apply eq_of_value_eq hrounded hfinite hne
  by_contra hother
  have hapart := le_abs_value_sub hx hfull hrounded hother
  have hclosest := round_closest hrange zeroNegative hfinite
  have htriangle := abs_sub_le (round f q zeroNegative).value q x.value
  rw [abs_sub_comm x.value] at hclosest
  rw [zpow_sub_one₀ two_ne_zero] at hapart
  linarith

end Spacing

/-! ## Rounding a sum twice -/

/-- Of a sum that is too long for the wider format, one part is far below the last place of the other. -/
theorem exact_or_far (h : f.Within g) {negative negative' : Bool} {significand significand' : Nat}
    {exponent exponent' : Int} {canonical : f.Canonical significand exponent}
    {canonical' : f.Canonical significand' exponent'} {x y : Binary f}
    (hx : x = .finite negative significand exponent canonical)
    (hy : y = .finite negative' significand' exponent' canonical') (hle : exponent' ≤ exponent) :
    (∃ k : Nat, k < g.limit ∧ |x.value + y.value| = k * 2 ^ exponent') ∨
      f.minExponent < exponent ∧ 8 * |y.value| < 2 ^ exponent := by
  obtain ⟨i, hi⟩ := exists_int_units negative canonical hle
  obtain ⟨j, hj⟩ := exists_int_units negative' canonical' le_rfl
  rw [← hx] at hi
  rw [← hy] at hj
  have hunits : |x.value + y.value| = ((i + j).natAbs : ℚ) * 2 ^ exponent' := by
    have hpos : (0 : ℚ) < 2 ^ exponent' := by positivity
    rw [hi, hj, ← add_mul, abs_mul, abs_of_pos hpos, Nat.cast_natAbs, Int.cast_abs, Int.cast_add]
  rcases Nat.lt_or_ge (i + j).natAbs g.limit with hshort | hlong
  · exact Or.inl ⟨_, hshort, hunits⟩
  · apply Or.inr
    have hprecision := h.precision
    have hxbelow : |x.value| < 2 ^ ((f.precision : Int) + exponent) := by
      rw [hx, abs_value_finite]
      exact lt_of_canonical canonical
    have hybelow : |y.value| < 2 ^ ((f.precision : Int) + exponent') := by
      rw [hy, abs_value_finite]
      exact lt_of_canonical canonical'
    have hlarge : (2 : ℚ) ^ ((g.precision : Int) + exponent') ≤ |x.value + y.value| := by
      have hcast : (g.limit : ℚ) ≤ (i + j).natAbs := by exact_mod_cast hlong
      rw [hunits, zpow_add₀ two_ne_zero, ← cast_limit]
      gcongr
    have hsum : (2 : ℚ) ^ ((g.precision : Int) + exponent') <
        2 ^ ((f.precision : Int) + exponent + 1) := by
      have hmono : (2 : ℚ) ^ ((f.precision : Int) + exponent') ≤
          2 ^ ((f.precision : Int) + exponent) := by
        apply zpow_le_zpow_right₀ one_le_two
        omega
      have htriangle := abs_add_le x.value y.value
      rw [zpow_add_one₀ two_ne_zero]
      linarith
    have hapart := (zpow_lt_zpow_iff_right₀ one_lt_two).mp hsum
    constructor
    · have hleast := canonical'.2.1
      omega
    · calc 8 * |y.value| < 8 * 2 ^ ((f.precision : Int) + exponent') := by linarith
        _ = 2 ^ (3 + ((f.precision : Int) + exponent')) := by
            rw [zpow_add₀ two_ne_zero 3]
            norm_num
        _ ≤ 2 ^ exponent := by
            apply zpow_le_zpow_right₀ one_le_two
            omega

theorem abs_add_lt_overflow (h : f.Within g) (x y : Binary f) : |x.value + y.value| < g.overflow := by
  have hprecision := h.precision
  have hmost := h.maxExponent
  calc |x.value + y.value| ≤ |x.value| + |y.value| := abs_add_le _ _
    _ < 2 ^ ((f.precision : Int) + f.maxExponent) + 2 ^ ((f.precision : Int) + f.maxExponent) :=
        add_lt_add (abs_value_lt x) (abs_value_lt y)
    _ = 2 ^ ((f.precision : Int) + f.maxExponent + 1) := by
        rw [zpow_add_one₀ two_ne_zero]
        ring
    _ ≤ 2 ^ ((g.precision : Int) - 1 + g.maxExponent) := by
        apply zpow_le_zpow_right₀ one_le_two
        omega
    _ ≤ g.overflow := (overflow_bounds g).1

/-- What the wider format holds exactly is rounded once. -/
theorem convert_round_of_exact {q : ℚ} {zeroNegative : Bool}
    (hfinite : (round g q zeroNegative).isFinite) (hvalue : (round g q zeroNegative).value = q) :
    (round g q zeroNegative).convert f = round f q zeroNegative := by
  have hsign := isNegative_round g q zeroNegative
  cases hround : round g q zeroNegative with
  | nan => exact absurd hround (round_ne_nan g q zeroNegative)
  | infinite negative =>
      rw [hround] at hfinite
      cases hfinite
  | finite negative significand exponent canonical =>
      rw [hround] at hvalue hsign
      have hnegative : negative = if q = 0 then zeroNegative else decide (q < 0) := hsign
      show round f (Binary.finite negative significand exponent canonical).value negative = _
      rw [hvalue, round_eq, round_eq, hnegative]
      split
      next hzero => rfl
      next hne => rfl

theorem convert_eq_round {x : Binary g} (hx : x.isFinite) :
    x.convert f = round f x.value x.isNegative := by
  obtain ⟨negative, significand, exponent, canonical, rfl⟩ := exists_of_isFinite hx
  rfl

theorem convert_round_add_of_le (h : f.Within g) {negative negative' : Bool}
    {significand significand' : Nat} {exponent exponent' : Int}
    {canonical : f.Canonical significand exponent}
    {canonical' : f.Canonical significand' exponent'} {x y : Binary f}
    (hx : x = .finite negative significand exponent canonical)
    (hy : y = .finite negative' significand' exponent' canonical') (hle : exponent' ≤ exponent)
    (zeroNegative : Bool) :
    (round g (x.value + y.value) zeroNegative).convert f =
      round f (x.value + y.value) zeroNegative := by
  have hrange := abs_add_lt_overflow h x y
  have hrounded : (round g (x.value + y.value) zeroNegative).isFinite :=
    isFinite_round_iff.mpr hrange
  rcases exact_or_far h hx hy hle with ⟨k, hk, hunits⟩ | ⟨hfull, hfar⟩
  · have hleast := canonical'.2.1
    have hmost := canonical'.2.2.1
    have hexact := round_exact hk (h.minExponent.trans hleast) (hmost.trans h.maxExponent) hunits
      zeroNegative
    exact convert_round_of_exact hrounded hexact.2
  · -- The wider format has the greater number, so that its sum is no farther from that.
    have hxfinite : x.isFinite := by
      rw [hx]
      rfl
    obtain ⟨hwide, hvalue, -⟩ := convert_within h hxfinite
    have hclosest := round_closest hrange zeroNegative hwide
    have hdistance : |x.value + y.value - x.value| = |y.value| := by rw [add_sub_cancel_left]
    have htriangle := abs_sub_le (round g (x.value + y.value) zeroNegative).value
      (x.value + y.value) x.value
    rw [hvalue, abs_sub_comm x.value] at hclosest
    have hnonneg := abs_nonneg y.value
    rw [convert_eq_round hrounded, round_eq_of_close hx hfull (by linarith),
      round_eq_of_close hx hfull (by linarith)]

/-- The sum of two numbers can be rounded to a wide enough format first. -/
theorem convert_round_add (h : f.Within g) {x y : Binary f} (hx : x.isFinite) (hy : y.isFinite)
    (zeroNegative : Bool) :
    (round g (x.value + y.value) zeroNegative).convert f =
      round f (x.value + y.value) zeroNegative := by
  obtain ⟨negative, significand, exponent, canonical, rfl⟩ := exists_of_isFinite hx
  obtain ⟨negative', significand', exponent', canonical', rfl⟩ := exists_of_isFinite hy
  rcases le_total exponent' exponent with hle | hle
  · exact convert_round_add_of_le h rfl rfl hle zeroNegative
  · rw [Rat.add_comm]
    exact convert_round_add_of_le h rfl rfl hle zeroNegative

theorem convert_add_convert (h : f.Within g) {x y : Binary f} (hx : x.isFinite)
    (hy : y.isFinite) :
    (x.convert g + y.convert g).convert f =
      round f (x.value + y.value) (x.isNegative && y.isNegative) := by
  obtain ⟨hxfinite, hxvalue, hxsign⟩ := convert_within h hx
  obtain ⟨hyfinite, hyvalue, hysign⟩ := convert_within h hy
  rw [add_eq_round hxfinite hyfinite, hxvalue, hyvalue, hxsign, hysign, convert_round_add h hx hy]

theorem convert_sub_convert (h : f.Within g) {x y : Binary f} (hx : x.isFinite)
    (hy : y.isFinite) :
    (x.convert g - y.convert g).convert f =
      round f (x.value - y.value) (x.isNegative && !y.isNegative) := by
  obtain ⟨hxfinite, hxvalue, hxsign⟩ := convert_within h hx
  obtain ⟨hyfinite, hyvalue, hysign⟩ := convert_within h hy
  rw [sub_eq_round hxfinite hyfinite, hxvalue, hyvalue, hxsign, hysign, sub_eq_add_neg,
    ← value_neg, convert_round_add h hx (isFinite_neg hy)]

end Binary
end Storyboard
