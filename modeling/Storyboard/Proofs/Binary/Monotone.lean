import Mathlib
import Storyboard.Proofs.Binary.Order

/-!
# Rounding is monotone

A larger fraction is never rounded to a smaller number.  Its last place is not lower, and at one
last place the significands keep the order of the fractions.  So the fractions that are rounded to
one number lie next to each other: whatever lies between two of them is rounded to that number, too.
-/

namespace Storyboard
namespace Binary

variable {f : Format} {n d n' d' : Nat}

/-! ## Exponents and significands -/

theorem leadingExponent_mono (hn : n ≠ 0) (hd : 0 < d) (hn' : n' ≠ 0) (hd' : 0 < d')
    (h : (n : ℚ) / d ≤ n' / d') : leadingExponent n d ≤ leadingExponent n' d' := by
  have hupper := (leadingExponent_spec hn' hd').2
  exact Int.lt_add_one_iff.mp (leadingExponent_lt hn hd (h.trans_lt hupper))

theorem unitExponent_mono (f : Format) (hn : n ≠ 0) (hd : 0 < d) (hn' : n' ≠ 0) (hd' : 0 < d')
    (h : (n : ℚ) / d ≤ n' / d') : f.unitExponent n d ≤ f.unitExponent n' d' := by
  have hleading := leadingExponent_mono hn hd hn' hd' h
  unfold Format.unitExponent
  omega

/-- A significand turns at the halves of the last place; a half goes to the even one. -/
theorem unitSignificand_le_iff (hd : 0 < d) (k : Nat) :
    unitSignificand f n d ≤ k ↔
      2 * ((n : ℚ) / d) < (2 * k + 1) * 2 ^ f.unitExponent n d ∨
        2 * ((n : ℚ) / d) = (2 * k + 1) * 2 ^ f.unitExponent n d ∧ k % 2 = 0 := by
  have hshift : 2 * n <<< (-f.unitExponent n d).toNat =
      (2 * n) <<< (-f.unitExponent n d).toNat := by
    rw [Nat.shiftLeft_eq, Nat.shiftLeft_eq, Nat.mul_assoc]
  have hcast : ((2 * n : Nat) : ℚ) / d = 2 * ((n : ℚ) / d) := by
    push_cast
    ring
  have hodd : ((2 * k + 1 : Nat) : ℚ) = 2 * k + 1 := by push_cast; rfl
  have hle := le_mul_shiftLeft_iff (n := 2 * n) hd (2 * k + 1) (f.unitExponent n d)
  have hge := mul_shiftLeft_le_iff (n := 2 * n) hd (2 * k + 1) (f.unitExponent n d)
  rw [hcast, hodd] at hle hge
  rw [unitSignificand, nearest_le_iff (shiftLeft_pos hd _), hshift, ← not_le, hge, not_le,
    Nat.eq_iff_le_and_ge, hle, hge, ← le_antisymm_iff]

theorem unitSignificand_mono (hd : 0 < d) (hd' : 0 < d')
    (hexponent : f.unitExponent n d = f.unitExponent n' d') (h : (n : ℚ) / d ≤ n' / d') :
    unitSignificand f n d ≤ unitSignificand f n' d' := by
  have hself := (unitSignificand_le_iff (f := f) (n := n') hd' _).mp le_rfl
  rw [← hexponent] at hself
  rw [unitSignificand_le_iff hd]
  rcases hself with hlt | ⟨heq, heven⟩
  · exact Or.inl (by linarith)
  · rcases h.lt_or_eq with hless | hsame
    · exact Or.inl (by linarith)
    · exact Or.inr ⟨by rw [hsame, heq], heven⟩

/-! ## The size after rounding -/

/-- What a fraction is rounded to, if exponents had no upper end. -/
def roundedSize (f : Format) (n d : Nat) : ℚ :=
  if n = 0 then 0 else unitSignificand f n d * 2 ^ f.unitExponent n d

theorem roundedSize_nonneg (f : Format) (n d : Nat) : 0 ≤ roundedSize f n d := by
  unfold roundedSize
  split
  · exact le_rfl
  · positivity

theorem unitSignificand_le_limit (hn : n ≠ 0) (hd : 0 < d) :
    (unitSignificand f n d : ℚ) * 2 ^ f.unitExponent n d ≤
      2 ^ ((f.precision : Int) + f.unitExponent n d) := by
  have hlimit : (unitSignificand f n d : ℚ) ≤ f.limit := by
    exact_mod_cast (significand_bounds f hn hd).1
  rw [zpow_add₀ two_ne_zero, ← cast_limit]
  gcongr

theorem leading_le_unitSignificand (hn : n ≠ 0) (hd : 0 < d)
    (h : f.minExponent < f.unitExponent n d) :
    (2 : ℚ) ^ ((f.precision : Int) - 1 + f.unitExponent n d) ≤
      unitSignificand f n d * 2 ^ f.unitExponent n d := by
  have hfull : f.leading ≤ unitSignificand f n d :=
    (significand_bounds f hn hd).2.resolve_right h.ne'
  have hcast : (f.leading : ℚ) ≤ unitSignificand f n d := by exact_mod_cast hfull
  rw [zpow_add₀ two_ne_zero, ← cast_leading]
  gcongr

theorem roundedSize_mono (f : Format) (hd : 0 < d) (hd' : 0 < d') (h : (n : ℚ) / d ≤ n' / d') :
    roundedSize f n d ≤ roundedSize f n' d' := by
  by_cases hn : n = 0
  · rw [roundedSize, if_pos hn]
    exact roundedSize_nonneg f n' d'
  · have hn' : n' ≠ 0 := by
      rintro rfl
      have hpos : (0 : ℚ) < n / d := by positivity
      rw [Nat.cast_zero, zero_div] at h
      exact absurd h (not_le.mpr hpos)
    rw [roundedSize, roundedSize, if_neg hn, if_neg hn']
    rcases (unitExponent_mono f hn hd hn' hd' h).eq_or_lt with heq | hlt
    · have hsignificand := unitSignificand_mono hd hd' heq h
      rw [heq]
      gcongr
    · -- One place higher, the least full significand is as much as the first too long one.
      have hleast : f.minExponent < f.unitExponent n' d' :=
        lt_of_le_of_lt (le_max_left _ _) hlt
      calc (unitSignificand f n d : ℚ) * 2 ^ f.unitExponent n d
          ≤ 2 ^ ((f.precision : Int) + f.unitExponent n d) := unitSignificand_le_limit hn hd
        _ ≤ 2 ^ ((f.precision : Int) - 1 + f.unitExponent n' d') := by
            apply zpow_le_zpow_right₀ one_le_two
            omega
        _ ≤ unitSignificand f n' d' * 2 ^ f.unitExponent n' d' :=
            leading_le_unitSignificand hn' hd' hleast

/-! ## The fractions that are rounded to one number -/

theorem eq_of_abs_value_eq {x y : Binary f} (hx : x.isFinite) (hy : y.isFinite)
    (hsign : x.isNegative = y.isNegative) (hsize : |x.value| = |y.value|) : x = y := by
  have hvalue : x.value = y.value := by
    cases hneg : x.isNegative with
    | false =>
        rw [← abs_of_nonneg (value_nonneg hneg), hsize,
          abs_of_nonneg (value_nonneg (hsign ▸ hneg))]
    | true =>
        rw [← neg_inj, ← abs_of_nonpos (value_nonpos hneg), hsize,
          abs_of_nonpos (value_nonpos (hsign ▸ hneg))]
  calc x = round f x.value x.isNegative := (round_value hx fun _ => rfl).symm
    _ = round f y.value y.isNegative := by rw [hvalue, hsign]
    _ = y := round_value hy fun _ => rfl

theorem abs_value_lt (x : Binary f) : |x.value| < 2 ^ ((f.precision : Int) + f.maxExponent) := by
  cases x with
  | nan =>
      show |(0 : ℚ)| < _
      rw [abs_zero]
      positivity
  | infinite negative =>
      show |(0 : ℚ)| < _
      rw [abs_zero]
      positivity
  | finite negative significand exponent canonical =>
      rw [abs_value_finite]
      apply (lt_of_canonical canonical).trans_le
      apply zpow_le_zpow_right₀ one_le_two
      have hmost := canonical.2.2.1
      omega

theorem ofFraction_eq_iff {x : Binary f} (hx : x.isFinite) (hd : 0 < d) (negative : Bool) :
    ofFraction f negative n d = x ↔ negative = x.isNegative ∧ roundedSize f n d = |x.value| := by
  by_cases hn : n = 0
  · have hzero : ofFraction f negative n d = zero f negative := if_pos hn
    have hvalue := value_zero f negative
    rw [hzero, roundedSize, if_pos hn]
    constructor
    · rintro rfl
      rw [hvalue, abs_zero]
      exact ⟨rfl, rfl⟩
    · rintro ⟨hsign, hsize⟩
      have hfinite : (zero f negative).isFinite := rfl
      apply eq_of_abs_value_eq hfinite hx hsign
      rw [hvalue, abs_zero, hsize]
  · rw [roundedSize, if_neg hn]
    constructor
    · rintro rfl
      obtain ⟨hrange, hcarry⟩ := unitExponent_le_of_isFinite hn hx
      exact ⟨(isNegative_ofFraction f negative n d).symm,
        (ofFraction_spec hn hd hrange hcarry).2.symm⟩
    · rintro ⟨hsign, hsize⟩
      have hbound := abs_value_lt x
      rw [← hsize] at hbound
      have hrange : f.unitExponent n d ≤ f.maxExponent := by
        by_contra hlarge
        have hleast : f.minExponent < f.unitExponent n d :=
          lt_of_le_of_lt f.minExponent_le (not_le.mp hlarge)
        have hpower := (leading_le_unitSignificand hn hd hleast).trans_lt hbound
        have hexponent := (zpow_lt_zpow_iff_right₀ one_lt_two).mp hpower
        omega
      have hcarry : unitSignificand f n d = f.limit → f.unitExponent n d < f.maxExponent := by
        intro hlimit
        rw [hlimit, cast_limit, ← zpow_add₀ two_ne_zero] at hbound
        have hexponent := (zpow_lt_zpow_iff_right₀ one_lt_two).mp hbound
        omega
      obtain ⟨hfinite, hvalue⟩ :
          (ofFraction f negative n d).isFinite ∧ |(ofFraction f negative n d).value| = _ :=
        ofFraction_spec hn hd hrange hcarry
      apply eq_of_abs_value_eq hfinite hx
      · rw [isNegative_ofFraction, hsign]
      · rw [hvalue, hsize]

theorem ofFraction_eq_of_between {x : Binary f} (hx : x.isFinite) {m c : Nat} (hc : 0 < c)
    (hd : 0 < d) (hd' : 0 < d') {negative : Bool} (hlow : (n : ℚ) / d ≤ m / c)
    (hhigh : (m : ℚ) / c ≤ n' / d') (hfirst : ofFraction f negative n d = x)
    (hlast : ofFraction f negative n' d' = x) : ofFraction f negative m c = x := by
  rw [ofFraction_eq_iff hx hd] at hfirst
  rw [ofFraction_eq_iff hx hd'] at hlast
  rw [ofFraction_eq_iff hx hc]
  refine ⟨hfirst.1, le_antisymm ?_ ?_⟩
  · rw [← hlast.2]
    exact roundedSize_mono f hc hd' hhigh
  · rw [← hfirst.2]
    exact roundedSize_mono f hd hc hlow

end Binary
end Storyboard
