import Mathlib
import Storyboard.Binary.Integer

/-!
# Rounding within the range of a format

Rounding first finds the exponent of the leading bit and then the nearest significand whose last
place that exponent allows.  Here it is shown that the exponent is right, so that the significand
has as many bits as it may have.  What follows is that a rational is rounded to an infinity only if
it is too large: one whose leading bit lies low enough becomes a finite number.
-/

namespace Storyboard

/-! ## The nearest natural number -/

theorem le_nearest {n d k : Nat} (hd : 0 < d) (h : k * d ≤ n) : k ≤ nearest n d := by
  have hfloor : k ≤ n / d := (Nat.le_div_iff_mul_le hd).mpr h
  unfold nearest
  dsimp only
  split
  · exact hfloor
  · split
    · omega
    · omega

theorem nearest_le {n d k : Nat} (hd : 0 < d) (h : n ≤ k * d) : nearest n d ≤ k := by
  rcases Nat.lt_or_eq_of_le h with hlt | heq
  · have hfloor : n / d < k := (Nat.div_lt_iff_lt_mul hd).mpr hlt
    unfold nearest
    dsimp only
    split
    · omega
    · split
      · omega
      · omega
  · have hexact : 2 * (n % d) < d := by
      rw [heq, Nat.mul_mod_left]
      exact hd
    have hfloor : n / d = k := by
      rw [heq, Nat.mul_div_cancel k hd]
    unfold nearest
    dsimp only
    rw [if_pos hexact, hfloor]

namespace Binary

/-! ## Scaling by powers of two -/

/-- Of an integer exponent, one of the two shifts is none, and the other one makes the power. -/
theorem two_pow_toNat (e : Int) :
    (2 : ℚ) ^ e.toNat = (2 : ℚ) ^ e * (2 : ℚ) ^ (-e).toNat := by
  rw [← zpow_natCast, ← zpow_natCast, ← zpow_add₀ two_ne_zero]
  congr 1
  omega

theorem two_zpow_eq_pow_mul {low high : Int} (h : low ≤ high) :
    (2 : ℚ) ^ high = 2 ^ (high - low).toNat * 2 ^ low := by
  rw [← zpow_natCast, ← zpow_add₀ two_ne_zero]
  congr 1
  omega

theorem cast_mul_two_zpow (k : Nat) {low high : Int} (h : low ≤ high) :
    (k : ℚ) * 2 ^ high = ((k * 2 ^ (high - low).toNat : Nat) : ℚ) * 2 ^ low := by
  rw [two_zpow_eq_pow_mul h]
  push_cast
  rw [mul_assoc]

section Scaled

variable {n d : Nat}

theorem cast_shiftLeft (n : Nat) (e : Int) :
    ((n <<< (-e).toNat : Nat) : ℚ) = n * 2 ^ (-e).toNat := by
  rw [Nat.shiftLeft_eq]
  push_cast
  rfl

theorem cast_mul_shiftLeft (k d : Nat) (e : Int) :
    ((k * (d <<< e.toNat) : Nat) : ℚ) = k * 2 ^ e * d * 2 ^ (-e).toNat := by
  rw [Nat.shiftLeft_eq]
  push_cast
  rw [two_pow_toNat e]
  ring

theorem mul_shiftLeft_le_iff (hd : 0 < d) (k : Nat) (e : Int) :
    k * (d <<< e.toNat) ≤ n <<< (-e).toNat ↔ (k : ℚ) * 2 ^ e ≤ n / d := by
  have hdpos : (0 : ℚ) < d := Nat.cast_pos.mpr hd
  have hpos : (0 : ℚ) < 2 ^ (-e).toNat := by positivity
  rw [← Nat.cast_le (α := ℚ), cast_mul_shiftLeft, cast_shiftLeft, mul_le_mul_iff_left₀ hpos,
    le_div_iff₀ hdpos]

theorem le_mul_shiftLeft_iff (hd : 0 < d) (k : Nat) (e : Int) :
    n <<< (-e).toNat ≤ k * (d <<< e.toNat) ↔ (n : ℚ) / d ≤ k * 2 ^ e := by
  have hdpos : (0 : ℚ) < d := Nat.cast_pos.mpr hd
  have hpos : (0 : ℚ) < 2 ^ (-e).toNat := by positivity
  rw [← Nat.cast_le (α := ℚ), cast_mul_shiftLeft, cast_shiftLeft, mul_le_mul_iff_left₀ hpos,
    div_le_iff₀ hdpos]

/-! ## The exponent of the leading bit -/

theorem two_zpow_log2_le (hn : n ≠ 0) : (2 : ℚ) ^ (n.log2 : Int) ≤ n := by
  rw [zpow_natCast]
  exact_mod_cast Nat.log2_self_le hn

theorem lt_two_zpow_log2 (n : Nat) : (n : ℚ) < 2 ^ ((n.log2 : Int) + 1) := by
  have h : n < 2 ^ (n.log2 + 1) := Nat.lt_log2_self
  have hcast : (n : ℚ) < 2 ^ (n.log2 + 1) := by exact_mod_cast h
  rw [← zpow_natCast] at hcast
  exact_mod_cast hcast

/-- A quotient of natural numbers has its leading bit at the difference of theirs, or one below. -/
theorem quotient_bounds (hn : n ≠ 0) (hd : 0 < d) :
    (2 : ℚ) ^ ((n.log2 : Int) - d.log2 - 1) ≤ n / d ∧
      (n : ℚ) / d < 2 ^ ((n.log2 : Int) - d.log2 + 1) := by
  have hdpos : (0 : ℚ) < d := Nat.cast_pos.mpr hd
  have hsplit : ∀ a b : Int, (2 : ℚ) ^ (a + b) = 2 ^ a * 2 ^ b := zpow_add₀ two_ne_zero
  constructor
  · rw [le_div_iff₀ hdpos]
    calc (2 : ℚ) ^ ((n.log2 : Int) - d.log2 - 1) * d
        ≤ 2 ^ ((n.log2 : Int) - d.log2 - 1) * 2 ^ ((d.log2 : Int) + 1) := by
          gcongr
          exact (lt_two_zpow_log2 d).le
      _ = 2 ^ (n.log2 : Int) := by
          rw [← hsplit]
          congr 1
          omega
      _ ≤ n := two_zpow_log2_le hn
  · rw [div_lt_iff₀ hdpos]
    calc (n : ℚ) < 2 ^ ((n.log2 : Int) + 1) := lt_two_zpow_log2 n
      _ = 2 ^ ((n.log2 : Int) - d.log2 + 1) * 2 ^ (d.log2 : Int) := by
          rw [← hsplit]
          congr 1
          omega
      _ ≤ 2 ^ ((n.log2 : Int) - d.log2 + 1) * d := by
          gcongr
          exact two_zpow_log2_le hd.ne'

theorem leadingExponent_spec (hn : n ≠ 0) (hd : 0 < d) :
    (2 : ℚ) ^ leadingExponent n d ≤ n / d ∧ (n : ℚ) / d < 2 ^ (leadingExponent n d + 1) := by
  obtain ⟨hlower, hupper⟩ := quotient_bounds hn hd
  have hcompare := mul_shiftLeft_le_iff (n := n) hd 1 ((n.log2 : Int) - d.log2)
  rw [one_mul, Nat.cast_one, one_mul] at hcompare
  unfold leadingExponent
  dsimp only
  split
  next hle => exact ⟨hcompare.mp hle, hupper⟩
  next hlt =>
    rw [hcompare, not_le] at hlt
    exact ⟨hlower, by rwa [sub_add_cancel]⟩

end Scaled

/-! ## The significand -/

variable {f : Format}

theorem cast_limit (f : Format) : (f.limit : ℚ) = 2 ^ (f.precision : Int) := by
  rw [Format.limit, Nat.one_shiftLeft, zpow_natCast]
  push_cast
  rfl

theorem cast_leading (f : Format) : (f.leading : ℚ) = 2 ^ ((f.precision : Int) - 1) := by
  have hexponent : (f.precision : Int) - 1 = ((f.precision - 1 : Nat) : Int) := by
    have hpos := f.precision_pos
    omega
  rw [Format.leading, Nat.one_shiftLeft, hexponent, zpow_natCast]
  push_cast
  rfl

theorem leading_lt_limit (f : Format) : f.leading < f.limit := by
  have hpos := f.precision_pos
  rw [Format.leading, Format.limit, Nat.one_shiftLeft, Nat.one_shiftLeft]
  exact Nat.pow_lt_pow_right (by decide) (by omega)

section Significand

variable {n d : Nat}

/-- The significand at the unit exponent is not too long, and full unless the exponent is least. -/
theorem significand_bounds (f : Format) (hn : n ≠ 0) (hd : 0 < d) :
    nearest (n <<< (-f.unitExponent n d).toNat) (d <<< (f.unitExponent n d).toNat) ≤ f.limit ∧
      (f.leading ≤
          nearest (n <<< (-f.unitExponent n d).toNat) (d <<< (f.unitExponent n d).toNat) ∨
        f.unitExponent n d = f.minExponent) := by
  obtain ⟨hlower, hupper⟩ := leadingExponent_spec hn hd
  have hunit : f.unitExponent n d = f.minExponent ∨
      f.unitExponent n d = leadingExponent n d - ((f.precision : Int) - 1) := max_choice _ _
  have hge : leadingExponent n d - ((f.precision : Int) - 1) ≤ f.unitExponent n d :=
    le_max_right _ _
  have hscaled : 0 < d <<< (f.unitExponent n d).toNat := by
    rw [Nat.shiftLeft_eq]
    positivity
  constructor
  · apply nearest_le hscaled
    rw [le_mul_shiftLeft_iff hd, cast_limit, ← zpow_add₀ two_ne_zero]
    apply hupper.le.trans
    apply zpow_le_zpow_right₀ one_le_two
    omega
  · rcases hunit with hleast | hplace
    · exact Or.inr hleast
    · apply Or.inl
      apply le_nearest hscaled
      rw [mul_shiftLeft_le_iff hd, cast_leading, ← zpow_add₀ two_ne_zero, hplace,
        add_sub_cancel]
      exact hlower

theorem isFinite_pack {negative : Bool} {significand : Nat} {exponent : Int}
    (h : f.Canonical significand exponent) : (pack f negative significand exponent).isFinite := by
  rw [pack, dif_pos h]
  rfl

theorem isFinite_ofFraction {negative : Bool} (hd : 0 < d)
    (h : f.unitExponent n d < f.maxExponent) : (ofFraction f negative n d).isFinite := by
  have hge : f.minExponent ≤ f.unitExponent n d := le_max_left _ _
  unfold ofFraction
  split
  next => rfl
  next hn =>
    obtain ⟨hle, hfull⟩ := significand_bounds f hn hd
    dsimp only
    split
    next =>
      -- Rounded up to the next power of two, which has a full significand one place higher.
      apply isFinite_pack
      exact ⟨leading_lt_limit f, by omega, by omega, Or.inl le_rfl⟩
    next hne =>
      apply isFinite_pack
      exact ⟨lt_of_le_of_ne hle hne, hge, h.le, hfull⟩

theorem leadingExponent_lt (hn : n ≠ 0) (hd : 0 < d) {k : Int} (h : (n : ℚ) / d < 2 ^ k) :
    leadingExponent n d < k := by
  obtain ⟨hlower, -⟩ := leadingExponent_spec hn hd
  exact (zpow_lt_zpow_iff_right₀ one_lt_two).mp (hlower.trans_lt h)

end Significand

theorem cast_natAbs_num_div (q : ℚ) : ((q.num.natAbs : Nat) : ℚ) / q.den = |q| := by
  rw [Nat.cast_natAbs, Int.cast_abs]
  conv_rhs => rw [← Rat.num_div_den q, abs_div, Nat.abs_cast]

theorem isFinite_round {q : ℚ} {k : Int} (hq : |q| < 2 ^ k)
    (hk : k - (f.precision : Int) < f.maxExponent) (hrange : f.minExponent < f.maxExponent)
    (zeroNegative : Bool) : (round f q zeroNegative).isFinite := by
  unfold round
  by_cases hn : q.num.natAbs = 0
  · rw [hn, ofFraction, if_pos rfl]
    rfl
  · apply isFinite_ofFraction q.den_pos
    rw [← cast_natAbs_num_div] at hq
    have hleading := leadingExponent_lt hn q.den_pos hq
    unfold Format.unitExponent
    apply max_lt hrange
    omega

theorem exists_of_isFinite {x : Binary f} (h : x.isFinite) :
    ∃ negative significand exponent canonical,
      x = .finite negative significand exponent canonical := by
  cases x with
  | nan => cases h
  | infinite negative => cases h
  | finite negative significand exponent canonical => exact ⟨_, _, _, _, rfl⟩

theorem roundToInt_of_isFinite {x : Binary f} (h : x.isFinite) :
    x.roundToInt = .ok (nearestInt x.value) := by
  obtain ⟨negative, significand, exponent, canonical, rfl⟩ := exists_of_isFinite h
  rfl

theorem isFinite_of_roundToInt {x : Binary f} {n : Int} (h : x.roundToInt = .ok n) :
    x.isFinite := by
  cases x with
  | nan => cases h
  | infinite negative => cases h
  | finite negative significand exponent canonical => rfl

end Binary
end Storyboard
