import Mathlib
import Storyboard.Proofs.Decimal.Search

/-!
# No shorter decimal reads back

The zeros at the end of a coefficient do not count among the digits of a decimal.  A decimal with
fewer digits than the one that was found would be a multiple of a higher place, or lie below a power
of ten that the number does not lie below.  Both would have stopped the search before.
-/

namespace Storyboard
namespace Decimal

/-! ## Significant digits -/

/-- The number of digits of a natural number without the zeros at its end. -/
def significantDigits (n : Nat) : Nat :=
  ((Nat.digits 10 n).dropWhile (· = 0)).length

theorem significantDigits_pow_mul (t : Nat) {m : Nat} (hm : ¬ 10 ∣ m) :
    significantDigits (10 ^ t * m) = (Nat.digits 10 m).length := by
  have hpos : 0 < m := Nat.pos_of_ne_zero fun hzero => hm (hzero ▸ dvd_zero 10)
  have hzeros : ∀ digit ∈ List.replicate t 0, decide (digit = 0) = true := by
    intro digit hdigit
    rw [List.eq_of_mem_replicate hdigit]
    rfl
  have hlast : ¬ decide (m % 10 = 0) = true := by
    rw [decide_eq_true_eq]
    exact fun hzero => hm (Nat.dvd_of_mod_eq_zero hzero)
  rw [significantDigits, Nat.digits_base_pow_mul (by decide) hpos,
    List.dropWhile_append_of_pos hzeros, Nat.digits_def' (by decide) hpos, List.dropWhile_cons,
    if_neg hlast]

theorem le_of_pow_mul_eq {m m' t t' : Nat} (hm : ¬ 10 ∣ m) (h : 10 ^ t * m = m' * 10 ^ t') :
    m ≤ m' := by
  rcases Nat.lt_or_ge t t' with hmore | hle
  · -- Then `m` itself would end in a zero.
    rw [← pow_mul_pow_sub 10 hmore.le, Nat.mul_left_comm] at h
    have hcancel := Nat.eq_of_mul_eq_mul_left (by positivity) h
    have hten : 10 ∣ 10 ^ (t' - t) := dvd_pow_self 10 (by omega)
    exact absurd (hcancel ▸ dvd_mul_of_dvd_right hten m') hm
  · rw [← pow_mul_pow_sub 10 hle, Nat.mul_assoc, Nat.mul_comm m'] at h
    have hcancel := Nat.eq_of_mul_eq_mul_left (by positivity) h
    rw [← hcancel]
    exact Nat.le_mul_of_pos_left m (by positivity)

/-- So many digits suffice for a coefficient if zeros may follow them. -/
theorem significantDigits_le_iff {n s : Nat} :
    significantDigits n ≤ s ↔ ∃ m t, n = m * 10 ^ t ∧ m < 10 ^ s := by
  by_cases hn : n = 0
  · have hzero : significantDigits 0 = 0 := rfl
    rw [hn, hzero]
    constructor
    · intro _
      exact ⟨0, 0, rfl, by positivity⟩
    · intro _
      exact Nat.zero_le s
  · obtain ⟨t, m, hm, rfl⟩ := Nat.exists_eq_pow_mul_and_not_dvd hn 10 (by decide)
    rw [significantDigits_pow_mul t hm, Nat.digits_length_le_iff (by decide)]
    constructor
    · intro hlt
      exact ⟨m, t, Nat.mul_comm _ _, hlt⟩
    · rintro ⟨m', t', heq, hlt⟩
      exact (le_of_pow_mul_eq hm heq).trans_lt hlt

/-! ## Coefficients that end in a zero -/

theorem magnitude_trimmed (d : Decimal) : d.trimmed.magnitude = d.magnitude := by
  unfold trimmed
  split
  next hzero =>
    have hsplit : d.coefficient = d.coefficient / 10 * 10 ^ 1 := by omega
    rw [magnitude_eq, magnitude_eq]
    conv_rhs => rw [hsplit, cast_mul_ten_zpow, Nat.cast_one, add_comm]
  next => rfl

theorem negative_trimmed (d : Decimal) : d.trimmed.negative = d.negative := by
  unfold trimmed
  split
  · rfl
  · rfl

/-! ## What is found -/

section Found

variable {f : Binary.Format} {x : Binary f} {d : Decimal}

theorem Found.coefficient_bounds (hx : x.value ≠ 0) (h : Found x (leadingPlace |x.value|) d) :
    10 ^ (leadingPlace |x.value| - d.exponent).toNat ≤ d.coefficient ∧
      d.coefficient ≤ 10 ^ ((leadingPlace |x.value| - d.exponent).toNat + 1) := by
  obtain ⟨hleading, hnext⟩ := leadingPlace_spec (abs_pos.mpr hx)
  obtain ⟨hbelow, habove⟩ := unitsBelow_spec (abs_nonneg x.value) d.exponent
  have hle := h.exponent_le
  have hpos : (0 : ℚ) < 10 ^ d.exponent := by positivity
  have hplace : ∀ k : Nat, (10 : ℚ) ^ (leadingPlace |x.value| + k) =
      ((10 ^ ((leadingPlace |x.value| - d.exponent).toNat + k) : Nat) : ℚ) * 10 ^ d.exponent := by
    intro k
    rw [← ten_zpow_natCast, ← zpow_add₀ (by norm_num)]
    congr 1
    push_cast
    omega
  have hlower : 10 ^ (leadingPlace |x.value| - d.exponent).toNat <
      unitsBelow |x.value| d.exponent + 1 := by
    rw [← add_zero (leadingPlace |x.value|), ← Nat.cast_zero, hplace] at hleading
    exact_mod_cast lt_of_mul_lt_mul_right (hleading.trans_lt habove) hpos.le
  have hupper : unitsBelow |x.value| d.exponent <
      10 ^ ((leadingPlace |x.value| - d.exponent).toNat + 1) := by
    rw [← Nat.cast_one, hplace] at hnext
    exact_mod_cast lt_of_mul_lt_mul_right (hbelow.trans_lt hnext) hpos.le
  rcases h.coefficient with heq | heq
  · rw [heq]
    exact ⟨by omega, hupper.le⟩
  · rw [heq]
    exact ⟨by omega, hupper⟩

/-- Only a coefficient of ten at the leading place ends in a zero. -/
theorem Found.eq_ten (hf : f.SpansOne) (hfinite : x.isFinite) (hx : x.value ≠ 0)
    (h : Found x (leadingPlace |x.value|) d) (hzero : d.coefficient % 10 = 0) :
    d.coefficient = 10 ∧ d.exponent = leadingPlace |x.value| := by
  have hmagnitude := d.magnitude_trimmed
  rw [trimmed, if_pos hzero, magnitude_eq] at hmagnitude
  have hread : ReadsBack x (d.coefficient / 10) (d.exponent + 1) :=
    readsBack_of_magnitude_eq hf hfinite h.reads hmagnitude
  have hexponent : d.exponent = leadingPlace |x.value| := by
    by_contra hne
    have hle := h.exponent_le
    exact h.first (d.exponent + 1) (by omega) (by omega) _ hread
  obtain ⟨hlower, hupper⟩ := h.coefficient_bounds hx
  rw [← hexponent, sub_self, Int.toNat_zero, pow_zero] at hlower
  rw [← hexponent, sub_self, Int.toNat_zero, zero_add, pow_one] at hupper
  exact ⟨by omega, hexponent⟩

theorem ReadsBack.ne_zero (hf : f.SpansOne) (hfinite : x.isFinite) (hx : x.value ≠ 0) {n : Nat}
    {place : Int} (h : ReadsBack x n place) : n ≠ 0 := by
  rintro rfl
  have hsize := ((toBinary_eq_iff hf hfinite _).mp h).2
  have hmagnitude : magnitude ⟨x.isNegative, 0, place⟩ = 0 := by
    rw [magnitude_eq, Nat.cast_zero, zero_mul]
  rw [hmagnitude] at hsize
  exact hx (abs_eq_zero.mp hsize.symm)

theorem Found.lt_of_reads (hf : f.SpansOne) (hfinite : x.isFinite) (hx : x.value ≠ 0)
    (h : Found x (leadingPlace |x.value|) d) {other : Decimal} (hread : other.toBinary f = x)
    {s : Nat} (hs : significantDigits other.coefficient ≤ s) :
    (leadingPlace |x.value| - d.exponent).toNat < s := by
  obtain ⟨m, t, hm, hlt⟩ := significantDigits_le_iff.mp hs
  obtain ⟨hleading, -⟩ := leadingPlace_spec (abs_pos.mpr hx)
  generalize leadingPlace |x.value| = top at h hleading ⊢
  have hsize : (m : ℚ) * 10 ^ (t + other.exponent) = other.magnitude := by
    rw [magnitude_eq, hm, cast_mul_ten_zpow]
  have hmany : ReadsBack x m (t + other.exponent) :=
    readsBack_of_magnitude_eq hf hfinite hread hsize
  generalize (t : Int) + other.exponent = place at hmany
  have hpos : 0 < s := by
    apply Nat.pos_of_ne_zero
    rintro rfl
    exact hmany.ne_zero hf hfinite hx (by simpa using hlt)
  by_contra hfew
  rcases lt_or_ge ((m : ℚ) * 10 ^ place) (10 ^ top) with hbelow | habove
  · -- Then the power of ten at the leading place reads back.
    obtain ⟨n, hexact, hvalue⟩ :=
      exists_readsBack hf hfinite (le_refl (-(|x.value|.den.log2 : Int)))
    have hone : ReadsBack x 1 top := by
      apply ReadsBack.of_between hf hfinite _ _ hmany hexact
      · rw [Nat.cast_one, one_mul]
        exact hbelow.le
      · rw [Nat.cast_one, one_mul, hvalue]
        exact hleading
    exact h.first top (by omega) le_rfl 1 hone
  · -- Then it is a multiple of a place above the found one.
    have hdigits : (m : ℚ) * 10 ^ place < 10 ^ ((s : Int) + place) := by
      have hcast : (m : ℚ) < (10 ^ s : Nat) := by exact_mod_cast hlt
      rw [zpow_add₀ (by norm_num), ten_zpow_natCast]
      gcongr
    have hplace := (zpow_lt_zpow_iff_right₀ (by norm_num)).mp (habove.trans_lt hdigits)
    have hscaled : ((m * 10 ^ (place - min place top).toNat : Nat) : ℚ) * 10 ^ min place top =
        magnitude ⟨x.isNegative, m, place⟩ := by
      rw [cast_mul_ten_zpow, magnitude_eq]
      congr 2
      dsimp only
      omega
    have hmultiple := readsBack_of_magnitude_eq hf hfinite hmany hscaled
    exact h.first (min place top) (by omega) (min_le_right _ _) _ hmultiple

/-! ## The shortest decimal -/

/-- A decimal is read as a number, and none with fewer digits is. -/
structure IsShortest (x : Binary f) (d : Decimal) : Prop where
  reads : d.toBinary f = x
  negative : d.negative = x.isNegative
  coefficient_mod : d.coefficient % 10 ≠ 0
  least : ∀ other : Decimal, other.toBinary f = x →
    significantDigits d.coefficient ≤ significantDigits other.coefficient

theorem Found.isShortest_trimmed (hf : f.SpansOne) (hfinite : x.isFinite) (hx : x.value ≠ 0)
    (h : Found x (leadingPlace |x.value|) d) : IsShortest x d.trimmed where
  reads := by
    rw [toBinary_congr hf d.negative_trimmed d.magnitude_trimmed]
    exact h.reads
  negative := d.negative_trimmed.trans h.negative
  coefficient_mod := by
    unfold trimmed
    split
    next hzero =>
      simp [(h.eq_ten hf hfinite hx hzero).1]
    next hne => exact hne
  least := by
    intro other hread
    have hplaces := h.lt_of_reads hf hfinite hx hread le_rfl
    have hbounds := (h.coefficient_bounds hx).2
    rw [significantDigits_le_iff]
    unfold trimmed
    split
    next hzero =>
      obtain ⟨hten, -⟩ := h.eq_ten hf hfinite hx hzero
      refine ⟨1, 0, ?_, Nat.one_lt_pow (by omega) (by decide)⟩
      simp [hten]
    next hne =>
      refine ⟨d.coefficient, 0, by rw [pow_zero, mul_one], ?_⟩
      have hlt : d.coefficient < 10 ^ ((leadingPlace |x.value| - d.exponent).toNat + 1) := by
        apply lt_of_le_of_ne hbounds
        intro heq
        apply hne
        rw [heq, pow_succ, Nat.mul_mod_left]
      exact hlt.trans_le (Nat.pow_le_pow_right (by decide) hplaces)

theorem ratAbs_eq_abs (q : ℚ) : q.abs = |q| := by
  rcases le_total 0 q with hnonneg | hnonpos
  · rw [Rat.abs_of_nonneg hnonneg, abs_of_nonneg hnonneg]
  · rw [Rat.abs_of_nonpos hnonpos, abs_of_nonpos hnonpos]

/-- The decimal that is written for a number other than zero is a shortest one. -/
theorem isShortest_shortest (hf : f.SpansOne) (hfinite : x.isFinite) (hx : x.value ≠ 0) :
    IsShortest x (shortest x) := by
  unfold shortest
  dsimp only
  rw [ratAbs_eq_abs]
  apply Found.isShortest_trimmed hf hfinite hx
  apply found_search hf hfinite
  omega

end Found
end Decimal
end Storyboard
