import Mathlib
import Storyboard.Decimal.Shortest
import Storyboard.Proofs.Decimal.Reading

/-!
# The search for a decimal that reads back

The search for a shortest decimal goes down from the place of the leading digit and stops at the
first place of which some multiple reads back.  At each place it is enough to look at two multiples,
since what lies between two decimals that are read as a number is read as that number.  The search
ends at the latest where the number itself is a multiple, since its denominator is a power of two.
-/

namespace Storyboard
namespace Decimal

/-! ## The place of the leading digit -/

theorem digitCount_bounds {n : Nat} (hn : n ≠ 0) :
    0 < digitCount n ∧ 10 ^ (digitCount n - 1) ≤ n ∧ n < 10 ^ digitCount n := by
  have hpos : 0 < (Nat.toDigits 10 n).length := Nat.length_toDigits_pos
  rw [digitCount, if_neg hn]
  refine ⟨hpos, ?_, (Nat.length_toDigits_le_iff (by decide) hpos).mp le_rfl⟩
  by_contra hlt
  rw [not_le] at hlt
  rcases Nat.eq_zero_or_pos ((Nat.toDigits 10 n).length - 1) with hone | hmore
  · rw [hone, pow_zero] at hlt
    omega
  · have hle := (Nat.length_toDigits_le_iff (by decide) hmore).mpr hlt
    omega

theorem leadingPlace_spec_of_lt {n d : Nat} (hn : 0 < n) (h : n < d) :
    (10 : ℚ) ^ (-(digitCount ((d + n - 1) / n - 1) : Int)) ≤ n / d ∧
      (n : ℚ) / d < 10 ^ (-(digitCount ((d + n - 1) / n - 1) : Int) + 1) := by
  have hfloor : (d + n - 1) / n * n ≤ d + n - 1 := Nat.div_mul_le_self _ _
  have hceil : d + n - 1 < (d + n - 1) / n * n + n := Nat.lt_div_mul_add hn
  have htwo : 2 ≤ (d + n - 1) / n := by
    rw [Nat.le_div_iff_mul_le hn]
    omega
  generalize (d + n - 1) / n = r at hfloor hceil htwo ⊢
  obtain ⟨hpos, hlower, hupper⟩ := digitCount_bounds (n := r - 1) (by omega)
  generalize digitCount (r - 1) = k at hpos hlower hupper ⊢
  have hnpos : (0 : ℚ) < n := Nat.cast_pos.mpr hn
  have hdpos : (0 : ℚ) < d := Nat.cast_pos.mpr (hn.trans h)
  constructor
  · have hbound : d ≤ 10 ^ k * n := by
      calc d ≤ r * n := by omega
        _ ≤ 10 ^ k * n := Nat.mul_le_mul_right n (by omega)
    have hcast : (d : ℚ) ≤ (10 ^ k : Nat) * n := by exact_mod_cast hbound
    rw [zpow_neg, ten_zpow_natCast, inv_eq_one_div, div_le_div_iff₀ (by positivity) hdpos, one_mul,
      mul_comm]
    exact hcast
  · have hbound : 10 ^ (k - 1) * n < d := by
      have hscaled : 10 ^ (k - 1) * n ≤ (r - 1) * n := Nat.mul_le_mul_right n hlower
      rw [Nat.sub_mul] at hscaled
      omega
    have hcast : ((10 ^ (k - 1) : Nat) : ℚ) * n < d := by exact_mod_cast hbound
    have hexponent : -(k : Int) + 1 = -((k - 1 : Nat) : Int) := by omega
    rw [hexponent, zpow_neg, ten_zpow_natCast, inv_eq_one_div,
      div_lt_div_iff₀ hdpos (by positivity), one_mul, mul_comm]
    exact hcast

theorem leadingPlace_spec {q : ℚ} (hq : 0 < q) :
    (10 : ℚ) ^ leadingPlace q ≤ q ∧ q < 10 ^ (leadingPlace q + 1) := by
  have hfraction : (q.num.natAbs : ℚ) / q.den = q := by
    rw [Binary.cast_natAbs_num_div, abs_of_pos hq]
  have hnum : 0 < q.num.natAbs := by
    rw [Int.natAbs_pos, Rat.num_ne_zero]
    exact hq.ne'
  have hden : (0 : ℚ) < q.den := Nat.cast_pos.mpr q.den_pos
  unfold leadingPlace
  dsimp only
  split
  next hzero =>
    have hlt : q.num.natAbs < q.den :=
      (Nat.div_eq_zero_iff.mp hzero).resolve_left q.den_nz
    have hspec := leadingPlace_spec_of_lt hnum hlt
    rw [hfraction] at hspec
    rw [Int.negOfNat_eq]
    exact hspec
  next hne =>
    obtain ⟨hpos, hlower, hupper⟩ := digitCount_bounds hne
    have hfloor : q.num.natAbs / q.den * q.den ≤ q.num.natAbs := Nat.div_mul_le_self _ _
    have hceil : q.num.natAbs < q.num.natAbs / q.den * q.den + q.den :=
      Nat.lt_div_mul_add q.den_pos
    generalize q.num.natAbs / q.den = whole at hpos hlower hupper hfloor hceil ⊢
    have hexponent : (digitCount whole : Int) - 1 = ((digitCount whole - 1 : Nat) : Int) := by omega
    constructor
    · rw [hexponent, ten_zpow_natCast, ← hfraction, le_div_iff₀ hden]
      exact_mod_cast (Nat.mul_le_mul_right q.den hlower).trans hfloor
    · rw [sub_add_cancel, ten_zpow_natCast, ← hfraction, div_lt_iff₀ hden]
      rw [← Nat.succ_mul] at hceil
      exact_mod_cast hceil.trans_le (Nat.mul_le_mul_right q.den hupper)

/-! ## Multiples of a place -/

/-- The whole number of units of a place in a magnitude. -/
def unitsBelow (magnitude : ℚ) (place : Int) : Nat :=
  (inUnits magnitude place).num.natAbs / (inUnits magnitude place).den

theorem unitsBelow_spec {magnitude : ℚ} (h : 0 ≤ magnitude) (place : Int) :
    unitsBelow magnitude place * (10 : ℚ) ^ place ≤ magnitude ∧
      magnitude < (unitsBelow magnitude place + 1) * (10 : ℚ) ^ place := by
  have hpos : (0 : ℚ) < 10 ^ place := by positivity
  have hunits : inUnits magnitude place = magnitude / 10 ^ place := by rw [inUnits, tenTo_eq]
  have hnonneg : 0 ≤ inUnits magnitude place := by
    rw [hunits]
    positivity
  have hfloor : ⌊inUnits magnitude place⌋₊ = unitsBelow magnitude place := by
    conv_lhs => rw [← abs_of_nonneg hnonneg, ← Binary.cast_natAbs_num_div]
    exact Nat.floor_div_eq_div _ _
  have hbelow := Nat.floor_le hnonneg
  have habove := Nat.lt_floor_add_one (inUnits magnitude place)
  rw [hfloor, hunits] at hbelow habove
  exact ⟨(le_div_iff₀ hpos).mp hbelow, (div_lt_iff₀ hpos).mp habove⟩

theorem unitsBelow_mul (n : Nat) (place : Int) : unitsBelow (n * 10 ^ place) place = n := by
  have hpos : (0 : ℚ) < 10 ^ place := by positivity
  have hnonneg : (0 : ℚ) ≤ n * 10 ^ place := by positivity
  obtain ⟨hbelow, habove⟩ := unitsBelow_spec hnonneg place
  have hle : unitsBelow (n * 10 ^ place) place ≤ n := by
    exact_mod_cast le_of_mul_le_mul_right hbelow hpos
  have hlt : n < unitsBelow (n * 10 ^ place) place + 1 := by
    exact_mod_cast lt_of_mul_lt_mul_right habove hpos.le
  omega

section Multiples

variable {f : Binary.Format} {x : Binary f} {place : Int} {n : Nat}

/-- So many units of a place are read as a number. -/
def ReadsBack (x : Binary f) (n : Nat) (place : Int) : Prop :=
  Decimal.toBinary f ⟨x.isNegative, n, place⟩ = x

instance (x : Binary f) (n : Nat) (place : Int) : Decidable (ReadsBack x n place) :=
  inferInstanceAs (Decidable (_ = _))

theorem readsBack_of_magnitude_eq (hf : f.SpansOne) {d : Decimal} (hx : x.isFinite)
    (hread : d.toBinary f = x) (h : (n : ℚ) * 10 ^ place = d.magnitude) : ReadsBack x n place := by
  have hsign := ((toBinary_eq_iff hf hx d).mp hread).1
  have hmagnitude : magnitude ⟨x.isNegative, n, place⟩ = d.magnitude := by rw [magnitude_eq, ← h]
  exact (toBinary_congr hf hsign.symm hmagnitude).trans hread

theorem ReadsBack.of_between (hf : f.SpansOne) (hx : x.isFinite) {m n k : Nat} {p q r : Int}
    (hlow : (m : ℚ) * 10 ^ p ≤ n * 10 ^ q) (hhigh : (n : ℚ) * 10 ^ q ≤ k * 10 ^ r)
    (hfirst : ReadsBack x m p) (hlast : ReadsBack x k r) : ReadsBack x n q := by
  apply toBinary_eq_of_between hf hx rfl _ _ hfirst hlast
  · rw [magnitude_eq, magnitude_eq]
    exact hlow
  · rw [magnitude_eq, magnitude_eq]
    exact hhigh

/-- A finite number has finitely many binary places. -/
theorem exists_den_eq_two_pow (x : Binary f) : ∃ k, |x.value|.den = 2 ^ k := by
  have hdvd : ∃ j, x.value.den ∣ 2 ^ j := by
    cases x with
    | nan => exact ⟨0, dvd_rfl⟩
    | infinite negative => exact ⟨0, dvd_rfl⟩
    | finite negative significand exponent canonical =>
        refine ⟨(-exponent).toNat, ?_⟩
        rw [Binary.value, Binary.scale, ← Rat.divInt_ofNat, Nat.one_shiftLeft, Nat.one_shiftLeft]
        exact Int.natCast_dvd_natCast.mp (Rat.den_dvd _ _)
  obtain ⟨j, hj⟩ := hdvd
  obtain ⟨k, -, hk⟩ := (Nat.dvd_prime_pow Nat.prime_two).mp hj
  exact ⟨k, by rw [Rat.den_abs_eq_den, hk]⟩

theorem exists_units_eq (x : Binary f) (h : place ≤ -(|x.value|.den.log2 : Int)) :
    ∃ n : Nat, (n : ℚ) * 10 ^ place = |x.value| := by
  obtain ⟨k, hk⟩ := exists_den_eq_two_pow x
  rw [hk, Nat.log2_two_pow] at h
  have hvalue : |x.value| = (|x.value|.num.natAbs : ℚ) / 2 ^ k := by
    conv_lhs => rw [← abs_abs, ← Binary.cast_natAbs_num_div, hk]
    push_cast
    rfl
  refine ⟨|x.value|.num.natAbs * 5 ^ k * 10 ^ (-place - k).toNat, ?_⟩
  have hten : (10 : ℚ) ^ (-place - k).toNat * 10 ^ place = (10 ^ k)⁻¹ := by
    rw [← zpow_natCast, ← zpow_natCast, ← zpow_neg, ← zpow_add₀ (by norm_num)]
    congr 1
    omega
  have hsplit : (10 : ℚ) ^ k = 5 ^ k * 2 ^ k := by rw [← mul_pow]; norm_num
  generalize |x.value|.num.natAbs = m at hvalue ⊢
  rw [hvalue]
  push_cast
  rw [mul_assoc, hten, hsplit]
  field_simp

theorem exists_readsBack (hf : f.SpansOne) (hx : x.isFinite)
    (h : place ≤ -(|x.value|.den.log2 : Int)) :
    ∃ n, ReadsBack x n place ∧ (n : ℚ) * 10 ^ place = |x.value| := by
  obtain ⟨n, hn⟩ := exists_units_eq x h
  refine ⟨n, ?_, hn⟩
  apply toBinary_of_magnitude_eq hf hx rfl
  rw [magnitude_eq, hn]

/-- If some multiple of a place reads back, then one of the two next to the number does. -/
theorem readsBack_of_readsBack (hf : f.SpansOne) (hx : x.isFinite) (h : ReadsBack x n place) :
    ReadsBack x (unitsBelow |x.value| place) place ∨
      ReadsBack x (unitsBelow |x.value| place + 1) place := by
  obtain ⟨exact, hexact, hsize⟩ :=
    exists_readsBack hf hx (le_refl (-(|x.value|.den.log2 : Int)))
  obtain ⟨hbelow, habove⟩ := unitsBelow_spec (abs_nonneg x.value) place
  have hpos : (0 : ℚ) < 10 ^ place := by positivity
  rcases Nat.lt_or_ge (unitsBelow |x.value| place) n with hlt | hle
  · right
    have hcast : ((unitsBelow |x.value| place + 1 : Nat) : ℚ) ≤ n := by exact_mod_cast hlt
    apply ReadsBack.of_between hf hx _ _ hexact h
    · rw [hsize]
      push_cast
      exact habove.le
    · gcongr
  · left
    have hcast : (n : ℚ) ≤ unitsBelow |x.value| place := by exact_mod_cast hle
    apply ReadsBack.of_between hf hx _ _ h hexact
    · gcongr
    · rw [hsize]
      exact hbelow

theorem multiple?_eq (x : Binary f) (place : Int) :
    multiple? x |x.value| place =
      match decide (ReadsBack x (unitsBelow |x.value| place) place),
        decide (ReadsBack x (unitsBelow |x.value| place + 1) place) with
      | true, true => some (nearest (inUnits |x.value| place).num.natAbs
          (inUnits |x.value| place).den)
      | true, false => some (unitsBelow |x.value| place)
      | false, true => some (unitsBelow |x.value| place + 1)
      | false, false => none :=
  rfl

theorem nearest_eq_or (n d : Nat) : nearest n d = n / d ∨ nearest n d = n / d + 1 := by
  unfold nearest
  dsimp only
  split
  · exact Or.inl rfl
  · split
    · exact Or.inr rfl
    · omega

theorem multiple?_eq_some (h : multiple? x |x.value| place = some n) :
    ReadsBack x n place ∧
      (n = unitsBelow |x.value| place ∨ n = unitsBelow |x.value| place + 1) := by
  rw [multiple?_eq] at h
  split at h
  next hbelow habove =>
    rw [← Option.some.inj h]
    rcases nearest_eq_or (inUnits |x.value| place).num.natAbs (inUnits |x.value| place).den
      with heq | heq
    · rw [heq]
      exact ⟨of_decide_eq_true hbelow, Or.inl rfl⟩
    · rw [heq]
      exact ⟨of_decide_eq_true habove, Or.inr rfl⟩
  next hbelow _ =>
    rw [← Option.some.inj h]
    exact ⟨of_decide_eq_true hbelow, Or.inl rfl⟩
  next _ habove =>
    rw [← Option.some.inj h]
    exact ⟨of_decide_eq_true habove, Or.inr rfl⟩
  next => cases h

theorem not_readsBack_of_multiple? (hf : f.SpansOne) (hx : x.isFinite)
    (h : multiple? x |x.value| place = none) (n : Nat) : ¬ ReadsBack x n place := by
  intro hn
  rw [multiple?_eq] at h
  split at h
  next => cases h
  next => cases h
  next => cases h
  next hbelow habove =>
    rcases readsBack_of_readsBack hf hx hn with hread | hread
    · exact of_decide_eq_false hbelow hread
    · exact of_decide_eq_false habove hread

/-! ## The search -/

/-- The first place from one downwards of which a multiple reads back, with a nearby multiple. -/
structure Found (x : Binary f) (top : Int) (d : Decimal) : Prop where
  reads : d.toBinary f = x
  negative : d.negative = x.isNegative
  coefficient : d.coefficient = unitsBelow |x.value| d.exponent ∨
    d.coefficient = unitsBelow |x.value| d.exponent + 1
  exponent_le : d.exponent ≤ top
  first : ∀ place, d.exponent < place → place ≤ top → ∀ n, ¬ ReadsBack x n place

theorem Found.of_readsBack (hread : ReadsBack x n place)
    (hn : n = unitsBelow |x.value| place ∨ n = unitsBelow |x.value| place + 1) :
    Found x place ⟨x.isNegative, n, place⟩ where
  reads := hread
  negative := rfl
  coefficient := hn
  exponent_le := le_rfl
  first := fun _ hgt hle => absurd hle (not_le.mpr hgt)

theorem Found.of_pred {d : Decimal} (h : Found x (place - 1) d)
    (hnone : ∀ n, ¬ ReadsBack x n place) : Found x place d where
  reads := h.reads
  negative := h.negative
  coefficient := h.coefficient
  exponent_le := by
    have hle := h.exponent_le
    omega
  first := by
    intro other hgt hle
    rcases hle.eq_or_lt with rfl | hlt
    · exact hnone
    · exact h.first other hgt (by omega)

theorem found_search (hf : f.SpansOne) (hx : x.isFinite) (steps : Nat)
    (h : place - steps ≤ -(|x.value|.den.log2 : Int)) :
    Found x place (search x |x.value| steps place) := by
  induction steps generalizing place with
  | zero =>
      -- No place is left, but the number itself is a multiple of this one.
      rw [Nat.cast_zero, sub_zero] at h
      obtain ⟨n, hread, hsize⟩ := exists_readsBack hf hx h
      have hunits : n = unitsBelow |x.value| place := by rw [← hsize, unitsBelow_mul]
      rw [hunits] at hread
      exact .of_readsBack hread (Or.inl rfl)
  | succ steps ih =>
      unfold search
      split
      next n hfound =>
        obtain ⟨hread, hn⟩ := multiple?_eq_some hfound
        exact .of_readsBack hread hn
      next hnone =>
        have hrest : Found x (place - 1) (search x |x.value| steps (place - 1)) := by
          apply ih
          rw [Nat.cast_add, Nat.cast_one] at h
          omega
        exact hrest.of_pred (not_readsBack_of_multiple? hf hx hnone)

end Multiples
end Decimal
end Storyboard
