import Mathlib
import Storyboard.Number
import Storyboard.Proofs.Decimal.Numerals
import Storyboard.Proofs.Decimal.Shortest

/-!
# Numbers as they are displayed

A single-precision number is displayed by a numeral that is read as the number, with as few digits
as such a numeral can have.  So the text gives back the number to the last bit, the sign of a zero
included, and no two finite numbers have one text.
-/

namespace Storyboard

/-! ## The decimal behind a text -/

namespace Decimal

variable {f : Binary.Format} {x : Binary f}

/-- The decimal whose digits are displayed for a finite number. -/
def shown (x : Binary f) : Decimal :=
  if x.value = 0 then ⟨x.isNegative, 0, 0⟩ else shortest x

theorem toBinary_shown (hf : f.SpansOne) (hx : x.isFinite) : (shown x).toBinary f = x := by
  unfold shown
  split
  next hzero =>
    apply toBinary_of_magnitude_eq hf hx rfl
    rw [magnitude_eq, hzero, abs_zero]
    simp
  next hne => exact (isShortest_shortest hf hx hne).reads

theorem coefficient_shown_mod (hf : f.SpansOne) (hx : x.isFinite) :
    (shown x).coefficient % 10 ≠ 0 ∨ (shown x).exponent = 0 := by
  unfold shown
  split
  next => exact Or.inr rfl
  next hne => exact Or.inl (isShortest_shortest hf hx hne).coefficient_mod

theorem significantDigits_shown_le (hf : f.SpansOne) (hx : x.isFinite) {d : Decimal}
    (h : d.toBinary f = x) :
    significantDigits (shown x).coefficient ≤ significantDigits d.coefficient := by
  unfold shown
  split
  next => exact Nat.zero_le _
  next hne => exact (isShortest_shortest hf hx hne).least d h

theorem significantDigits_ofDecimal_le (d : Decimal) :
    significantDigits (Numeral.ofDecimal d).decimal.coefficient ≤
      significantDigits d.coefficient := by
  obtain ⟨m, t, hm, hlt⟩ := significantDigits_le_iff.mp (le_refl (significantDigits d.coefficient))
  apply significantDigits_le_iff.mpr
  refine ⟨m, t + d.exponent.toNat, ?_, hlt⟩
  rw [Numeral.decimal_ofDecimal]
  dsimp only
  rw [hm, pow_add, Nat.mul_assoc]

end Decimal

/-! ## The numeral of a number -/

namespace Binary

section Numeral

variable {f : Binary.Format} {x : Binary f}

theorem value_finite_eq_zero_iff {negative : Bool} {significand : Nat} {exponent : Int}
    {canonical : f.Canonical significand exponent} :
    (Binary.finite negative significand exponent canonical).value = 0 ↔ significand = 0 := by
  have hpos : (2 : ℚ) ^ exponent ≠ 0 := by positivity
  rw [← abs_eq_zero, abs_value_finite, mul_eq_zero, or_iff_left hpos, Nat.cast_eq_zero]

/-- The numeral that is displayed for a finite number. -/
def numeral (x : Binary f) : Numeral :=
  .ofDecimal (Decimal.shown x)

theorem toList_text (hx : x.isFinite) : (x.text .command).toList = x.numeral.chars := by
  obtain ⟨negative, significand, exponent, canonical, rfl⟩ := exists_of_isFinite hx
  rw [numeral, Numeral.chars_ofDecimal, Binary.text, String.toList_ofList, Decimal.shown]
  simp only [value_finite_eq_zero_iff]
  rfl

theorem isTight_numeral (hf : f.SpansOne) (hx : x.isFinite) : x.numeral.IsTight :=
  Numeral.isTight_ofDecimal (Decimal.coefficient_shown_mod hf hx)

theorem toBinary_numeral (hf : f.SpansOne) (hx : x.isFinite) :
    x.numeral.decimal.toBinary f = x := by
  have hsign : x.numeral.decimal.negative = (Decimal.shown x).negative := by
    rw [numeral, Numeral.decimal_ofDecimal]
  rw [Decimal.toBinary_congr hf hsign (Numeral.magnitude_decimal_ofDecimal _),
    Decimal.toBinary_shown hf hx]

theorem significantDigits_numeral_le (hf : f.SpansOne) (hx : x.isFinite) {d : Decimal}
    (h : d.toBinary f = x) :
    Decimal.significantDigits x.numeral.decimal.coefficient ≤
      Decimal.significantDigits d.coefficient :=
  (Decimal.significantDigits_ofDecimal_le _).trans (Decimal.significantDigits_shown_le hf hx h)

theorem eq_of_text_eq (hf : f.SpansOne) {x y : Binary f} (hx : x.isFinite) (hy : y.isFinite)
    (h : x.text .command = y.text .command) : x = y := by
  have hchars : x.numeral.chars = y.numeral.chars := by
    rw [← toList_text hx, ← toList_text hy, h]
  have hread : some x.numeral.decimal = some y.numeral.decimal := by
    rw [← (isTight_numeral hf hx).ofChars?_chars, ← (isTight_numeral hf hy).ofChars?_chars, hchars]
  rw [← toBinary_numeral hf hx, ← toBinary_numeral hf hy, Option.some.inj hread]

end Numeral

end Binary

/-! ## Single-precision numbers -/

namespace Number

/--
A number is displayed by a numeral: tight in its zeros, read back as the number when its exact value
is rounded once, and not to be replaced by a decimal with fewer digits.
-/
structure Displays (x : Single) (p : Numeral) : Prop where
  text : (Number.float x).text.toList = p.chars
  tight : p.IsTight
  negative : p.negative = x.isNegative
  read : Decimal.ofChars? (Number.float x).text.toList = some p.decimal
  rounds : Binary.round .single p.decimal.value p.decimal.negative = x
  shortest : ∀ d : Decimal,
    Decimal.significantDigits d.coefficient < Decimal.significantDigits p.decimal.coefficient →
      Binary.round .single d.value d.negative ≠ x

/-- Every finite number is displayed by a shortest numeral, and by one that is its own. -/
theorem displays_numeral (x : Single) (hx : x.isFinite) :
    Displays x x.numeral ∧
      ∀ y : Single, y.isFinite → ((Number.float x).text = (Number.float y).text ↔ x = y) := by
  have hf := Binary.Format.single_spansOne
  have htight := Binary.isTight_numeral hf hx
  have hread := Binary.toBinary_numeral hf hx
  constructor
  · constructor
    case text => exact Binary.toList_text hx
    case tight => exact htight
    case negative => exact ((Decimal.toBinary_eq_iff hf hx _).mp hread).1
    case read =>
      rw [show (Number.float x).text.toList = x.numeral.chars from Binary.toList_text hx]
      exact htight.ofChars?_chars
    case rounds => rw [← Decimal.toBinary_eq_round hf, hread]
    case shortest =>
      intro d hfewer hsame
      rw [← Decimal.toBinary_eq_round hf] at hsame
      exact absurd (Binary.significantDigits_numeral_le hf hx hsame) (Nat.not_le.mpr hfewer)
  · intro y hy
    constructor
    case mp => exact Binary.eq_of_text_eq hf hx hy
    case mpr => exact fun heq => by rw [heq]

/-- A power of two: the numbers above it are twice as far apart as those below. -/
def spacingDoubles : Single :=
  .finite false 8388608 3 (by decide)

theorem displays_spacingDoubles :
    spacingDoubles.isFinite = true ∧ Displays spacingDoubles spacingDoubles.numeral ∧
      (Number.float spacingDoubles).text = "67108864" ∧
      ∀ y : Single, y.isFinite →
        ((Number.float spacingDoubles).text = (Number.float y).text ↔ spacingDoubles = y) :=
  ⟨rfl, (displays_numeral spacingDoubles rfl).1, by decide +kernel,
    (displays_numeral spacingDoubles rfl).2⟩

end Number

/-! ## The texts of all numbers -/

/-- A text for a number: a numeral, or a word if the number is not finite. -/
inductive IsNumberText : List Char → Prop where
  | numeral {p : Numeral} (h : p.IsTight) : IsNumberText p.chars
  | nan : IsNumberText ['n', 'a', 'n']
  | infinite (negative : Bool) :
      IsNumberText (if negative then ['-', 'i', 'n', 'f'] else ['i', 'n', 'f'])

theorem Numeral.IsPlain.chars_ne_nil {p : Numeral} (h : p.IsPlain) : p.chars ≠ [] := by
  unfold chars
  exact List.append_ne_nil_of_right_ne_nil _ (List.append_ne_nil_of_left_ne_nil h.whole_ne_nil _)

theorem Numeral.IsPlain.not_mem_chars {p : Numeral} (h : p.IsPlain) {c : Char}
    (hc : c ≠ '-' ∧ c ≠ '.' ∧ c.isDigit = false) : c ∉ p.chars := by
  obtain ⟨hminus, hpoint, hdigit⟩ := hc
  have hdigits : ∀ ds : List Char, (∀ d ∈ ds, d.isDigit = true) → c ∉ ds := by
    intro ds hds hmem
    rw [hds c hmem] at hdigit
    cases hdigit
  unfold chars
  simp only [List.mem_append, not_or]
  refine ⟨?_, hdigits p.whole h.isDigit_whole, ?_⟩
  · split
    · exact fun hmem => hminus (List.mem_singleton.mp hmem)
    · exact List.not_mem_nil
  · split
    · exact List.not_mem_nil
    · exact List.not_mem_cons_of_ne_of_not_mem hpoint (hdigits p.fraction h.isDigit_fraction)

namespace IsNumberText

variable {cs : List Char}

theorem ne_nil (h : IsNumberText cs) : cs ≠ [] := by
  cases h with
  | numeral h => exact h.chars_ne_nil
  | nan => exact List.cons_ne_nil _ _
  | infinite negative =>
      cases negative with
      | false => exact List.cons_ne_nil _ _
      | true => exact List.cons_ne_nil _ _

/-- A number is never written with an exponent. -/
theorem no_exponent (h : IsNumberText cs) : 'e' ∉ cs ∧ 'E' ∉ cs := by
  cases h with
  | numeral h => exact ⟨h.not_mem_chars (by decide), h.not_mem_chars (by decide)⟩
  | nan => decide
  | infinite negative =>
      cases negative with
      | false => decide
      | true => decide

end IsNumberText

theorem isNumberText_int (n : Int) : IsNumberText (toString n).toList := by
  have hnumeral : ∀ (negative : Bool) (m : Nat),
      IsNumberText ((if negative then ['-'] else []) ++ (toString m).toList) := by
    intro negative m
    have htight : (Numeral.ofDecimal ⟨negative, m, 0⟩).IsTight :=
      Numeral.isTight_ofDecimal (Or.inr rfl)
    rw [Nat.toString_eq_ofList_toDigits, String.toList_ofList]
    exact Numeral.chars_ofDecimal_natural negative m ▸ IsNumberText.numeral htight
  cases n with
  | ofNat m => exact hnumeral false m
  | negSucc m =>
      show IsNumberText ("-" ++ toString (m + 1)).toList
      rw [String.toList_append]
      exact hnumeral true (m + 1)

theorem isNumberText_nat (n : Nat) : IsNumberText (toString n).toList :=
  isNumberText_int n

theorem Number.isNumberText_text (n : Number) : IsNumberText n.text.toList := by
  cases n with
  | int n => exact isNumberText_int n
  | float x =>
      cases hx : x with
      | nan => exact .nan
      | infinite negative =>
          cases negative with
          | false => exact .infinite false
          | true => exact .infinite true
      | finite negative significand exponent canonical =>
          rw [← hx]
          have hfinite : x.isFinite = true := by rw [hx]; rfl
          rw [Number.text, Binary.toList_text hfinite]
          exact .numeral (Binary.isTight_numeral Binary.Format.single_spansOne hfinite)

end Storyboard
