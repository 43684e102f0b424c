import Mathlib
import Storyboard.Proofs.Decimal.Reading
import Storyboard.Proofs.Text.Fields

/-!
# Numerals without an exponent

A numeral is a sign, digits, and perhaps a point with more digits after it.  Command lines write
every decimal as a numeral of the same size, without zeros that could be left out, and the numeral
is read as a decimal of that size again.
-/

namespace Storyboard

/-- A sign, the digits before the point, and those after it. -/
structure Numeral where
  negative : Bool
  whole : List Char
  fraction : List Char

namespace Numeral

/-- The characters of a numeral; a point is written only in front of digits. -/
def chars (p : Numeral) : List Char :=
  (if p.negative then ['-'] else []) ++
    (p.whole ++ if p.fraction = [] then [] else '.' :: p.fraction)

def decimal (p : Numeral) : Decimal :=
  ⟨p.negative, Nat.ofDigitChars 10 (p.whole ++ p.fraction) 0, -(p.fraction.length : Int)⟩

/-- There are digits in front of the point, and nothing but digits on both sides of it. -/
structure IsPlain (p : Numeral) : Prop where
  whole_ne_nil : p.whole ≠ []
  isDigit_whole : ∀ c ∈ p.whole, c.isDigit = true
  isDigit_fraction : ∀ c ∈ p.fraction, c.isDigit = true

/-- No zero could be left out. -/
structure IsTight (p : Numeral) : Prop extends p.IsPlain where
  leading : p.whole.head? = some '0' → p.whole = ['0']
  trailing : p.fraction.getLast? ≠ some '0'

/-! ## Reading a numeral -/

theorem splitDigits_append_of_digits {ds rest : List Char} (hds : ∀ c ∈ ds, c.isDigit = true)
    (hrest : ∀ c, rest.head? = some c → c.isDigit = false) :
    Decimal.splitDigits (ds ++ rest) = (ds, rest) := by
  have hstop : rest.takeWhile Char.isDigit = [] ∧ rest.dropWhile Char.isDigit = rest := by
    cases rest with
    | nil => exact ⟨rfl, rfl⟩
    | cons c later =>
        have hc := hrest c rfl
        constructor
        · rw [List.takeWhile_cons_of_neg (by simp [hc])]
        · rw [List.dropWhile_cons_of_neg (by simp [hc])]
  rw [Decimal.splitDigits, List.takeWhile_append_of_pos hds, List.dropWhile_append_of_pos hds,
    hstop.1, hstop.2, List.append_nil]

theorem splitDigits_of_digits {ds : List Char} (hds : ∀ c ∈ ds, c.isDigit = true) :
    Decimal.splitDigits ds = (ds, []) := by
  have h : Decimal.splitDigits (ds ++ []) = (ds, []) :=
    splitDigits_append_of_digits hds fun c hc => nomatch hc
  rwa [List.append_nil] at h

theorem splitSign_of_digit {c : Char} {rest : List Char} (hc : c.isDigit = true) :
    Decimal.splitSign (c :: rest) = (false, c :: rest) := by
  unfold Decimal.splitSign
  split
  next later h =>
    rw [(List.cons.inj h).1] at hc
    cases hc
  next later h =>
    rw [(List.cons.inj h).1] at hc
    cases hc
  next => rfl

theorem IsPlain.splitSign_chars {p : Numeral} (h : p.IsPlain) :
    Decimal.splitSign p.chars =
      (p.negative, p.whole ++ if p.fraction = [] then [] else '.' :: p.fraction) := by
  unfold chars
  cases p.negative with
  | true => rfl
  | false =>
      obtain ⟨c, rest, hwhole⟩ := List.exists_cons_of_ne_nil h.whole_ne_nil
      have hc : c.isDigit = true := h.isDigit_whole c (by simp [hwhole])
      rw [hwhole]
      exact splitSign_of_digit hc

theorem IsPlain.ofChars?_chars {p : Numeral} (h : p.IsPlain) :
    Decimal.ofChars? p.chars = some p.decimal := by
  unfold Decimal.ofChars?
  rw [h.splitSign_chars]
  dsimp only
  by_cases hfraction : p.fraction = []
  · have hsplit : Decimal.splitDigits (p.whole ++ []) = (p.whole, []) := by
      rw [List.append_nil]
      exact splitDigits_of_digits h.isDigit_whole
    rw [if_pos hfraction, hsplit]
    simp [h.whole_ne_nil, Decimal.readExponent?, decimal, hfraction]
  · have hsplit : Decimal.splitDigits (p.whole ++ '.' :: p.fraction) =
        (p.whole, '.' :: p.fraction) := by
      apply splitDigits_append_of_digits h.isDigit_whole
      intro c hc
      rw [← Option.some.inj hc]
      rfl
    rw [if_neg hfraction, hsplit]
    simp [splitDigits_of_digits h.isDigit_fraction, h.whole_ne_nil, Decimal.readExponent?, decimal]

end Numeral

/-! ## The digits of a natural number -/

namespace Decimal

theorem digitChar_eq_zero {n : Nat} (hn : n < 10) (h : n.digitChar = '0') : n = 0 := by
  have hall : ∀ k : Fin 10, (k : Nat).digitChar = '0' → (k : Nat) = 0 := by decide
  exact hall ⟨n, hn⟩ h

theorem digits_ne_nil (n : Nat) : digits n ≠ [] :=
  Nat.toDigits_ne_nil

theorem head?_digits_ne {n : Nat} (hn : n ≠ 0) : (digits n).head? ≠ some '0' := by
  induction n using Nat.strongRecOn with
  | ind n ih =>
      rw [digits, Nat.toDigits_eq_if (by decide)]
      split
      next hlt =>
        rw [List.head?_cons]
        intro h
        exact hn (digitChar_eq_zero hlt (Option.some.inj h))
      next hge =>
        have hdiv := ih (n / 10) (by omega) (by omega)
        rw [List.head?_append_of_ne_nil _ Nat.toDigits_ne_nil]
        exact hdiv

theorem getLast?_digits (n : Nat) : (digits n).getLast? = some (n % 10).digitChar := by
  rw [digits, Nat.toDigits_eq_if (by decide)]
  split
  next hlt => rw [Nat.mod_eq_of_lt hlt, List.getLast?_singleton]
  next => rw [List.getLast?_concat]

end Decimal

namespace Numeral

/-! ## The numeral of a decimal -/

/-- The digits of a coefficient, with zeros in front so that so many places lie after the point. -/
def padded (coefficient places : Nat) : List Char :=
  Decimal.zeros (places + 1 - (Decimal.digits coefficient).length) ++ Decimal.digits coefficient

/-- The numeral that a command line writes for a decimal. -/
def ofDecimal (d : Decimal) : Numeral :=
  if 0 ≤ d.exponent then
    ⟨d.negative, Decimal.digits d.coefficient ++ Decimal.zeros d.exponent.toNat, []⟩
  else
    let ds := padded d.coefficient (-d.exponent).toNat
    ⟨d.negative, ds.take (ds.length - (-d.exponent).toNat),
      ds.drop (ds.length - (-d.exponent).toNat)⟩

section Padded

variable (coefficient places : Nat)

theorem length_padded :
    (padded coefficient places).length =
      max (places + 1) (Decimal.digits coefficient).length := by
  rw [padded, List.length_append, Decimal.zeros, List.length_replicate]
  omega

theorem isDigit_of_mem_padded {c : Char} (h : c ∈ padded coefficient places) :
    c.isDigit = true := by
  rcases List.mem_append.mp h with hzero | hdigit
  · rw [List.eq_of_mem_replicate hzero]
    rfl
  · exact Text.isDigit_of_mem_digits hdigit

theorem ofDigitChars_padded : Nat.ofDigitChars 10 (padded coefficient places) 0 = coefficient := by
  rw [padded, Nat.ofDigitChars_append, Decimal.zeros, Nat.ofDigitChars_replicate_zero,
    Nat.mul_zero, Decimal.digits, Nat.ofDigitChars_ten_toDigits]

theorem getLast?_padded :
    (padded coefficient places).getLast? = some (coefficient % 10).digitChar := by
  rw [padded, List.getLast?_append_of_ne_nil _ (Decimal.digits_ne_nil coefficient),
    Decimal.getLast?_digits]

theorem leading_padded (hne : coefficient ≠ 0) :
    ((padded coefficient places).take ((padded coefficient places).length - places)).head? =
        some '0' →
      (padded coefficient places).take ((padded coefficient places).length - places) = ['0'] := by
  rcases Nat.lt_or_ge places (Decimal.digits coefficient).length with hmore | hfew
  · -- The digits reach across the point, and the first of them is no zero.
    have hnozeros : padded coefficient places = Decimal.digits coefficient := by
      rw [padded, Nat.sub_eq_zero_of_le hmore]
      rfl
    rw [hnozeros, List.head?_take, if_neg (by omega)]
    intro hhead
    exact absurd hhead (Decimal.head?_digits_ne hne)
  · -- All digits lie after the point, behind a single zero.
    have hlength : (padded coefficient places).length - places = 1 := by
      rw [length_padded]
      omega
    rw [hlength]
    intro hhead
    cases hpadded : padded coefficient places with
    | nil =>
        rw [hpadded] at hhead
        cases hhead
    | cons c rest =>
        rw [hpadded, List.head?_take, if_neg (by decide), List.head?_cons] at hhead
        rw [List.take_succ_cons, List.take_zero, Option.some.inj hhead]

end Padded

section OfDecimal

variable {d : Decimal}

theorem ofDecimal_of_nonneg (h : 0 ≤ d.exponent) :
    ofDecimal d =
      ⟨d.negative, Decimal.digits d.coefficient ++ Decimal.zeros d.exponent.toNat, []⟩ :=
  if_pos h

theorem ofDecimal_of_neg {places : Nat} (hpos : 0 < places) (h : d.exponent = -places) :
    ofDecimal d =
      ⟨d.negative,
        (padded d.coefficient places).take ((padded d.coefficient places).length - places),
        (padded d.coefficient places).drop ((padded d.coefficient places).length - places)⟩ := by
  have hneg : ¬ 0 ≤ d.exponent := by omega
  have hplaces : (-d.exponent).toNat = places := by omega
  rw [ofDecimal, if_neg hneg, hplaces]

theorem exists_places (h : ¬ 0 ≤ d.exponent) :
    ∃ places : Nat, 0 < places ∧ d.exponent = -places :=
  ⟨(-d.exponent).toNat, by omega, by omega⟩

theorem length_fraction {coefficient places : Nat} :
    ((padded coefficient places).drop ((padded coefficient places).length - places)).length =
      places := by
  rw [List.length_drop, length_padded]
  omega

theorem chars_ofDecimal_natural (negative : Bool) (n : Nat) :
    (ofDecimal ⟨negative, n, 0⟩).chars = (if negative then ['-'] else []) ++ Decimal.digits n := by
  rw [ofDecimal_of_nonneg le_rfl, chars]
  simp [Decimal.zeros]

theorem chars_ofDecimal (d : Decimal) :
    (ofDecimal d).chars = Decimal.chars Decimal.Style.command d := by
  have hsign : ∀ cs : List Char, (if d.negative then ['-'] else []) ++ cs =
      if d.negative then '-' :: cs else cs := by
    intro cs
    cases d.negative with
    | false => rfl
    | true => rfl
  by_cases hexponent : 0 ≤ d.exponent
  · have hunsigned : Decimal.unsignedChars Decimal.Style.command d =
        Decimal.digits d.coefficient ++ Decimal.zeros d.exponent.toNat := by
      show Decimal.positionalChars false d.coefficient d.exponent = _
      rw [Decimal.positionalChars, if_pos hexponent]
      simp
    rw [ofDecimal_of_nonneg hexponent, Decimal.chars, hunsigned, chars, hsign, if_pos rfl,
      List.append_nil]
  · obtain ⟨places, hpos, hplaces⟩ := exists_places hexponent
    have hunsigned : Decimal.unsignedChars Decimal.Style.command d =
        (padded d.coefficient places).take ((padded d.coefficient places).length - places) ++
          '.' :: (padded d.coefficient places).drop
            ((padded d.coefficient places).length - places) := by
      show Decimal.positionalChars false d.coefficient d.exponent = _
      rw [Decimal.positionalChars, if_neg hexponent, hplaces, neg_neg, Int.toNat_natCast]
      rfl
    have hfraction : (padded d.coefficient places).drop
        ((padded d.coefficient places).length - places) ≠ [] := by
      rw [← List.length_pos_iff, length_fraction]
      exact hpos
    rw [ofDecimal_of_neg hpos hplaces, Decimal.chars, hunsigned, chars, hsign, if_neg hfraction]

theorem isPlain_ofDecimal (d : Decimal) : (ofDecimal d).IsPlain := by
  by_cases hexponent : 0 ≤ d.exponent
  · rw [ofDecimal_of_nonneg hexponent]
    constructor
    case whole_ne_nil =>
      exact List.append_ne_nil_of_left_ne_nil (Decimal.digits_ne_nil _) _
    case isDigit_whole =>
      intro c hc
      rcases List.mem_append.mp hc with hdigit | hzero
      · exact Text.isDigit_of_mem_digits hdigit
      · rw [List.eq_of_mem_replicate hzero]
        rfl
    case isDigit_fraction =>
      intro c hc
      cases hc
  · obtain ⟨places, hpos, hplaces⟩ := exists_places hexponent
    rw [ofDecimal_of_neg hpos hplaces]
    constructor
    case whole_ne_nil =>
      rw [← List.length_pos_iff, List.length_take, length_padded]
      omega
    case isDigit_whole =>
      exact fun c hc => isDigit_of_mem_padded _ _ (List.mem_of_mem_take hc)
    case isDigit_fraction =>
      exact fun c hc => isDigit_of_mem_padded _ _ (List.mem_of_mem_drop hc)

theorem decimal_ofDecimal (d : Decimal) :
    (ofDecimal d).decimal =
      ⟨d.negative, d.coefficient * 10 ^ d.exponent.toNat, -((-d.exponent).toNat : Int)⟩ := by
  by_cases hexponent : 0 ≤ d.exponent
  · have hnone : (-d.exponent).toNat = 0 := by omega
    rw [ofDecimal_of_nonneg hexponent, decimal, hnone]
    dsimp only
    rw [List.append_nil, Nat.ofDigitChars_append, Decimal.zeros, Nat.ofDigitChars_replicate_zero,
      Decimal.digits, Nat.ofDigitChars_ten_toDigits, Nat.mul_comm]
    rfl
  · obtain ⟨places, hpos, hplaces⟩ := exists_places hexponent
    have hnone : d.exponent.toNat = 0 := by omega
    rw [ofDecimal_of_neg hpos hplaces, decimal, hnone, pow_zero, Nat.mul_one, hplaces, neg_neg,
      Int.toNat_natCast]
    dsimp only
    rw [List.take_append_drop, ofDigitChars_padded, length_fraction]

theorem magnitude_decimal_ofDecimal (d : Decimal) :
    (ofDecimal d).decimal.magnitude = d.magnitude := by
  have hexponent : (d.exponent.toNat : Int) + -((-d.exponent).toNat : Int) = d.exponent := by omega
  rw [decimal_ofDecimal, Decimal.magnitude_eq, Decimal.magnitude_eq, Decimal.cast_mul_ten_zpow,
    hexponent]

/-- Without a zero at the end of the coefficient, none is written that could be left out. -/
theorem isTight_ofDecimal (h : d.coefficient % 10 ≠ 0 ∨ d.exponent = 0) :
    (ofDecimal d).IsTight := by
  constructor
  case toIsPlain => exact isPlain_ofDecimal d
  case leading =>
    by_cases hexponent : 0 ≤ d.exponent
    · rw [ofDecimal_of_nonneg hexponent]
      intro hhead
      rw [List.head?_append_of_ne_nil _ (Decimal.digits_ne_nil _)] at hhead
      have hzero : d.coefficient = 0 := by
        by_contra hne
        exact Decimal.head?_digits_ne hne hhead
      have hnone : d.exponent = 0 := h.resolve_left (by simp [hzero])
      simp [hzero, hnone, Decimal.digits, Decimal.zeros]
    · obtain ⟨places, hpos, hplaces⟩ := exists_places hexponent
      have hmod : d.coefficient % 10 ≠ 0 := h.resolve_right (by omega)
      have hne : d.coefficient ≠ 0 := by
        intro hzero
        rw [hzero] at hmod
        exact hmod rfl
      rw [ofDecimal_of_neg hpos hplaces]
      exact leading_padded d.coefficient places hne
  case trailing =>
    by_cases hexponent : 0 ≤ d.exponent
    · rw [ofDecimal_of_nonneg hexponent]
      simp
    · obtain ⟨places, hpos, hplaces⟩ := exists_places hexponent
      have hmod : d.coefficient % 10 ≠ 0 := h.resolve_right (by omega)
      have hshort : ¬ (padded d.coefficient places).length ≤
          (padded d.coefficient places).length - places := by
        rw [length_padded]
        omega
      rw [ofDecimal_of_neg hpos hplaces]
      dsimp only
      rw [List.getLast?_drop, if_neg hshort, getLast?_padded]
      intro hlast
      exact hmod (Decimal.digitChar_eq_zero (Nat.mod_lt _ (by decide)) (Option.some.inj hlast))

end OfDecimal
end Numeral
end Storyboard
