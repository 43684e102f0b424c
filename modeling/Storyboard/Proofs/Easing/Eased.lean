import Mathlib
import Storyboard.Argument.Reading
import Storyboard.Command.Sampling
import Storyboard.Proofs.Easing.Totality

/-!
# Eased and sampled values

The value of a command at a time can be had in two ways: from its easing, its times and the two
numbers it goes between, or by sampling the command.  Between the times of the command both come to
the same.  At its ends a command that is sampled gives the numbers themselves, while an easing still
computes with their difference, which is rounded.  So the value at the end can be missed.
-/

namespace Storyboard
namespace Binary

/-! ## Equality and the neutral numbers -/

section Arithmetic

variable {f : Format} {x y : Binary f}

theorem equals_iff_value_eq (hx : x.isFinite) (hy : y.isFinite) :
    x.equals y ↔ x.value = y.value := by
  obtain ⟨s, m, e, canonical, rfl⟩ := exists_of_isFinite hx
  obtain ⟨s', m', e', canonical', rfl⟩ := exists_of_isFinite hy
  exact decide_eq_true_iff

theorem round_value_equals (hx : x.isFinite) (zeroNegative : Bool) :
    (round f x.value zeroNegative).equals x := by
  by_cases hzero : x.value = 0
  · rw [hzero, round_zero, equals_iff_value_eq rfl hx, hzero, value_zero]
  · rw [round_value hx fun heq => absurd heq hzero]
    exact (equals_iff_value_eq hx hx).mpr rfl

end Arithmetic

theorem one_mul_double (x : Double) : 1 * x = x := by
  cases x with
  | nan => rfl
  | infinite negative => cases negative <;> decide +kernel
  | finite s m e canonical =>
      have hpositive : (1 : Double).isNegative = false := by decide +kernel
      rw [mul_eq_round one_double.1 rfl, one_double.2, hpositive, one_mul]
      apply round_value
      · rfl
      · intro _
        exact Bool.false_xor _

theorem zero_double : (0 : Double).isFinite ∧ (0 : Double).value = 0 := by
  decide +kernel

/-- What is left at the start is the lower number, unless the difference is infinite. -/
theorem zero_mul_add_equals_iff {x y : Double} (hx : x ≠ .nan) (hy : y.isFinite) :
    (0 * x + y).equals y ↔ x.isFinite := by
  cases x with
  | nan => exact absurd rfl hx
  | infinite negative =>
      have hnan : 0 * (infinite negative : Double) = .nan := by
        cases negative <;> decide +kernel
      rw [hnan, nan_add]
      constructor
      · intro h
        cases h
      · intro h
        cases h
  | finite s m e canonical =>
      have hproduct : (0 * (finite s m e canonical : Double)) = zero .double s := by
        have hpositive : (0 : Double).isNegative = false := by decide +kernel
        rw [mul_eq_round zero_double.1 rfl, zero_double.2, hpositive, zero_mul, round_zero,
          Bool.false_xor]
        rfl
      have hvalue := value_zero .double s
      constructor
      · intro _
        rfl
      · intro _
        rw [hproduct, add_eq_round rfl hy, hvalue, zero_add]
        exact round_value_equals hy _

theorem sub_add_equals {x y : Double} (hx : x.isFinite) (hy : y.isFinite)
    (hexact : (y - x).isFinite ∧ (y - x).value = y.value - x.value) : (y - x + x).equals y := by
  rw [add_eq_round hexact.1 hx, hexact.2, sub_add_cancel]
  exact round_value_equals hy _

end Binary

open Binary

/-! ## The progress -/

theorem quotient_zero (d : Int) : quotient .double 0 d = 0 := by
  rw [quotient, Int.cast_zero, zero_div]
  rfl

theorem quotient_self {d : Int} (h : d ≠ 0) : quotient .double d d = 1 := by
  rw [quotient, div_self (Int.cast_ne_zero.mpr h)]
  rfl

namespace Easing

theorem calculate_zero (e : Easing) : e.calculate 0 = .ok 0 :=
  e.curve.evaluate_of_lt_epsilon (by decide +kernel)

theorem calculate_one (e : Easing) : e.calculate 1 = .ok 1 :=
  e.curve.evaluate_of_one_sub_lt_epsilon (by decide +kernel) (by decide +kernel)

variable {e : Easing} {time start finish : Int} {low high p : Double}

theorem ease_eq (hpos : start < finish) (hin : start ≤ time ∧ time ≤ finish) (horder : ¬ high < low)
    (hp : e.calculate (quotient .double (time - start) (finish - start)) = .ok p) :
    e.ease time start finish low high = .ok (some (p * (high - low) + low)) := by
  have hinside : ¬ (time < start ∨ finish < time ∨ high < low) := by
    rintro (hbefore | hafter | hwrong)
    · omega
    · omega
    · exact horder hwrong
  unfold ease
  rw [if_neg hinside, if_neg hpos.ne']
  simp only [hp]
  rfl

end Easing

/-! ## Sampling a command between two numbers -/

namespace Command

/-- The command that takes a property from one number to another. -/
def passage (property : ScalarProperty) (easing : Easing) (start finish : Int)
    (first last : Number) : Command :=
  { start, easing, effect := .scalar property (.change finish first last) }

/-- The level of a command at a time, in double precision. -/
def levelAt (c : Command) (time : Int) : Except Failure (Option Double) := do
  match (← c.sample time).bind Sample.level? with
  | some level => return some (← level.toDouble)
  | none => return none

section Passage

variable {property : ScalarProperty} {easing : Easing} {start finish time : Int}
  {first last : Number} {low high : Double}

theorem levelAt_of_moment {moment : Moment Number} {level : Level} {x : Double}
    (hmoment : (Action.change finish first last).moment start easing time = .ok moment)
    (hlevel : Level.ofMoment moment = .ok level) (hx : level.toDouble = .ok x) :
    (passage property easing start finish first last).levelAt time = .ok (some x) := by
  have hsample : (passage property easing start finish first last).sample time =
      .ok (some (.level level)) := by
    show (do return some (Sample.level (← Level.ofMoment
      (← (Action.change finish first last).moment start easing time)))) = _
    rw [hmoment]
    show (do return some (Sample.level (← Level.ofMoment moment))) = _
    rw [hlevel]
    rfl
  unfold levelAt
  rw [hsample]
  show (do return some (← level.toDouble)) = _
  rw [hx]
  rfl

theorem levelAt_start (hpos : start < finish) (hfirst : first.toDouble = .ok low) :
    (passage property easing start finish first last).levelAt start = .ok (some low) := by
  have hmoment : (Action.change finish first last).moment start easing start = .ok (.at first) := by
    rw [Action.moment, if_neg (not_le.mpr hpos), if_pos le_rfl]
  exact levelAt_of_moment hmoment rfl hfirst

theorem levelAt_finish (hpos : start < finish) (hlast : last.toDouble = .ok high) :
    (passage property easing start finish first last).levelAt finish = .ok (some high) := by
  have hmoment : (Action.change finish first last).moment start easing finish = .ok (.at last) := by
    rw [Action.moment, if_neg (not_le.mpr hpos), if_neg (not_le.mpr hpos), if_pos le_rfl]
  exact levelAt_of_moment hmoment rfl hlast

theorem levelAt_between (hstart : start < time) (hfinish : time < finish)
    (hfirst : first.toDouble = .ok low) (hlast : last.toDouble = .ok high) {p : Double}
    (hp : easing.calculate (quotient .double (time - start) (finish - start)) = .ok p) :
    (passage property easing start finish first last).levelAt time =
      .ok (some (lerp low high p)) := by
  have hmoment : (Action.change finish first last).moment start easing time =
      .ok (.between first last p) := by
    rw [Action.moment, if_neg (not_le.mpr (hstart.trans hfinish)), if_neg (not_le.mpr hstart),
      if_neg (not_le.mpr hfinish)]
    simp only [hp]
    rfl
  have hlevel : Level.ofMoment (.between first last p) = .ok (.double (lerp low high p)) := by
    simp only [Level.ofMoment, hfirst, hlast]
    rfl
  exact levelAt_of_moment hmoment hlevel rfl

end Passage
end Command

/-! ## Easing between two arguments -/

theorem easeArguments_eq {e : Easing} {time start finish : Int} {a b : Number}
    {low high p : Double} (hlow : a.toDouble = .ok low) (hhigh : b.toDouble = .ok high)
    (horder : ¬ high < low) (hpos : start < finish) (htime : start ≤ time ∧ time ≤ finish)
    (hp : e.calculate (quotient .double (time - start) (finish - start)) = .ok p) :
    e.easeArguments time start finish (.number a) (.number b) =
      .ok (some (p * (high - low) + low)) := by
  show (do
    let low ← liftM a.toDouble
    let high ← liftM b.toDouble
    liftM (e.ease time start finish low high) : Except Error (Option Double)) = _
  rw [hlow, hhigh]
  show (liftM (e.ease time start finish low high) : Except Error (Option Double)) = _
  rw [Easing.ease_eq hpos htime horder hp]
  rfl

theorem lerp_eq (low high p : Double) : lerp low high p = p * (high - low) + low := by
  rw [lerp, Binary.add_comm, Binary.mul_comm]

theorem isFinite_sub_of_atMost {x y : Double} (hx : x.isFinite) (hy : y.isFinite)
    (hxk : AtMost 1022 x) (hyk : AtMost 1022 y) : (x - y).isFinite := by
  cases hxk.sub hyk (by decide) with
  | inl hnan =>
      rw [sub_eq_round hx hy] at hnan
      exact absurd hnan (round_ne_nan _ _ _)
  | inr hbound => exact hbound.1

/-! ## Main result -/

/-- How the eased value at a time compares with the sampled one. -/
structure Compared (start finish time : Int) (low high eased sampled : Double) : Prop where
  between : start < time → time < finish → eased = sampled
  at_start : time = start → sampled = low ∧ (eased.equals low ↔ (high - low).isFinite)
  at_start_bounded : time = start → AtMost 1022 low → AtMost 1022 high → eased.equals sampled
  at_finish : time = finish → sampled = high ∧ eased = high - low + low
  at_finish_exact : time = finish →
    (high - low).isFinite ∧ (high - low).value = high.value - low.value → eased.equals sampled

/--
Between its times a command has the same value whether it is eased or sampled.  At the start the two
are equal unless the difference of the numbers is too large for its format.  At the end they are
equal if the lower number can be taken from the higher one and added again without a loss, which is
so in particular for a difference that is not rounded.
-/
theorem eased_compared_with_sampled (e : Easing) (property : ScalarProperty)
    {start finish time : Int} {a b : Number} {low high : Double} (hlow : a.toDouble = .ok low)
    (hhigh : b.toDouble = .ok high) (hfinite : low.isFinite ∧ high.isFinite)
    (horder : ¬ high < low) (hpos : start < finish) (htime : start ≤ time ∧ time ≤ finish) :
    ∃ eased sampled,
      e.easeArguments time start finish (.number a) (.number b) = .ok (some eased) ∧
      (Command.passage property e start finish a b).levelAt time = .ok (some sampled) ∧
      Compared start finish time low high eased sampled := by
  by_cases hstart : time = start
  · have hprogress : e.calculate (quotient .double (time - start) (finish - start)) = .ok 0 := by
      rw [hstart, sub_self, quotient_zero]
      exact e.calculate_zero
    have hdifference : high - low ≠ .nan := by
      rw [sub_eq_round hfinite.2 hfinite.1]
      exact round_ne_nan _ _ _
    have hequal := zero_mul_add_equals_iff hdifference hfinite.1
    refine ⟨_, low, easeArguments_eq hlow hhigh horder hpos htime hprogress, ?_, ?_⟩
    · rw [hstart]
      exact Command.levelAt_start hpos hlow
    · constructor
      · intro hafter
        omega
      · intro _
        exact ⟨rfl, hequal⟩
      · intro _ hlowbound hhighbound
        exact hequal.mpr (isFinite_sub_of_atMost hfinite.2 hfinite.1 hhighbound hlowbound)
      · intro hlast
        omega
      · intro hlast
        omega
  · by_cases hfinish : time = finish
    · have hprogress : e.calculate (quotient .double (time - start) (finish - start)) = .ok 1 := by
        rw [hfinish, quotient_self (by omega)]
        exact e.calculate_one
      have heased : 1 * (high - low) + low = high - low + low := by rw [one_mul_double]
      refine ⟨_, high, easeArguments_eq hlow hhigh horder hpos htime hprogress, ?_, ?_⟩
      · rw [hfinish]
        exact Command.levelAt_finish hpos hhigh
      · constructor
        · intro _ hbefore
          omega
        · intro hfirst
          omega
        · intro hfirst
          omega
        · intro _
          exact ⟨rfl, heased⟩
        · intro _ hexact
          rw [heased]
          exact sub_add_equals hfinite.1 hfinite.2 hexact
    · cases e.exists_calculate (quotient .double (time - start) (finish - start)) with
      | intro p hp =>
          refine ⟨_, _, easeArguments_eq hlow hhigh horder hpos htime hp,
            Command.levelAt_between (by omega) (by omega) hlow hhigh hp, ?_⟩
          constructor
          · intro _ _
            exact (lerp_eq low high p).symm
          · intro hfirst
            omega
          · intro hfirst
            omega
          · intro hlast
            omega
          · intro hlast
            omega

/-- Halfway from 100 to 200 an easing that starts fast has come to 175, and so has its command. -/
theorem compared_halfway :
    Number.toDouble 100 = .ok 100 ∧ Number.toDouble 200 = .ok 200 ∧
      ((100 : Double).isFinite ∧ (200 : Double).isFinite) ∧ ¬ (200 : Double) < 100 ∧
      (0 : Int) < 2000 ∧ ((0 : Int) ≤ 1000 ∧ (1000 : Int) ≤ 2000) ∧
      Easing.easeOut.easeArguments 1000 0 2000 (.number 100) (.number 200) = .ok (some 175) ∧
      (Command.passage .moveX .easeOut 0 2000 100 200).levelAt 1000 = .ok (some 175) := by
  have hlow : Number.toDouble 100 = .ok 100 := by decide +kernel
  have hhigh : Number.toDouble 200 = .ok 200 := by decide +kernel
  have hfinite : (100 : Double).isFinite ∧ (200 : Double).isFinite := by decide +kernel
  have horder : ¬ (200 : Double) < 100 := by decide +kernel
  have hsampled : (Command.passage .moveX .easeOut 0 2000 100 200).levelAt 1000 =
      .ok (some 175) := by
    decide +kernel
  have hpos : (0 : Int) < 2000 := by decide
  have htime : (0 : Int) ≤ 1000 ∧ (1000 : Int) ≤ 2000 := by decide
  obtain ⟨eased, sampled, heased, hlevel, hcompared⟩ :=
    eased_compared_with_sampled .easeOut .moveX hlow hhigh hfinite horder hpos htime
  have hvalue : sampled = 175 := Option.some.inj (Except.ok.inj (hlevel.symm.trans hsampled))
  have hsame : eased = sampled := hcompared.between (by decide) (by decide)
  rw [hsame, hvalue] at heased
  exact ⟨hlow, hhigh, hfinite, horder, hpos, htime, heased, hsampled⟩

/-- From minus one to a tiny number an easing comes to zero at the end, and misses that number. -/
theorem eased_misses_tiny :
    Number.toDouble (.int (-1)) = .ok (-1) ∧
      ∃ tiny : Double, (Number.ofDouble 1e-20).toDouble = .ok tiny ∧ tiny.isFinite ∧
        ¬ tiny < -1 ∧
        Easing.linear.easeArguments 1000 0 1000 (.number (.int (-1))) (.number (.ofDouble 1e-20)) =
          .ok (some 0) ∧
        (Command.passage .fade .linear 0 1000 (.int (-1)) (.ofDouble 1e-20)).levelAt 1000 =
          .ok (some tiny) ∧
        ¬ (0 : Double).equals tiny := by
  have hlow : Number.toDouble (.int (-1)) = .ok (-1) := by decide +kernel
  have hhigh : (Number.ofDouble 1e-20).toDouble =
      .ok (((1e-20 : Double).convert .single).convert .double) := rfl
  have horder : ¬ ((1e-20 : Double).convert .single).convert .double < (-1 : Double) := by
    decide +kernel
  have hpos : (0 : Int) < 1000 := by decide
  have htime : (0 : Int) ≤ 1000 ∧ (1000 : Int) ≤ 1000 := by decide
  have hprogress : Easing.linear.calculate (quotient .double (1000 - 0) (1000 - 0)) = .ok 1 := by
    decide +kernel
  have heased := easeArguments_eq hlow hhigh horder hpos htime hprogress
  have hzero : (1 : Double) * (((1e-20 : Double).convert .single).convert .double - -1) + -1 = 0 := by
    decide +kernel
  rw [hzero] at heased
  exact ⟨hlow, _, hhigh, by decide +kernel, horder, heased,
    Command.levelAt_finish hpos hhigh, by decide +kernel⟩

end Storyboard
