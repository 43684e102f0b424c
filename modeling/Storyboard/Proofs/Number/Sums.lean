import Mathlib
import Storyboard.Number
import Storyboard.Proofs.Binary.Widening

/-!
# Sums and differences of numbers

The sum of two single-precision numbers is computed in double precision and rounded back.  It is the
exact sum rounded once all the same: the nearest number, of two the even one, or an infinity.  The
difference is no different, and among integers both are exact.
-/

namespace Storyboard
namespace Number

open Binary

/-- The answer is the single-precision number nearest to a rational, whose zero has a given sign. -/
def RoundedOnce (q : ℚ) (zeroNegative : Bool) (answer : Except Failure Number) : Prop :=
  ∃ s : Single, answer = .ok (.float s) ∧ RoundsTo q s ∧ s = round .single q zeroNegative

theorem roundedOnce_of_convert {q : ℚ} {zeroNegative : Bool} {x : Double}
    (h : x.convert .single = round .single q zeroNegative) :
    RoundedOnce q zeroNegative (.ok (ofDouble x)) := by
  refine ⟨x.convert .single, rfl, ?_, h⟩
  rw [h]
  exact roundsTo_round (by decide) q zeroNegative

/-- Sums and differences of finite numbers are rounded once; those of integers are not rounded. -/
theorem sums_rounded_once {x y : Single} (hx : x.isFinite) (hy : y.isFinite) :
    RoundedOnce (x.value + y.value) (x.isNegative && y.isNegative) (add (.float x) (.float y)) ∧
      RoundedOnce (x.value - y.value) (x.isNegative && !y.isNegative)
        (sub (.float x) (.float y)) ∧
      ∀ m n : Int,
        add (.int m) (.int n) = .ok (.int (m + n)) ∧ sub (.int m) (.int n) = .ok (.int (m - n)) := by
  refine ⟨?_, ?_, ?_⟩
  · exact roundedOnce_of_convert (convert_add_convert Format.single_within_double hx hy)
  · exact roundedOnce_of_convert (convert_sub_convert Format.single_within_double hx hy)
  · intro m n
    exact ⟨add_int m n, sub_int m n⟩

def largest : Single :=
  .finite false 16777215 104 (by decide)

/-- Half a last place of the largest number. -/
def halfPlace : Single :=
  .finite false 8388608 80 (by decide)

/-- Half a last place above the largest number there is no number any more. -/
theorem sums_at_threshold :
    largest.isFinite = true ∧ halfPlace.isFinite = true ∧
      RoundedOnce (largest.value + halfPlace.value) false
        (add (.float largest) (.float halfPlace)) ∧
      add (.float largest) (.float halfPlace) = .ok (.float (.infinite false)) ∧
      sub (.float largest) (.float halfPlace) =
        .ok (.float (.finite false 16777214 104 (by decide))) := by
  have hlargest : largest.isFinite := rfl
  have hhalf : halfPlace.isFinite := rfl
  have hsums := sums_rounded_once hlargest hhalf
  exact ⟨hlargest, hhalf, hsums.1, by decide +kernel, by decide +kernel⟩

end Number
end Storyboard
