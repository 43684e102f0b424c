import Mathlib
import Storyboard.Argument.Reading
import Storyboard.Proofs.Binary.Order
import Storyboard.Proofs.Command.Forms
import Storyboard.Proofs.Failing

/-!
# Channels in single precision

A color that is built from components takes each channel as it is, while the components of a command
are brought to single precision before they are rounded.  Single precision never crosses a half
between two channels, but it may land on one, which is then rounded to the even neighbour.  So the
channel changes exactly where the component lands on a half from the side of the odd neighbour, and
there is none any more where it becomes infinite.
-/

namespace Storyboard

open Binary

/-! ## Channels and halves -/

theorem Color.channel_le_iff (m : Int) {k : Nat} (hk : k < 255) :
    (channel m : Nat) ≤ k ↔ m ≤ k := by
  simp only [channel]
  omega

theorem Color.channel_eq_iff (m n : Int) :
    channel m = channel n ↔ ∀ k : Nat, k < 255 → (m ≤ k ↔ n ≤ k) := by
  constructor
  · intro h k hk
    rw [← channel_le_iff m hk, ← channel_le_iff n hk, h]
  · intro h
    have hle : ∀ m n : Int, (∀ k : Nat, k < 255 → (m ≤ k ↔ n ≤ k)) → channel m ≤ channel n := by
      intro m n h
      by_contra hlt
      have hchannel : (channel n : Nat) < channel m := Fin.lt_def.mp (not_le.mp hlt)
      have hrange : (channel n : Nat) < 255 := by omega
      have hn : n ≤ (channel n : Nat) := (channel_le_iff n hrange).mp le_rfl
      have hm : (channel m : Nat) ≤ channel n := (channel_le_iff m hrange).mpr ((h _ hrange).mpr hn)
      omega
    exact le_antisymm (hle m n h) (hle n m fun k hk => (h k hk).symm)

/-- Single precision holds the half after every channel. -/
theorem exists_half {k : Nat} (hk : k < 255) :
    ∃ y : Single, y.isFinite ∧ y.value = (k : ℚ) + 1 / 2 := by
  have hhalves : ∀ k : Fin 255,
      (round .single ((k : ℚ) + 1 / 2) false).isFinite = true ∧
        (round .single ((k : ℚ) + 1 / 2) false).value = (k : ℚ) + 1 / 2 := by
    decide +kernel
  exact ⟨_, hhalves ⟨k, hk⟩⟩

/-! ## Reading channels -/

namespace Argument

theorem toChannel_float {x : Double} {n : Int} (h : x.roundToInt = .ok n) :
    (Argument.float x).toChannel = .ok n := by
  simp only [toChannel, h]
  rfl

theorem toColor_eq_ok_iff {a b c : Argument} {color : Color} :
    toColor a b c = .ok color ↔
      ∃ red green blue, a.toChannel = .ok red ∧ b.toChannel = .ok green ∧ c.toChannel = .ok blue ∧
        color = .ofInts red green blue := by
  constructor
  · intro h
    obtain ⟨red, hred, h⟩ := exists_of_bind_eq_ok h
    obtain ⟨green, hgreen, h⟩ := exists_of_bind_eq_ok h
    obtain ⟨blue, hblue, h⟩ := exists_of_bind_eq_ok h
    cases h
    exact ⟨red, green, blue, hred, hgreen, hblue, rfl⟩
  · rintro ⟨red, green, blue, hred, hgreen, hblue, rfl⟩
    simp only [toColor, hred, hgreen, hblue, ok_bind]
    rfl

/-! ## Channels that stay -/

/-- A component gives the same channel with and without being brought to single precision. -/
def SameChannel (a : Argument) : Prop :=
  ∃ n wide narrow, a.IsComponent n ∧ a.toChannel = .ok wide ∧ n.roundToInt = .ok narrow ∧
    Color.channel wide = Color.channel narrow

/--
In single precision a component stays finite, and it does not land on a half from the side of the
odd neighbour.
-/
def KeepsChannel : Argument → Prop
  | .float x =>
      (x.convert .single).isFinite ∧
        ∀ k : Nat, k < 255 → (x.convert .single).value = (k : ℚ) + 1 / 2 →
          if k % 2 = 0 then x.value ≤ (k : ℚ) + 1 / 2 else (k : ℚ) + 1 / 2 ≤ x.value
  | _ => True

theorem sameChannel_float {x : Double} (hx : x.isFinite) :
    (Argument.float x).SameChannel ↔
      (x.convert .single).isFinite ∧
        Color.channel (nearestInt x.value) =
          Color.channel (nearestInt (x.convert .single).value) := by
  have hwide := toChannel_float (roundToInt_of_isFinite hx)
  constructor
  · rintro ⟨n, wide, narrow, hn, hwide', hnarrow, hchannel⟩
    cases hn
    cases hwide.symm.trans hwide'
    have hsingle : (x.convert .single).roundToInt = .ok narrow := hnarrow
    have hfinite := isFinite_of_roundToInt hsingle
    cases (roundToInt_of_isFinite hfinite).symm.trans hsingle
    exact ⟨hfinite, hchannel⟩
  · rintro ⟨hfinite, hchannel⟩
    exact ⟨.ofDouble x, _, _, .float x, hwide, roundToInt_of_isFinite hfinite, hchannel⟩

theorem sameChannel_float_iff {x : Double} (hx : x.isFinite) :
    (Argument.float x).SameChannel ↔ (Argument.float x).KeepsChannel := by
  rw [sameChannel_float hx, Color.channel_eq_iff]
  apply and_congr_right
  intro hfinite
  obtain ⟨zeroNegative, hround⟩ : ∃ zeroNegative,
      x.convert .single = round .single x.value zeroNegative := by
    obtain ⟨negative, significand, exponent, canonical, rfl⟩ := exists_of_isFinite hx
    exact ⟨negative, rfl⟩
  apply forall_congr'
  intro k
  apply forall_congr'
  intro hk
  obtain ⟨half, hhalf, hvalue⟩ := exists_half hk
  have hpos : 0 < half.value := by
    rw [hvalue]
    positivity
  -- From either side of the half, single precision stays on that side or ends on the half.
  have hbelow : x.value ≤ half.value → (x.convert .single).value ≤ half.value := by
    intro h
    rw [hround]
    exact round_value_le hhalf hpos h zeroNegative
  have habove : half.value ≤ x.value → half.value ≤ (x.convert .single).value := by
    intro h
    rw [hround] at hfinite ⊢
    exact le_round_value hhalf hpos h hfinite
  rw [nearestInt_le_iff, nearestInt_le_iff, ← hvalue]
  rcases lt_trichotomy (x.convert .single).value half.value with hlt | heq | hlt
  · have hx : x.value < half.value := not_le.mp (mt habove (not_le.mpr hlt))
    simp [hlt, hx, hlt.ne]
  · by_cases heven : k % 2 = 0
    · simp [heq, heven, le_iff_lt_or_eq]
    · simp [heq, heven]
  · have hx : half.value < x.value := not_le.mp (mt hbelow (not_le.mpr hlt))
    simp [hlt.not_gt, hx.not_gt, hlt.ne', hx.ne']

theorem sameChannel_iff {a : Argument} {n : Number} {wide : Int} (hn : a.IsComponent n)
    (hwide : a.toChannel = .ok wide) : a.SameChannel ↔ a.KeepsChannel := by
  cases hn with
  | int m =>
      constructor
      · intro _
        trivial
      · intro _
        exact ⟨.int m, m, m, .int m, rfl, rfl, rfl⟩
  | float x =>
      cases hx : x.roundToInt with
      | error failure =>
          simp only [toChannel, hx] at hwide
          cases hwide
      | ok m => exact sameChannel_float_iff (isFinite_of_roundToInt hx)
  | number m => cases hwide

theorem KeepsChannel.exists_narrow {a : Argument} {wide : Int} (h : a.KeepsChannel)
    (ha : ∃ n, a.IsComponent n) (hwide : a.toChannel = .ok wide) :
    ∃ n narrow, a.IsComponent n ∧ n.roundToInt = .ok narrow ∧
      Color.channel wide = Color.channel narrow := by
  obtain ⟨n, hn⟩ := ha
  obtain ⟨m, wide', narrow, hm, hwide', hnarrow, hchannel⟩ := (sameChannel_iff hn hwide).mpr h
  cases hwide.symm.trans hwide'
  exact ⟨m, narrow, hm, hnarrow, hchannel⟩

theorem keepsChannel_of_value_eq {x : Double} (hfinite : (x.convert .single).isFinite)
    (hvalue : (x.convert .single).value = x.value) : (Argument.float x).KeepsChannel := by
  constructor
  · exact hfinite
  · intro k hk hhalf
    rw [hvalue] at hhalf
    split
    · exact hhalf.le
    · exact hhalf.ge

end Argument
end Storyboard
