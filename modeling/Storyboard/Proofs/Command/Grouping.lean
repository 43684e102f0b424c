import Mathlib
import Storyboard.Proofs.Command.Forms

/-!
# Groups of arguments

The arguments behind the times are looked at for one value or for two.  What is found is what the
form of a value says, and nothing is found only where nothing is meant.  The search itself fails in
one case: as many components as a color needs are there, and one of them is next to no integer.
-/

namespace Storyboard

/-! ## Channels -/

theorem Color.ofNumbers_eq_ok {x y z : Number} {red green blue : Int}
    (hred : x.roundToInt = .ok red) (hgreen : y.roundToInt = .ok green)
    (hblue : z.roundToInt = .ok blue) : ofNumbers x y z = .ok (ofInts red green blue) := by
  simp only [ofNumbers, hred, hgreen, hblue]
  rfl

theorem Color.ofNumbers_cases (x y z : Number) :
    (∃ red green blue, x.roundToInt = .ok red ∧ y.roundToInt = .ok green ∧
      z.roundToInt = .ok blue) ∨
    ∃ n ∈ [x, y, z], ∃ failure, n.OffScale failure ∧ ofNumbers x y z = .error failure := by
  cases hred : x.roundToInt with
  | error failure =>
      apply Or.inr
      refine ⟨x, by simp, failure, x.offScale_of_roundToInt hred, ?_⟩
      simp only [ofNumbers, hred]
      rfl
  | ok red =>
      cases hgreen : y.roundToInt with
      | error failure =>
          apply Or.inr
          refine ⟨y, by simp, failure, y.offScale_of_roundToInt hgreen, ?_⟩
          simp only [ofNumbers, hred, hgreen]
          rfl
      | ok green =>
          cases hblue : z.roundToInt with
          | error failure =>
              apply Or.inr
              refine ⟨z, by simp, failure, z.offScale_of_roundToInt hblue, ?_⟩
              simp only [ofNumbers, hred, hgreen, hblue]
              rfl
          | ok blue => exact Or.inl ⟨red, green, blue, rfl, rfl, rfl⟩

/-! ## Components -/

namespace Argument

theorem forall₂_of_map_component? {parts : List Argument} {numbers : List Number}
    (h : parts.map component? = numbers.map some) : List.Forall₂ IsComponent parts numbers := by
  induction parts generalizing numbers with
  | nil =>
      cases numbers with
      | nil => exact .nil
      | cons n rest => cases h
  | cons a parts ih =>
      cases numbers with
      | nil => cases h
      | cons n numbers =>
          rw [List.map_cons, List.map_cons, List.cons.injEq] at h
          exact .cons (component?_eq_some_iff.mp h.1) (ih h.2)

theorem exists_forall₂_of_all {parts : List Argument}
    (h : parts.all (·.component?.isSome) = true) :
    ∃ numbers, List.Forall₂ IsComponent parts numbers := by
  induction parts with
  | nil => exact ⟨[], .nil⟩
  | cons a parts ih =>
      rw [List.all_cons, Bool.and_eq_true, Option.isSome_iff_exists] at h
      obtain ⟨⟨n, hn⟩, hparts⟩ := h
      obtain ⟨numbers, hnumbers⟩ := ih hparts
      exact ⟨n :: numbers, .cons (component?_eq_some_iff.mp hn) hnumbers⟩

end Argument

namespace Command

/-- Arguments that are as many components as given, one of which lies next to no integer. -/
def Channels (count : Nat) (parts : List Argument) (failure : Binary.Failure) : Prop :=
  ∃ numbers, List.Forall₂ Argument.IsComponent parts numbers ∧ numbers.length = count ∧
    ∃ n ∈ numbers, n.OffScale failure

theorem Channels.append_right {m n : Nat} {front rest : List Argument} {numbers : List Number}
    {failure : Binary.Failure} (h : Channels m front failure)
    (hrest : List.Forall₂ Argument.IsComponent rest numbers) (hlength : rest.length = n) :
    Channels (m + n) (front ++ rest) failure := by
  obtain ⟨channels, hfront, hm, x, hx, hscale⟩ := h
  refine ⟨channels ++ numbers, List.rel_append hfront hrest, ?_, x, ?_, hscale⟩
  · rw [List.length_append, hm, ← hrest.length_eq, hlength]
  · exact List.mem_append_left numbers hx

theorem Channels.append_left {m n : Nat} {front rest : List Argument} {numbers : List Number}
    {failure : Binary.Failure} (h : Channels n rest failure)
    (hfront : List.Forall₂ Argument.IsComponent front numbers) (hlength : front.length = m) :
    Channels (m + n) (front ++ rest) failure := by
  obtain ⟨channels, hrest, hn, x, hx, hscale⟩ := h
  refine ⟨numbers ++ channels, List.rel_append hfront hrest, ?_, x, ?_, hscale⟩
  · rw [List.length_append, hn, ← hfront.length_eq, hlength]
  · exact List.mem_append_right numbers hx

section Groups

variable {kind : Kind} {a : Argument} {parts : List Argument} {v w : Value}

/-! ## One value -/

theorem wholeValue?_eq_some_iff : wholeValue? kind a = some v ↔ Whole kind a v := by
  constructor
  · intro h
    unfold wholeValue? at h
    split at h
    · cases h
      exact .scalar _ _
    · cases h
      exact .vector _ _
    · cases h
      exact .color _
    · cases h
  · intro h
    cases h with
    | scalar property n => rfl
    | vector property v => rfl
    | color c => rfl

theorem ofComponents_of_spelled (h : Spelled kind parts v) :
    ofComponents kind parts = .ok (some v) := by
  cases h with
  | scalar ha =>
      simp only [ofComponents, List.map_cons, List.map_nil, Argument.component?_eq_some_iff.mpr ha]
  | vector ha hb =>
      simp only [ofComponents, List.map_cons, List.map_nil, Argument.component?_eq_some_iff.mpr ha,
        Argument.component?_eq_some_iff.mpr hb]
  | color ha hb hc hred hgreen hblue =>
      simp only [ofComponents, List.map_cons, List.map_nil, Argument.component?_eq_some_iff.mpr ha,
        Argument.component?_eq_some_iff.mpr hb, Argument.component?_eq_some_iff.mpr hc,
        Color.ofNumbers_eq_ok hred hgreen hblue]
      rfl

/-- What a group of arguments is found to be: a value, nothing, or components that fail. -/
inductive Outcome {α : Type} (IsValue : α → Prop) (kind : Kind) (count : Nat)
    (parts : List Argument) : Except Error (Option α) → Prop where
  | value {a : α} (h : IsValue a) : Outcome IsValue kind count parts (.ok (some a))
  | nothing : Outcome IsValue kind count parts (.ok none)
  | failure {failure : Binary.Failure} (hkind : kind = .color) (h : Channels count parts failure) :
      Outcome IsValue kind count parts (.error (.arithmetic failure))

theorem Outcome.imp {α : Type} {P Q : α → Prop} {count : Nat} {result : Except Error (Option α)}
    (himp : ∀ a, P a → Q a) (h : Outcome P kind count parts result) :
    Outcome Q kind count parts result := by
  cases h with
  | value h => exact .value (himp _ h)
  | nothing => exact .nothing
  | failure hkind h => exact .failure hkind h

theorem ofComponents_outcome (kind : Kind) (parts : List Argument) :
    Outcome (Spelled kind parts) kind 3 parts (ofComponents kind parts) := by
  unfold ofComponents
  split
  next property n hparts =>
    have hcomponents : List.Forall₂ Argument.IsComponent parts [n] :=
      Argument.forall₂_of_map_component? hparts
    cases hcomponents with
    | cons ha h =>
        cases h
        exact .value (.scalar ha)
  next property x y hparts =>
    have hcomponents : List.Forall₂ Argument.IsComponent parts [x, y] :=
      Argument.forall₂_of_map_component? hparts
    cases hcomponents with
    | cons ha h =>
        cases h with
        | cons hb h =>
            cases h
            exact .value (.vector ha hb)
  next x y z hparts =>
    have hcomponents : List.Forall₂ Argument.IsComponent parts [x, y, z] :=
      Argument.forall₂_of_map_component? hparts
    cases Color.ofNumbers_cases x y z with
    | inl hchannels =>
        obtain ⟨red, green, blue, hred, hgreen, hblue⟩ := hchannels
        rw [Color.ofNumbers_eq_ok hred hgreen hblue]
        cases hcomponents with
        | cons ha h =>
            cases h with
            | cons hb h =>
                cases h with
                | cons hc h =>
                    cases h
                    exact .value (.color ha hb hc hred hgreen hblue)
    | inr hchannels =>
        obtain ⟨n, hn, failure, hscale, hfailure⟩ := hchannels
        rw [hfailure]
        exact .failure rfl ⟨[x, y, z], hcomponents, rfl, n, hn, hscale⟩
  next => exact .nothing

theorem valueOf_of_group (h : Group kind parts v) : valueOf kind parts = .ok (some v) := by
  cases h with
  | whole h => simp only [valueOf, wholeValue?_eq_some_iff.mpr h]
  | spelled h =>
      have hcomponents := ofComponents_of_spelled h
      cases h with
      | scalar ha =>
          -- A number may also be taken as a whole, which comes to the same.
          cases ha with
          | int n => exact hcomponents
          | float x => exact hcomponents
          | number n => rfl
      | vector ha hb => exact hcomponents
      | color ha hb hc hred hgreen hblue => exact hcomponents

theorem valueOf_outcome (kind : Kind) (parts : List Argument) :
    Outcome (Group kind parts) kind 3 parts (valueOf kind parts) := by
  have hcomponents : Outcome (Group kind parts) kind 3 parts (ofComponents kind parts) :=
    (ofComponents_outcome kind parts).imp fun _ h => .spelled h
  unfold valueOf
  split
  next a =>
    split
    next v hv => exact .value (.whole (wholeValue?_eq_some_iff.mp hv))
    next => exact hcomponents
  next => exact hcomponents

/-! ## Two values -/

theorem Spelled.length_eq (h : Spelled kind parts v) : parts.length = kind.arity := by
  cases h with
  | scalar ha => rfl
  | vector ha hb => rfl
  | color ha hb hc hred hgreen hblue => rfl

theorem Spelled.all_components (h : Spelled kind parts v) :
    parts.all (·.component?.isSome) = true := by
  cases h with
  | scalar ha => simp [Argument.component?_eq_some_iff.mpr ha]
  | vector ha hb =>
      simp [Argument.component?_eq_some_iff.mpr ha, Argument.component?_eq_some_iff.mpr hb]
  | color ha hb hc hred hgreen hblue =>
      simp [Argument.component?_eq_some_iff.mpr ha, Argument.component?_eq_some_iff.mpr hb,
        Argument.component?_eq_some_iff.mpr hc]

theorem valuesOf_wholes {a b : Argument} (ha : wholeValue? kind a = some v)
    (hb : wholeValue? kind b = some w) : valuesOf kind [a, b] = .ok (some (v, w)) := by
  simp only [valuesOf, ha, hb]
  rfl

/-- The values that arguments spell out one after the other. -/
def twoOfComponents (kind : Kind) (parts : List Argument) :
    Except Error (Option (Value × Value)) := do
  if parts.length = 2 * kind.arity ∧ parts.all (·.component?.isSome) then
    let first ← ofComponents kind (parts.take kind.arity)
    let last ← ofComponents kind (parts.drop kind.arity)
    return first.bind fun v => last.map fun w => (v, w)
  return none

theorem valuesOf_cases (kind : Kind) (parts : List Argument) :
    (∃ a b v w, parts = [a, b] ∧ wholeValue? kind a = some v ∧ wholeValue? kind b = some w) ∨
    valuesOf kind parts = twoOfComponents kind parts := by
  unfold valuesOf twoOfComponents
  dsimp only
  split
  next a b =>
    split
    next v w h => exact Or.inl ⟨a, b, v, w, rfl, congrArg Prod.fst h, congrArg Prod.snd h⟩
    next => exact Or.inr rfl
  next => exact Or.inr rfl

theorem twoOfComponents_of_spelled {front rest : List Argument} (hfront : Spelled kind front v)
    (hrest : Spelled kind rest w) : twoOfComponents kind (front ++ rest) = .ok (some (v, w)) := by
  have hcount : (front ++ rest).length = 2 * kind.arity := by
    rw [List.length_append, hfront.length_eq, hrest.length_eq, Nat.two_mul]
  have hall : (front ++ rest).all (·.component?.isSome) = true := by
    rw [List.all_append, hfront.all_components, hrest.all_components, Bool.and_self]
  have htake : (front ++ rest).take kind.arity = front := List.take_left' hfront.length_eq
  have hdrop : (front ++ rest).drop kind.arity = rest := List.drop_left' hfront.length_eq
  rw [twoOfComponents, if_pos ⟨hcount, hall⟩, htake, hdrop, ofComponents_of_spelled hfront,
    ofComponents_of_spelled hrest]
  rfl

theorem Whole.eq_of_spelled (h : Whole kind a v) (h' : Spelled kind [a] w) : v = w := by
  cases h with
  | scalar property n =>
      cases h' with
      | scalar ha =>
          cases ha
          rfl
  | vector property v => cases h'
  | color c => cases h'

theorem valuesOf_of_pair (h : Pair kind parts (some v) (some w)) :
    valuesOf kind parts = .ok (some (v, w)) := by
  cases h with
  | wholes ha hb =>
      exact valuesOf_wholes (wholeValue?_eq_some_iff.mpr ha) (wholeValue?_eq_some_iff.mpr hb)
  | spelled hfront hrest =>
      rename_i front rest
      cases valuesOf_cases kind (front ++ rest) with
      | inr heq => rw [heq, twoOfComponents_of_spelled hfront hrest]
      | inl h =>
          obtain ⟨a, b, v', w', hparts, ha, hb⟩ := h
          have hlength : front.length + rest.length = 2 := by
            rw [← List.length_append, hparts]
            rfl
          have hone : front.length = 1 := by
            have hfrontLength := hfront.length_eq
            have hrestLength := hrest.length_eq
            omega
          obtain ⟨c, rfl⟩ := List.length_eq_one_iff.mp hone
          obtain ⟨rfl, rfl⟩ : c = a ∧ rest = [b] := by simpa using hparts
          rw [List.singleton_append, valuesOf_wholes ha hb,
            (wholeValue?_eq_some_iff.mp ha).eq_of_spelled hfront,
            (wholeValue?_eq_some_iff.mp hb).eq_of_spelled hrest]

/-- Arguments that are two values, one after the other. -/
def IsPair (kind : Kind) (parts : List Argument) (values : Value × Value) : Prop :=
  Pair kind parts (some values.1) (some values.2)

theorem twoOfComponents_outcome (kind : Kind) (parts : List Argument) :
    Outcome (IsPair kind parts) kind 6 parts (twoOfComponents kind parts) := by
  unfold twoOfComponents
  split
  next h =>
    have hsplit : parts.take kind.arity ++ parts.drop kind.arity = parts :=
      List.take_append_drop kind.arity parts
    have hall := h.2
    rw [← hsplit, List.all_append, Bool.and_eq_true] at hall
    obtain ⟨firsts, hfirsts⟩ := Argument.exists_forall₂_of_all hall.1
    obtain ⟨lasts, hlasts⟩ := Argument.exists_forall₂_of_all hall.2
    have hleft : kind = .color → ∀ failure, Channels 3 (parts.take kind.arity) failure →
        Channels (3 + 3) parts failure := by
      intro hkind failure hchannels
      have hrest : (parts.drop kind.arity).length = 3 := by
        rw [List.length_drop, h.1, hkind]
        rfl
      exact hsplit ▸ hchannels.append_right hlasts hrest
    have hright : kind = .color → ∀ failure, Channels 3 (parts.drop kind.arity) failure →
        Channels (3 + 3) parts failure := by
      intro hkind failure hchannels
      have hfront : (parts.take kind.arity).length = 3 := by
        rw [List.length_take, h.1, hkind]
        rfl
      exact hsplit ▸ hchannels.append_left hfirsts hfront
    have hfirst := ofComponents_outcome kind (parts.take kind.arity)
    have hlast := ofComponents_outcome kind (parts.drop kind.arity)
    revert hfirst hlast
    generalize ofComponents kind (parts.take kind.arity) = first
    generalize ofComponents kind (parts.drop kind.arity) = last
    intro hfirst hlast
    cases hfirst with
    | failure hkind hchannels => exact .failure hkind (hleft hkind _ hchannels)
    | nothing =>
        cases hlast with
        | value hw => exact .nothing
        | nothing => exact .nothing
        | failure hkind hchannels => exact .failure hkind (hright hkind _ hchannels)
    | value hv =>
        cases hlast with
        | value hw =>
            have hpair := Pair.spelled hv hw
            rw [hsplit] at hpair
            exact .value hpair
        | nothing => exact .nothing
        | failure hkind hchannels => exact .failure hkind (hright hkind _ hchannels)
  next => exact .nothing

theorem valuesOf_outcome (kind : Kind) (parts : List Argument) :
    Outcome (IsPair kind parts) kind 6 parts (valuesOf kind parts) := by
  cases valuesOf_cases kind parts with
  | inr heq =>
      rw [heq]
      exact twoOfComponents_outcome kind parts
  | inl h =>
      obtain ⟨a, b, v, w, rfl, ha, hb⟩ := h
      rw [valuesOf_wholes ha hb]
      exact .value (.wholes (wholeValue?_eq_some_iff.mp ha) (wholeValue?_eq_some_iff.mp hb))

end Groups

end Command
end Storyboard
