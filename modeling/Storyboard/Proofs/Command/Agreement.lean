import Mathlib
import Storyboard.Command.Sampling
import Storyboard.Proofs.Command.Line

/-!
# The values of commands with one line

Two commands with one line may hold different numbers, since an integer and a single-precision
number may be written alike.  As long as numbers that are written alike have the same value, the
commands have the same value at every time, or fail there for the same reason.
-/

namespace Storyboard

/-! ## Outcomes -/

/-- Two computations fail for the same reason, or have related results. -/
inductive SameOutcome {ε α : Type} (R : α → α → Prop) : Except ε α → Except ε α → Prop where
  | failed (e : ε) : SameOutcome R (.error e) (.error e)
  | done {a b : α} (h : R a b) : SameOutcome R (.ok a) (.ok b)

namespace SameOutcome

variable {ε α β : Type} {R : α → α → Prop} {S : β → β → Prop}

theorem of_eq {x y : Except ε α} (hR : ∀ a, R a a) (h : x = y) : SameOutcome R x y := by
  rw [h]
  cases y with
  | error e => exact .failed e
  | ok a => exact .done (hR a)

theorem bind {x y : Except ε α} {f g : α → Except ε β} (h : SameOutcome R x y)
    (hnext : ∀ a b, R a b → SameOutcome S (f a) (g b)) : SameOutcome S (x >>= f) (y >>= g) := by
  cases h with
  | failed e => exact .failed e
  | done hab => exact hnext _ _ hab

theorem eq {x y : Except ε α} (h : SameOutcome (· = ·) x y) : x = y := by
  cases h with
  | failed e => rfl
  | done hab => rw [hab]

theorem map_eq {x y : Except ε (Option α)} {f : α → β} (hf : ∀ a b, R a b → f a = f b)
    (h : SameOutcome (Option.Rel R) x y) : x.map (Option.map f) = y.map (Option.map f) := by
  cases h with
  | failed e => rfl
  | done hab =>
      cases hab with
      | none => rfl
      | some hab => exact congrArg (fun v => Except.ok (some v)) (hf _ _ hab)

end SameOutcome

/-! ## Numbers -/

namespace Number

/-- The numbers are one, or have the same value in double precision. -/
def SameValue (m n : Number) : Prop :=
  m = n ∨ ∃ x, m.toDouble = .ok x ∧ n.toDouble = .ok x

theorem SameValue.refl (n : Number) : n.SameValue n :=
  Or.inl rfl

theorem SameValue.toDouble_eq {m n : Number} (h : m.SameValue n) : m.toDouble = n.toDouble := by
  rcases h with rfl | ⟨x, hm, hn⟩
  · rfl
  · rw [hm, hn]

theorem sameValue_iff (m n : Number) :
    m.SameValue n ↔ m = n ∨ m.toDouble.isOk ∧ m.toDouble = n.toDouble := by
  constructor
  · rintro (heq | ⟨x, hm, hn⟩)
    · exact Or.inl heq
    · rw [hm, hn]
      exact Or.inr ⟨rfl, rfl⟩
  · rintro (heq | ⟨hok, heq⟩)
    · exact Or.inl heq
    · cases hm : m.toDouble with
      | error e =>
          rw [hm] at hok
          cases hok
      | ok x => exact Or.inr ⟨x, hm, heq ▸ hm⟩

instance (m n : Number) : Decidable (m.SameValue n) :=
  decidable_of_iff _ (sameValue_iff m n).symm

/-- Of two lists, numbers that are written alike have the same value. -/
def ReadAlike (ms ns : List Number) : Prop :=
  ∀ m ∈ ms, ∀ n ∈ ns, m.text = n.text → m.SameValue n

instance (ms ns : List Number) : Decidable (ReadAlike ms ns) :=
  inferInstanceAs (Decidable (∀ m ∈ ms, ∀ n ∈ ns, _ → _))

end Number

structure Vec2.SameValue (v w : Vec2) : Prop where
  x : v.x.SameValue w.x
  y : v.y.SameValue w.y

theorem Vec2.SameValue.refl (v : Vec2) : v.SameValue v :=
  ⟨.refl v.x, .refl v.y⟩

/-! ## Actions and moments -/

/-- The actions go through related values; a second value that is never taken does not matter. -/
inductive Action.Related {α : Type} (R : α → α → Prop) : Action α → Action α → Prop where
  | hold {value value' : α} (spare spare' : Option α) (h : R value value') :
      Related R (.hold value spare) (.hold value' spare')
  | change {first first' last last' : α} (finish : Int) (hfirst : R first first')
      (hlast : R last last') : Related R (.change finish first last) (.change finish first' last')

/-- The moments are at related values, or as far between related values. -/
inductive Moment.Related {α : Type} (R : α → α → Prop) : Moment α → Moment α → Prop where
  | still {value value' : α} (h : R value value') : Related R (.at value) (.at value')
  | moving {first first' last last' : α} (progress : Double) (hfirst : R first first')
      (hlast : R last last') :
      Related R (.between first last progress) (.between first' last' progress)

section Action

variable {α : Type} {R : α → α → Prop}

theorem Action.Related.moment {a b : Action α} (h : a.Related R b) {easing easing' : Easing}
    (heasing : a.finish? ≠ none → easing = easing') (start time : Int) :
    SameOutcome (Moment.Related R) (a.moment start easing time) (b.moment start easing' time) := by
  cases h with
  | hold spare spare' hvalue => exact .done (.still hvalue)
  | change finish hfirst hlast =>
      rw [← heasing (by simp [finish?])]
      unfold Action.moment
      by_cases hreversed : finish ≤ start
      · simp only [if_pos hreversed]
        by_cases hstarted : start ≤ time
        · simp only [if_pos hstarted]
          exact .done (.still hlast)
        · simp only [if_neg hstarted]
          exact .done (.still hfirst)
      · simp only [if_neg hreversed]
        by_cases hbefore : time ≤ start
        · simp only [if_pos hbefore]
          exact .done (.still hfirst)
        · simp only [if_neg hbefore]
          by_cases hafter : finish ≤ time
          · simp only [if_pos hafter]
            exact .done (.still hlast)
          · simp only [if_neg hafter]
            refine (SameOutcome.of_eq (fun _ => rfl) rfl).bind ?_
            rintro progress _ rfl
            exact .done (.moving progress hfirst hlast)

theorem Action.Related.of_fields {a b : Action α} {shown : α → List String}
    (hlength : ∀ v w, (shown v).length = (shown w).length) (hfinish : a.finish? = b.finish?)
    (hfields : a.written.flatMap shown = b.written.flatMap shown)
    (hR : ∀ v ∈ a.written, ∀ w ∈ b.written, shown v = shown w → R v w) : a.Related R b := by
  cases a with
  | hold value spare =>
      cases b with
      | hold value' spare' =>
          have hvalue : shown value = shown value' := by simpa [written] using hfields
          exact .hold spare spare' (hR value (by simp [written]) value' (by simp [written]) hvalue)
      | change finish' first' last' => cases hfinish
  | change finish first last =>
      cases b with
      | hold value' spare' => cases hfinish
      | change finish' first' last' =>
          have hboth : shown first ++ shown last = shown first' ++ shown last' := by
            simpa [written] using hfields
          obtain ⟨hfirst, hlast⟩ := List.append_inj hboth (hlength first first')
          rw [Option.some.inj hfinish]
          apply Action.Related.change
          · exact hR first (by simp [written]) first' (by simp [written]) hfirst
          · exact hR last (by simp [written]) last' (by simp [written]) hlast

end Action

/-! ## Samples -/

/-- The levels were given as numbers of one value, or are the same on the way. -/
inductive Level.SameValue : Level → Level → Prop where
  | number {m n : Number} (h : m.SameValue n) : SameValue (.number m) (.number n)
  | double (x : Double) : SameValue (.double x) (.double x)

/-- The samples have one shape and the same value. -/
inductive Sample.SameValue : Sample → Sample → Prop where
  | level {l l' : Level} (h : l.SameValue l') : SameValue (.level l) (.level l')
  | vec2 {v v' : Vec2} (h : v.SameValue v') : SameValue (.vec2 v) (.vec2 v')
  | color (c : Color) : SameValue (.color c) (.color c)

theorem Level.SameValue.toDouble_eq {l l' : Level} (h : l.SameValue l') :
    l.toDouble = l'.toDouble := by
  cases h with
  | number h => exact h.toDouble_eq
  | double x => rfl

theorem Level.SameValue.toNumber {l l' : Level} (h : l.SameValue l') :
    l.toNumber.SameValue l'.toNumber := by
  cases h with
  | number h => exact h
  | double x => exact .refl _

section Rel

variable {α : Type} {R : α → α → Prop}

theorem Sample.SameValue.rel_bind {f : Sample → Option α} {a b : Option Sample}
    (hf : ∀ a b : Sample, a.SameValue b → Option.Rel R (f a) (f b))
    (h : Option.Rel Sample.SameValue a b) : Option.Rel R (a.bind f) (b.bind f) := by
  cases h with
  | none => exact .none
  | some hab => exact hf _ _ hab

theorem rel_getD {a b : Option α} {c d : α} (h : Option.Rel R a b) (hdefault : R c d) :
    R (a.getD c) (b.getD d) := by
  cases h with
  | none => exact hdefault
  | some hab => exact hab

end Rel

namespace Sample

theorem SameValue.level? {a b : Sample} (h : a.SameValue b) :
    Option.Rel Level.SameValue a.level? b.level? := by
  cases h with
  | level h => exact .some h
  | vec2 h => exact .none
  | color c => exact .none

theorem SameValue.vec2? {a b : Sample} (h : a.SameValue b) :
    Option.Rel Vec2.SameValue a.vec2? b.vec2? := by
  cases h with
  | level h => exact .none
  | vec2 h => exact .some h
  | color c => exact .none

theorem SameValue.color?_eq {a b : Sample} (h : a.SameValue b) : a.color? = b.color? := by
  cases h with
  | level h => rfl
  | vec2 h => rfl
  | color c => rfl

end Sample

theorem Level.sameOutcome_ofMoment {m m' : Moment Number} (h : m.Related Number.SameValue m') :
    SameOutcome Level.SameValue (ofMoment m) (ofMoment m') := by
  cases h with
  | still h => exact .done (.number h)
  | moving progress hfirst hlast =>
      simp only [ofMoment, hfirst.toDouble_eq, hlast.toDouble_eq]
      refine (SameOutcome.of_eq (fun _ => rfl) rfl).bind ?_
      rintro a _ rfl
      refine (SameOutcome.of_eq (fun _ => rfl) rfl).bind ?_
      rintro b _ rfl
      exact .done (.double _)

theorem Vec2.sameOutcome_ofMoment {m m' : Moment Vec2} (h : m.Related Vec2.SameValue m') :
    SameOutcome Vec2.SameValue (ofMoment m) (ofMoment m') := by
  cases h with
  | still h => exact .done h
  | moving progress hfirst hlast =>
      simp only [ofMoment, hfirst.x.toDouble_eq, hfirst.y.toDouble_eq, hlast.x.toDouble_eq,
        hlast.y.toDouble_eq]
      exact .of_eq Vec2.SameValue.refl rfl

theorem Color.ofMoment_congr {m m' : Moment Color} (h : m.Related (· = ·) m') :
    ofMoment m = ofMoment m' := by
  cases h with
  | still h => rw [h]
  | moving progress hfirst hlast => rw [hfirst, hlast]

/-! ## Commands -/

/-- The effects are on one property and go through values that are the same. -/
inductive Effect.Related : Effect → Effect → Prop where
  | scalar (property : ScalarProperty) {a b : Action Number} (h : a.Related Number.SameValue b) :
      Related (.scalar property a) (.scalar property b)
  | vector (property : VectorProperty) {a b : Action Vec2} (h : a.Related Vec2.SameValue b) :
      Related (.vector property a) (.vector property b)
  | color {a b : Action Color} (h : a.Related (· = ·) b) : Related (.color a) (.color b)
  | flag (switch : Flag) (finish : Int) : Related (.flag switch finish) (.flag switch finish)

namespace Command

/-- The numbers that a line writes for the values. -/
def numbers (c : Command) : List Number :=
  match c.effect with
  | .scalar _ action => action.written
  | .vector _ action => action.written.flatMap fun v => [v.x, v.y]
  | .color _ => []
  | .flag _ _ => []

theorem colorFields_injective {c d : Color} (h : colorFields c = colorFields d) : c = d := by
  simp only [colorFields, Color.channels, List.map_cons, List.map_nil, List.cons.injEq] at h
  obtain ⟨hred, hgreen, hblue, -⟩ := h
  cases c
  cases d
  congr
  · exact Fin.ext (Text.toString_nat_injective hred)
  · exact Fin.ext (Text.toString_nat_injective hgreen)
  · exact Fin.ext (Text.toString_nat_injective hblue)

theorem related_scalar {property : ScalarProperty} {a b : Action Number}
    (hfinish : a.finish? = b.finish?)
    (hvalues : a.written.map Number.text = b.written.map Number.text)
    (hread : Number.ReadAlike a.written b.written) :
    (Effect.scalar property a).Related (.scalar property b) := by
  rw [List.map_eq_flatMap, List.map_eq_flatMap] at hvalues
  refine .scalar property (.of_fields (fun _ _ => rfl) hfinish hvalues ?_)
  intro m hm n hn htext
  exact hread m hm n hn (List.singleton_inj.mp htext)

theorem related_vector {property : VectorProperty} {a b : Action Vec2}
    (hfinish : a.finish? = b.finish?)
    (hvalues : a.written.flatMap vectorFields = b.written.flatMap vectorFields)
    (hread : Number.ReadAlike (a.written.flatMap fun v => [v.x, v.y])
      (b.written.flatMap fun v => [v.x, v.y])) :
    (Effect.vector property a).Related (.vector property b) := by
  refine .vector property (.of_fields (fun _ _ => rfl) hfinish hvalues ?_)
  intro v hv w hw htexts
  simp only [vectorFields, List.cons.injEq, and_true] at htexts
  constructor
  · exact hread v.x (List.mem_flatMap.mpr ⟨v, hv, by simp⟩) w.x
      (List.mem_flatMap.mpr ⟨w, hw, by simp⟩) htexts.1
  · exact hread v.y (List.mem_flatMap.mpr ⟨v, hv, by simp⟩) w.y
      (List.mem_flatMap.mpr ⟨w, hw, by simp⟩) htexts.2

theorem related_color {a b : Action Color} (hfinish : a.finish? = b.finish?)
    (hvalues : a.written.flatMap colorFields = b.written.flatMap colorFields) :
    (Effect.color a).Related (.color b) := by
  refine .color (.of_fields (fun _ _ => rfl) hfinish hvalues ?_)
  intro v _ w _ hchannels
  exact colorFields_injective hchannels

theorem Alike.related {c c' : Command} (h : c.Alike c')
    (hread : Number.ReadAlike c.numbers c'.numbers) : c.effect.Related c'.effect := by
  have hkind : c.effect.kind = c'.effect.kind := h.kind
  have hfinish := h.finish
  have hvalues := h.values
  unfold numbers at hread
  unfold valueFields at hvalues
  generalize c.effect = effect at *
  generalize c'.effect = effect' at *
  -- Effects of different shapes are of different kinds.
  cases effect with
  | scalar property a =>
      cases effect' with
      | scalar property' b =>
          cases hkind
          exact related_scalar hfinish hvalues hread
      | vector property' b => cases hkind
      | color b => cases hkind
      | flag switch finish => cases hkind
  | vector property a =>
      cases effect' with
      | scalar property' b => cases hkind
      | vector property' b =>
          cases hkind
          exact related_vector hfinish hvalues hread
      | color b => cases hkind
      | flag switch finish => cases hkind
  | color a =>
      cases effect' with
      | scalar property' b => cases hkind
      | vector property' b => cases hkind
      | color b => exact related_color hfinish hvalues
      | flag switch finish => cases hkind
  | flag switch finish =>
      cases effect' with
      | scalar property' b => cases hkind
      | vector property' b => cases hkind
      | color b => cases hkind
      | flag switch' finish' =>
          cases hkind
          cases hfinish
          exact .flag switch finish

theorem Alike.sample {c c' : Command} (h : c.Alike c')
    (hread : Number.ReadAlike c.numbers c'.numbers) (time : Int) :
    SameOutcome (Option.Rel Sample.SameValue) (c.sample time) (c'.sample time) := by
  have hrelated := h.related hread
  have heasing := h.easing
  unfold Command.sample
  rw [← h.start]
  generalize c.effect = effect at *
  generalize c'.effect = effect' at *
  cases hrelated with
  | scalar property haction =>
      refine (haction.moment heasing c.start time).bind fun m m' hmoment => ?_
      refine (Level.sameOutcome_ofMoment hmoment).bind fun l l' hlevel => ?_
      exact .done (.some (.level hlevel))
  | vector property haction =>
      refine (haction.moment heasing c.start time).bind fun m m' hmoment => ?_
      refine (Vec2.sameOutcome_ofMoment hmoment).bind fun v v' hvector => ?_
      exact .done (.some (.vec2 hvector))
  | color haction =>
      refine (haction.moment heasing c.start time).bind fun m m' hmoment => ?_
      refine (SameOutcome.of_eq (fun _ => rfl) (Color.ofMoment_congr hmoment)).bind ?_
      rintro color _ rfl
      exact .done (.some (.color color))
  | flag switch finish => exact .done .none

end Command
end Storyboard
