import Mathlib
import Storyboard.Proofs.Command.Grouping

/-!
# Which arguments make a command

Looking for a form comes to a command that is what the form says, to nothing, or to a refusal.  The
static form is looked for first.  It never takes a list that has the dynamic form, because the
second time is not part of a value, so the order of the search decides nothing.
-/

namespace Storyboard
namespace Command

/-! ## Refusals -/

/-- The reasons for which a list of arguments is refused. -/
inductive Refusal (kind : Kind) : List Argument → Error → Prop where
  | shape (args : List Argument) : Refusal kind args (.arguments kind (splitEasing args).2)
  | time {args : List Argument} {a : Argument} (hmem : a ∈ args) (ha : ∀ n, a ≠ .int n) :
      Refusal kind args (.time kind a)
  | channel {time : Argument} {parts : List Argument} {failure : Binary.Failure}
      (hkind : kind = .color) (h : Channels 3 parts failure) :
      Refusal kind (time :: parts) (.arithmetic failure)
  | channels {front parts : List Argument} {easing : Easing} {start finish : Argument}
      {failure : Binary.Failure} (hkind : kind = .color) (hfront : Front front easing)
      (h : Channels 6 parts failure) :
      Refusal kind (front ++ start :: finish :: parts) (.arithmetic failure)

/-- What looking for one of the forms comes to. -/
inductive Attempt (kind : Kind) (args : List Argument) : Except Error (Option Built) → Prop where
  | command {form : Form} {built : Built} (hform : Reads kind args form)
      (h : form.Describes kind built) : Attempt kind args (.ok (some built))
  | nothing : Attempt kind args (.ok none)
  | refused {e : Error} (h : Refusal kind args e) : Attempt kind args (.error e)

section Reading

variable {kind : Kind} {front parts rest : List Argument} {v w : Value} {first last : Option Value}

theorem readTime_cases (kind : Kind) (a : Argument) :
    (∃ n, a = .int n ∧ readTime kind a = .ok n) ∨
    (∀ n, a ≠ .int n) ∧ readTime kind a = .error (.time kind a) := by
  cases a with
  | int n => exact Or.inl ⟨n, rfl, rfl⟩
  | _ => exact Or.inr ⟨fun n h => (nomatch h), rfl⟩

/-! ## The static form -/

theorem Group.exists_cons (h : Group kind parts v) : ∃ a rest, parts = a :: rest := by
  cases h with
  | whole h => exact ⟨_, _, rfl⟩
  | spelled h =>
      cases h with
      | scalar ha => exact ⟨_, _, rfl⟩
      | vector ha hb => exact ⟨_, _, rfl⟩
      | color ha hb hc hred hgreen hblue => exact ⟨_, _, rfl⟩

theorem asStatic_of_group (h : Group kind parts v) (time : Int) :
    ∃ built, asStatic kind (.int time :: parts) = .ok (some built) ∧
      (Form.static time v).Describes kind built := by
  obtain ⟨a, rest, rfl⟩ := h.exists_cons
  obtain ⟨built, hbuilt, hdescribes⟩ := h.fits.construct_static time
  refine ⟨built, ?_, hdescribes⟩
  simp only [asStatic, readTime, valueOf_of_group h, ok_bind, hbuilt]
  rfl

theorem ofComponents_of_length_ne (h : parts.length ≠ kind.arity) :
    ofComponents kind parts = .ok none := by
  unfold ofComponents
  split
  next property n hparts =>
    have hlength : parts.length = 1 := by simpa using congrArg List.length hparts
    exact absurd hlength h
  next property x y hparts =>
    have hlength : parts.length = 2 := by simpa using congrArg List.length hparts
    exact absurd hlength h
  next x y z hparts =>
    have hlength : parts.length = 3 := by simpa using congrArg List.length hparts
    exact absurd hlength h
  next => rfl

/-- The second time of the dynamic form is not part of a value. -/
theorem valueOf_of_pair (h : Pair kind parts (some v) (some w)) (finish : Int) :
    valueOf kind (.int finish :: parts) = .ok none := by
  cases h with
  | wholes ha hb =>
      rename_i a b
      cases ha with
      | scalar property n =>
          have hlength : [.int finish, .number n, b].length ≠ (Kind.scalar property).arity := by
            simp [Kind.arity]
          exact ofComponents_of_length_ne hlength
      | vector property v =>
          have hlength : [.int finish, .vec2 v, b].length ≠ (Kind.vector property).arity := by
            simp [Kind.arity]
          exact ofComponents_of_length_ne hlength
      | color c =>
          cases hb
          rfl
  | spelled hfront hrest =>
      rename_i front rest
      have hlength : (.int finish :: (front ++ rest)).length ≠ kind.arity := by
        rw [List.length_cons, List.length_append, hfront.length_eq, hrest.length_eq]
        omega
      cases hfront with
      | scalar ha =>
          cases hrest with
          | scalar hb => exact ofComponents_of_length_ne hlength
      | vector ha hb => exact ofComponents_of_length_ne hlength
      | color ha hb hc hred hgreen hblue => exact ofComponents_of_length_ne hlength

theorem asStatic_of_pair (h : Pair kind parts (some v) (some w)) (start finish : Int) :
    asStatic kind (.int start :: .int finish :: parts) = .ok none := by
  simp only [asStatic, valueOf_of_pair h, ok_bind]
  rfl

theorem asStatic_attempt (kind : Kind) (args : List Argument) :
    Attempt kind args (asStatic kind args) := by
  unfold asStatic
  split
  next time part parts =>
    have houtcome := valueOf_outcome kind (part :: parts)
    revert houtcome
    generalize valueOf kind (part :: parts) = result
    intro houtcome
    cases houtcome with
    | failure hkind hchannels => exact .refused (.channel hkind hchannels)
    | nothing => exact .nothing
    | value hvalue =>
        rename_i v
        cases readTime_cases kind time with
        | inl h =>
            obtain ⟨n, rfl, htime⟩ := h
            obtain ⟨built, hbuilt, hdescribes⟩ := hvalue.fits.construct_static n
            simp only [ok_bind, htime, hbuilt]
            exact .command (.static hvalue) hdescribes
        | inr h =>
            simp only [ok_bind, h.2, error_bind]
            exact .refused (.time List.mem_cons_self h.1)
  next => exact .nothing

/-! ## The dynamic form -/

/-- A command between two times, which are read one after the other. -/
def between (kind : Kind) (easing : Easing) (start finish : Argument) (first last : Option Value) :
    Except Error Built := do
  construct kind (← readTime kind start) (some (← readTime kind finish)) first last easing 0

theorem asDynamic_flag (switch : Flag) (easing : Easing) (start finish : Argument)
    (parts : List Argument) :
    asDynamic (.flag switch) easing (start :: finish :: parts) =
      if parts.isEmpty then some <$> between (.flag switch) easing start finish none none
      else .ok none := by
  cases parts with
  | nil => rfl
  | cons a rest => rfl

theorem asDynamic_valued (h : kind.hasStaticForm = true) (easing : Easing)
    (start finish : Argument) (parts : List Argument) :
    asDynamic kind easing (start :: finish :: parts) = (do
      match ← valuesOf kind parts with
      | some (first, last) => some <$> between kind easing start finish (some first) (some last)
      | none => return none) := by
  cases kind with
  | flag switch => cases h
  | _ => rfl

theorem Pair.construct (h : Pair kind parts first last) (easing : Easing) (start finish : Int) :
    ∃ built, construct kind start (some finish) first last easing 0 = .ok built ∧
      (Form.dynamic easing start finish first last).Describes kind built := by
  cases h with
  | wholes ha hb => exact ha.fits.construct_dynamic hb.fits easing start finish
  | spelled hfront hrest => exact hfront.fits.construct_dynamic hrest.fits easing start finish
  | flag switch => exact construct_flag switch easing start finish

theorem asDynamic_of_pair (h : Pair kind parts first last) (easing : Easing) (start finish : Int) :
    ∃ built, asDynamic kind easing (.int start :: .int finish :: parts) = .ok (some built) ∧
      (Form.dynamic easing start finish first last).Describes kind built := by
  obtain ⟨built, hbuilt, hdescribes⟩ := h.construct easing start finish
  refine ⟨built, ?_, hdescribes⟩
  have hbetween : between kind easing (.int start) (.int finish) first last = .ok built := hbuilt
  cases h with
  | wholes ha hb =>
      rw [asDynamic_valued ha.fits.hasStaticForm, valuesOf_of_pair (.wholes ha hb), ok_bind]
      simp only [hbetween]
      rfl
  | spelled hfront hrest =>
      rw [asDynamic_valued hfront.fits.hasStaticForm, valuesOf_of_pair (.spelled hfront hrest),
        ok_bind]
      simp only [hbetween]
      rfl
  | flag switch =>
      rw [asDynamic_flag, hbetween]
      rfl

theorem between_attempt {easing : Easing} (hfront : Front front easing)
    (h : Pair kind parts first last) (start finish : Argument) :
    Attempt kind (front ++ start :: finish :: parts)
      (some <$> between kind easing start finish first last) := by
  unfold between
  cases readTime_cases kind start with
  | inr hstart =>
      rw [hstart.2]
      exact .refused (.time (by simp) hstart.1)
  | inl hstart =>
      obtain ⟨s, rfl, hs⟩ := hstart
      cases readTime_cases kind finish with
      | inr hfinish =>
          rw [hs, hfinish.2]
          exact .refused (.time (by simp) hfinish.1)
      | inl hfinish =>
          obtain ⟨f, rfl, hf⟩ := hfinish
          obtain ⟨built, hbuilt, hdescribes⟩ := h.construct easing s f
          simp only [hs, hf, ok_bind, hbuilt]
          exact .command (.dynamic hfront h) hdescribes

theorem asDynamic_attempt {easing : Easing} (hfront : Front front easing) (kind : Kind)
    (args : List Argument) : Attempt kind (front ++ args) (asDynamic kind easing args) := by
  rcases args with _ | ⟨start, _ | ⟨finish, parts⟩⟩
  · exact .nothing
  · exact .nothing
  cases hkind : kind.hasStaticForm with
  | false =>
      cases kind with
      | flag switch =>
          rw [asDynamic_flag]
          split
          next hparts =>
            rw [List.isEmpty_iff.mp hparts]
            exact between_attempt hfront (.flag switch) start finish
          next => exact .nothing
      | _ => cases hkind
  | true =>
      rw [asDynamic_valued hkind]
      have houtcome := valuesOf_outcome kind parts
      revert houtcome
      generalize valuesOf kind parts = result
      intro houtcome
      cases houtcome with
      | failure hcolor hchannels => exact .refused (.channels hcolor hfront hchannels)
      | nothing => exact .nothing
      | value hpair => exact between_attempt hfront hpair start finish

end Reading

/-! ## All forms -/

/-- What was found is taken, and otherwise the next attempt is made. -/
def orElse : Except Error (Option Built) → Except Error Built → Except Error Built
  | .ok (some built), _ => .ok built
  | .ok none, next => next
  | .error e, _ => .error e

theorem orElse_eq (attempt : Except Error (Option Built)) (next : Except Error Built) :
    (do if let some built ← attempt then return built else next) = orElse attempt next := by
  rcases attempt with e | _ | built
  · rfl
  · rfl
  · rfl

theorem ofArguments_easing (kind : Kind) (e : Easing) (rest : List Argument) :
    ofArguments kind (.easing e :: rest) =
      orElse (asDynamic kind e rest) (.error (.arguments kind rest)) :=
  orElse_eq _ _

theorem ofArguments_plain {kind : Kind} {args : List Argument}
    (h : splitEasing args = (none, args)) :
    ofArguments kind args =
      if kind.hasStaticForm then
        orElse (asStatic kind args)
          (orElse (asDynamic kind .linear args) (.error (.arguments kind args)))
      else orElse (asDynamic kind .linear args) (.error (.arguments kind args)) := by
  have hdynamic := orElse_eq (asDynamic kind .linear args) (.error (.arguments kind args))
  unfold ofArguments
  rw [h]
  cases kind with
  | flag switch => exact hdynamic
  | _ => exact (orElse_eq _ _).trans (congrArg (orElse _) hdynamic)

theorem splitEasing_cases (args : List Argument) :
    (∃ e rest, args = .easing e :: rest) ∨ splitEasing args = (none, args) := by
  unfold splitEasing
  split
  next e rest => exact Or.inl ⟨e, rest, rfl⟩
  next => exact Or.inr rfl

section Forms

variable {kind : Kind} {args : List Argument}

theorem ofArguments_of_reads {form : Form} (h : Reads kind args form) :
    ∃ built, ofArguments kind args = .ok built ∧ form.Describes kind built := by
  cases h with
  | static hgroup =>
      rename_i time parts value
      obtain ⟨built, hbuilt, hdescribes⟩ := asStatic_of_group hgroup time
      refine ⟨built, ?_, hdescribes⟩
      rw [ofArguments_plain rfl, if_pos hgroup.fits.hasStaticForm, hbuilt]
      rfl
  | dynamic hfront hpair =>
      rename_i front parts easing start finish first last
      obtain ⟨built, hbuilt, hdescribes⟩ := asDynamic_of_pair hpair easing start finish
      refine ⟨built, ?_, hdescribes⟩
      cases hfront with
      | given e =>
          rw [List.singleton_append, ofArguments_easing, hbuilt]
          rfl
      | absent =>
          rw [List.nil_append, ofArguments_plain rfl, hbuilt]
          cases hpair with
          | wholes ha hb =>
              rw [if_pos ha.fits.hasStaticForm, asStatic_of_pair (.wholes ha hb)]
              rfl
          | spelled hleft hright =>
              rw [if_pos hleft.fits.hasStaticForm, asStatic_of_pair (.spelled hleft hright)]
              rfl
          | flag switch => rfl

/-- A list of arguments has a form and gives the command of it, or is refused for a reason. -/
def Settled (kind : Kind) (args : List Argument) (result : Except Error Built) : Prop :=
  (∃ form built, result = .ok built ∧ Reads kind args form ∧ form.Describes kind built) ∨
    ∃ e, result = .error e ∧ Refusal kind args e

theorem Attempt.settled {attempt : Except Error (Option Built)} {next : Except Error Built}
    (h : Attempt kind args attempt) (hnext : Settled kind args next) :
    Settled kind args (orElse attempt next) := by
  cases h with
  | command hform hdescribes => exact Or.inl ⟨_, _, rfl, hform, hdescribes⟩
  | nothing => exact hnext
  | refused hrefusal => exact Or.inr ⟨_, rfl, hrefusal⟩

theorem ofArguments_settled (kind : Kind) (args : List Argument) :
    Settled kind args (ofArguments kind args) := by
  have hshape : Settled kind args (.error (.arguments kind (splitEasing args).2)) :=
    Or.inr ⟨_, rfl, .shape args⟩
  cases splitEasing_cases args with
  | inl h =>
      obtain ⟨e, rest, rfl⟩ := h
      rw [ofArguments_easing]
      exact (asDynamic_attempt (.given e) kind rest).settled hshape
  | inr h =>
      rw [h] at hshape
      have hdynamic := (asDynamic_attempt .absent kind args).settled hshape
      rw [ofArguments_plain h]
      split
      · exact (asStatic_attempt kind args).settled hdynamic
      · exact hdynamic

end Forms

/--
A list of arguments gives a command exactly if it has one of the forms.  It never has two, so what
the command is follows from the list: the times and the easing are the given ones, and the values
are those of the two groups.  Any other list is refused, for its shape, for a time that is no
integer, or for a color with a channel that is no finite number.
-/
theorem ofArguments_reads_forms (kind : Kind) (args : List Argument) :
    (∀ form, Reads kind args form →
      ∃ built, ofArguments kind args = .ok built ∧ form.Describes kind built) ∧
    (∀ form form', Reads kind args form → Reads kind args form' → form = form') ∧
    ((∀ form, ¬ Reads kind args form) →
      ∃ e, ofArguments kind args = .error e ∧ Refusal kind args e) := by
  refine ⟨fun form h => ofArguments_of_reads h, ?_, ?_⟩
  · intro form form' h h'
    obtain ⟨built, hbuilt, hdescribes⟩ := ofArguments_of_reads h
    obtain ⟨built', hbuilt', hdescribes'⟩ := ofArguments_of_reads h'
    rw [hbuilt] at hbuilt'
    cases hbuilt'
    exact hdescribes.unique hdescribes'
  · intro hnone
    cases ofArguments_settled kind args with
    | inl h =>
        obtain ⟨form, built, hbuilt, hform, hdescribes⟩ := h
        exact absurd hform (hnone form)
    | inr h => exact h

/-- Four integers are a time and a color, and a truth value is no time. -/
theorem forms_of_fourIntegers :
    (∃ built, ofArguments .color [.int 5, .int 1, .int 2, .int 300] = .ok built ∧
      (Form.static 5 (.color ⟨1, 2, 255⟩)).Describes .color built) ∧
    ∃ e, ofArguments (.scalar .fade) [.bool true, .int 1] = .error e ∧
      Refusal (.scalar .fade) [.bool true, .int 1] e := by
  constructor
  · have hcolor : Spelled .color [.int 1, .int 2, .int 300] (.color ⟨1, 2, 255⟩) :=
      .color (.int 1) (.int 2) (.int 300) rfl rfl rfl
    exact (ofArguments_reads_forms .color _).1 _ (.static (.spelled hcolor))
  · apply (ofArguments_reads_forms (.scalar .fade) _).2.2
    intro form h
    generalize hargs : [Argument.bool true, .int 1] = args at h
    cases h with
    | static h => cases hargs
    | dynamic hfront h =>
        cases hfront with
        | absent => cases hargs
        | given e => cases hargs

end Command
end Storyboard
