import Mathlib
import Storyboard.Proofs.Command.Acceptance
import Storyboard.Proofs.Command.Display

/-!
# Asking for a command

A command can be asked for in four ways, and each of them names the same parts: a kind, one or two
times, values of the type of the kind, an easing and a depth.  A flag must have an end, every other
kind a value at each of its ends, and no depth is negative.  Parts that lack one of these are
refused, and from all others a command is made that has just these parts.
-/

namespace Storyboard
namespace Command

/-! ## Parts -/

/-- What a command is to be made of. -/
structure Parts where
  kind : Kind
  start : Int
  finish : Option Int
  first : Option Value
  last : Option Value
  easing : Easing
  depth : Int

namespace Parts

/-- The values are of the type that the kind has, where they are given. -/
structure Typed (p : Parts) : Prop where
  first : ∀ v, p.first = some v → Fits p.kind v
  last : ∀ v, p.last = some v → Fits p.kind v

/-- Why no command is made of some parts.  The depth is looked at first. -/
inductive Lacks (p : Parts) : Error → Prop where
  | depth (h : p.depth < 0) : Lacks p (.negativeDepth p.depth)
  | finish (hdepth : 0 ≤ p.depth) (hkind : p.kind.hasStaticForm = false) (h : p.finish = none) :
      Lacks p (.endTimeMissing p.kind)
  | value (hdepth : 0 ≤ p.depth) (hkind : 0 < p.kind.arity)
      (h : p.first = none ∨ p.finish ≠ none ∧ p.last = none) : Lacks p (.valueMissing p.kind)

def build (p : Parts) : Except Error Built :=
  construct p.kind p.start p.finish p.first p.last p.easing p.depth

end Parts

/-- A new command has the parts that were given for it; one without a second time is static. -/
structure Built.MadeOf (built : Built) (p : Parts) : Prop where
  kind : built.command.kind = p.kind
  isStatic : built.command.isStatic = p.finish.isNone
  start : built.command.start = p.start
  finish : built.command.finish = p.finish.getD p.start
  easing : built.command.easing = p.easing
  first : built.command.startValue? = p.first
  last : built.command.endValue? = p.last
  depth : (built.depth : Int) = p.depth

/-- The ways in which a command is asked for. -/
inductive Request where
  | parts (p : Parts) (h : p.Typed)
  | static (kind : Kind) (time value : Argument)
  | dynamic (kind : Kind) (start finish first last : Argument) (easing : Easing)
  | arguments (kind : Kind) (args : List Argument)

def Request.answer : Request → Except Error Built
  | .parts p _ => p.build
  | .static kind time value => Command.static kind time value
  | .dynamic kind start finish first last easing =>
      Command.dynamic kind start finish first last easing
  | .arguments kind args => ofArguments kind args

def Form.parts (kind : Kind) : Form → Parts
  | .static time value => ⟨kind, time, none, some value, none, .linear, 0⟩
  | .dynamic easing start finish first last => ⟨kind, start, some finish, first, last, easing, 0⟩

/-- The parts that a request names, once its times and values are read. -/
inductive Request.Gives : Request → Parts → Prop where
  | parts {p : Parts} (h : p.Typed) : Gives (.parts p h) p
  | static {kind : Kind} {time : Int} {value : Argument} {v : Option Value}
      (hkind : kind.hasStaticForm = true) (hvalue : readValue kind value = .ok v) :
      Gives (.static kind (.int time) value) ⟨kind, time, none, v, none, .linear, 0⟩
  | dynamic {kind : Kind} {start finish : Int} {first last : Argument} {easing : Easing}
      {v w : Option Value} (hfirst : readValue kind first = .ok v)
      (hlast : readValue kind last = .ok w) :
      Gives (.dynamic kind (.int start) (.int finish) first last easing)
        ⟨kind, start, some finish, v, w, easing, 0⟩
  | arguments {kind : Kind} {args : List Argument} {form : Form} (h : Reads kind args form) :
      Gives (.arguments kind args) (form.parts kind)

end Command

/-! ## Actions from their parts -/

namespace Action

variable {α : Type} {finish : Option Int} {first last : Option α} {action : Action α}

theorem ofParts?_eq_none (h : ofParts? finish first last = none) :
    first = none ∨ finish ≠ none ∧ last = none := by
  cases first with
  | none => exact Or.inl rfl
  | some v =>
      cases finish with
      | none => cases h
      | some n =>
          cases last with
          | none => exact Or.inr ⟨Option.some_ne_none n, rfl⟩
          | some w => cases h

theorem parts_of_ofParts? (h : ofParts? finish first last = some action) :
    action.finish? = finish ∧ some action.startValue = first ∧ action.endValue? = last := by
  cases first with
  | none =>
      cases finish with
      | none => cases h
      | some n => cases h
  | some v =>
      cases finish with
      | none =>
          cases h
          exact ⟨rfl, rfl, rfl⟩
      | some n =>
          cases last with
          | none => cases h
          | some w =>
              cases h
              exact ⟨rfl, rfl, rfl⟩

end Action

namespace Command

/-! ## Values of the right type -/

theorem map_bind_of_fits {α : Type} {kind : Kind} {read : Value → Option α} {make : α → Value}
    {value : Option Value} (hread : ∀ v, Fits kind v → (read v).map make = some v)
    (h : ∀ v, value = some v → Fits kind v) : (value.bind read).map make = value := by
  cases value with
  | none => rfl
  | some v => exact hread v (h v rfl)

theorem eq_none_of_flag {switch : Flag} {value : Option Value}
    (h : ∀ v, value = some v → Fits (.flag switch) v) : value = none := by
  cases value with
  | none => rfl
  | some v => cases h v rfl

/-! ## Building from parts -/

namespace Parts

variable {p : Parts}

/-- What becomes of parts with a depth that is not negative. -/
inductive Outcome (p : Parts) : Except Error Effect → Prop where
  | effect {effect : Effect} (hkind : effect.kind = p.kind) (hfinish : effect.finish? = p.finish)
      (hfirst : (Command.mk p.start p.easing effect).startValue? = p.first)
      (hlast : (Command.mk p.start p.easing effect).endValue? = p.last) : Outcome p (.ok effect)
  | refused {e : Error} (h : 0 ≤ p.depth → p.Lacks e) : Outcome p (.error e)

theorem Typed.outcome_of_action {α : Type} (h : p.Typed) (read : Value → Option α)
    (make : α → Value) (effect : Action α → Effect) {result : Except Error Effect}
    (harity : 0 < p.kind.arity) (hread : ∀ v, Fits p.kind v → (read v).map make = some v)
    (hmade : ∀ action, Action.ofParts? p.finish (p.first.bind read) (p.last.bind read) =
      some action → result = .ok (effect action))
    (hmissing : Action.ofParts? p.finish (p.first.bind read) (p.last.bind read) = none →
      result = .error (.valueMissing p.kind))
    (hkind : ∀ action, (effect action).kind = p.kind)
    (hfinish : ∀ action, (effect action).finish? = action.finish?)
    (hstart : ∀ action, (Command.mk p.start p.easing (effect action)).startValue? =
      some (make action.startValue))
    (hend : ∀ action, (Command.mk p.start p.easing (effect action)).endValue? =
      action.endValue?.map make) :
    Outcome p result := by
  have hfirst := map_bind_of_fits hread h.first
  have hlast := map_bind_of_fits hread h.last
  cases haction : Action.ofParts? p.finish (p.first.bind read) (p.last.bind read) with
  | none =>
      have habsent := Action.ofParts?_eq_none haction
      rw [← Option.map_eq_none_iff (f := make), hfirst, ← Option.map_eq_none_iff (f := make),
        hlast] at habsent
      rw [hmissing haction]
      exact .refused fun hdepth => .value hdepth harity habsent
  | some action =>
      obtain ⟨hfinish', hfirst', hlast'⟩ := Action.parts_of_ofParts? haction
      rw [hmade action haction]
      apply Outcome.effect
      case hkind => exact hkind action
      case hfinish => rw [hfinish, hfinish']
      case hfirst => rw [hstart, ← hfirst, ← hfirst', Option.map_some]
      case hlast => rw [hend, hlast', hlast]

theorem Typed.outcome (h : p.Typed) :
    Outcome p (effectOf p.kind p.finish p.first p.last) := by
  obtain ⟨kind, start, finish, first, last, easing, depth⟩ := p
  -- Kinds with values differ in how a value is told from others and made again.
  cases kind with
  | scalar property =>
      apply h.outcome_of_action Value.number? .number (.scalar property)
      case harity => exact Nat.one_pos
      case hread =>
        rintro v ⟨⟩
        rfl
      case hmade =>
        intro action haction
        simp only [effectOf, haction]
      case hmissing =>
        intro haction
        simp only [effectOf, haction]
      all_goals exact fun _ => rfl
  | vector property =>
      apply h.outcome_of_action Value.vec2? .vec2 (.vector property)
      case harity => exact Nat.two_pos
      case hread =>
        rintro v ⟨⟩
        rfl
      case hmade =>
        intro action haction
        simp only [effectOf, haction]
      case hmissing =>
        intro haction
        simp only [effectOf, haction]
      all_goals exact fun _ => rfl
  | color =>
      apply h.outcome_of_action Value.color? .color .color
      case harity => exact Nat.succ_pos 2
      case hread =>
        rintro v ⟨⟩
        rfl
      case hmade =>
        intro action haction
        simp only [effectOf, haction]
      case hmissing =>
        intro haction
        simp only [effectOf, haction]
      all_goals exact fun _ => rfl
  | flag switch =>
      have hfirst : first = none := eq_none_of_flag h.first
      have hlast : last = none := eq_none_of_flag h.last
      cases finish with
      | none => exact .refused fun hdepth => .finish hdepth rfl rfl
      | some n => exact .effect rfl rfl hfirst.symm hlast.symm

theorem build_of_neg (h : p.depth < 0) : p.build = .error (.negativeDepth p.depth) := by
  rw [build, construct, if_pos h]
  rfl

theorem build_of_nonneg (h : 0 ≤ p.depth) :
    p.build = (do
      return { command := ⟨p.start, p.easing, ← effectOf p.kind p.finish p.first p.last⟩
               depth := p.depth.toNat }) := by
  rw [build, construct, if_neg (Int.not_lt.mpr h)]

/-- Parts make a command, or they lack something. -/
theorem Typed.build_settled (h : p.Typed) :
    (∃ built, p.build = .ok built ∧ built.MadeOf p) ∨ ∃ e, p.build = .error e ∧ p.Lacks e := by
  rcases Int.lt_or_le p.depth 0 with hneg | hnonneg
  · exact Or.inr ⟨_, build_of_neg hneg, .depth hneg⟩
  · have houtcome := h.outcome
    rw [build_of_nonneg hnonneg]
    revert houtcome
    generalize effectOf p.kind p.finish p.first p.last = result
    intro houtcome
    cases houtcome with
    | effect hkind hfinish hfirst hlast =>
        refine Or.inl ⟨_, rfl, ?_⟩
        constructor
        case kind => exact hkind
        case isStatic => exact congrArg Option.isNone hfinish
        case start => rfl
        case finish => exact congrArg (Option.getD · p.start) hfinish
        case easing => rfl
        case first => exact hfirst
        case last => exact hlast
        case depth => exact Int.toNat_of_nonneg hnonneg
    | refused hlacks => exact Or.inr ⟨_, rfl, hlacks hnonneg⟩

theorem Lacks.unique {e e' : Error} (h : p.Lacks e) (h' : p.Lacks e') : e = e' := by
  have hflag : p.kind.hasStaticForm = false → ¬ 0 < p.kind.arity := by
    cases p.kind with
    | flag switch => exact fun _ => Nat.lt_irrefl 0
    | _ => exact fun hkind => nomatch hkind
  cases h with
  | depth hneg =>
      cases h' with
      | depth => rfl
      | finish hdepth => exact absurd hneg (Int.not_lt.mpr hdepth)
      | value hdepth => exact absurd hneg (Int.not_lt.mpr hdepth)
  | finish hdepth hkind =>
      cases h' with
      | depth hneg => exact absurd hneg (Int.not_lt.mpr hdepth)
      | finish => rfl
      | value _ harity => exact absurd harity (hflag hkind)
  | value hdepth harity =>
      cases h' with
      | depth hneg => exact absurd hneg (Int.not_lt.mpr hdepth)
      | finish _ hkind => exact absurd harity (hflag hkind)
      | value => rfl

end Parts

/-! ## What a command has -/

section Command

variable {c : Command}

theorem isStatic_of_flag {switch : Flag} (h : c.kind = .flag switch) : c.isStatic = false := by
  rcases c with ⟨start, easing, effect⟩
  cases effect with
  | flag switch finish => rfl
  | _ => cases h

theorem startValue?_ne_none (h : 0 < c.kind.arity) : c.startValue? ≠ none := by
  rcases c with ⟨start, easing, effect⟩
  cases effect with
  | flag switch finish => exact absurd h (Nat.lt_irrefl 0)
  | _ => exact Option.some_ne_none _

theorem exists_endValue?_of_dynamic (harity : 0 < c.kind.arity) (h : c.isStatic = false) :
    ∃ v, c.endValue? = some v ∧ v.texts.length = c.kind.arity := by
  rcases c with ⟨start, easing, effect⟩
  cases effect with
  | scalar property action =>
      cases action with
      | hold value spare => cases h
      | change finish first last => exact ⟨_, rfl, rfl⟩
  | vector property action =>
      cases action with
      | hold value spare => cases h
      | change finish first last => exact ⟨_, rfl, rfl⟩
  | color action =>
      cases action with
      | hold value spare => cases h
      | change finish first last => exact ⟨_, rfl, rfl⟩
  | flag switch finish => exact absurd harity (Nat.lt_irrefl 0)

end Command

theorem Built.MadeOf.not_lacks {built : Built} {p : Parts} (h : built.MadeOf p) {e : Error} :
    ¬ p.Lacks e := by
  intro hlacks
  cases hlacks with
  | depth hneg =>
      have hdepth := h.depth
      omega
  | finish hdepth hkind hfinish =>
      have hstatic := h.isStatic
      rw [hfinish] at hstatic
      have hkind' := h.kind
      cases hp : p.kind with
      | flag switch =>
          rw [hp] at hkind'
          rw [isStatic_of_flag hkind'] at hstatic
          cases hstatic
      | _ =>
          rw [hp] at hkind
          cases hkind
  | value hdepth harity hmissing =>
      rw [← h.kind] at harity
      rcases hmissing with hfirst | ⟨hfinish, hlast⟩
      · exact startValue?_ne_none harity (h.first.trans hfirst)
      · have hdynamic : built.command.isStatic = false := by
          rw [h.isStatic, Option.isNone_eq_false_iff, Option.isSome_iff_ne_none]
          exact hfinish
        obtain ⟨v, hv, -⟩ := exists_endValue?_of_dynamic harity hdynamic
        rw [h.last, hlast] at hv
        cases hv

/-! ## Answers to requests -/

theorem eq_int_of_readTime {kind : Kind} {a : Argument} {n : Int} (h : readTime kind a = .ok n) :
    a = .int n := by
  rcases readTime_cases kind a with ⟨m, rfl, hm⟩ | ⟨-, herror⟩
  · rw [hm] at h
    cases h
    rfl
  · rw [herror] at h
    cases h

theorem fits_of_readValue {kind : Kind} {a : Argument} {value : Option Value}
    (h : readValue kind a = .ok value) : ∀ v, value = some v → Fits kind v := by
  unfold readValue at h
  split at h
  next =>
    cases h
    exact fun v hv => nomatch hv
  next =>
    obtain ⟨n, -, hn⟩ := exists_of_bind_eq_ok h
    cases hn
    rintro v ⟨⟩
    exact .scalar _ n
  next =>
    obtain ⟨u, -, hu⟩ := exists_of_bind_eq_ok h
    cases hu
    rintro v ⟨⟩
    exact .vector _ u
  next c =>
    cases h
    rintro v ⟨⟩
    exact .color c
  next =>
    obtain ⟨x, -, h⟩ := exists_of_bind_eq_ok h
    obtain ⟨y, -, h⟩ := exists_of_bind_eq_ok h
    obtain ⟨z, -, h⟩ := exists_of_bind_eq_ok h
    obtain ⟨c, -, hc⟩ := exists_of_bind_eq_ok h
    cases hc
    rintro v ⟨⟩
    exact .color c
  next => cases h
  next => cases h

theorem static_of_form {kind : Kind} (h : kind.hasStaticForm = true) (time value : Argument) :
    static kind time value = (do
      construct kind (← readTime kind time) none (← readValue kind value) none .linear 0) := by
  rw [static, h]
  rfl

theorem static_of_no_form {kind : Kind} (h : kind.hasStaticForm = false) (time value : Argument) :
    static kind time value = .error (.noStaticForm kind) := by
  rw [static, h]
  rfl

theorem Form.Describes.madeOf {kind : Kind} {built : Built} {form : Form}
    (h : form.Describes kind built) : built.MadeOf (form.parts kind) := by
  cases form with
  | static time value =>
      exact ⟨h.kind, h.isStatic, h.start, h.finish, h.easing, h.first, h.last,
        congrArg Nat.cast h.depth⟩
  | dynamic easing start finish first last =>
      exact ⟨h.kind, h.isStatic, h.start, h.finish, h.easing, h.first, h.last,
        congrArg Nat.cast h.depth⟩

namespace Request

variable {r : Request} {p : Parts}

theorem Gives.settled (h : r.Gives p) :
    (∃ built, r.answer = .ok built ∧ built.MadeOf p) ∨ ∃ e, r.answer = .error e ∧ p.Lacks e := by
  cases h with
  | parts h => exact h.build_settled
  | static hkind hvalue =>
      rename_i kind time value v
      have htyped : Parts.Typed ⟨kind, time, none, v, none, .linear, 0⟩ :=
        ⟨fits_of_readValue hvalue, fun _ hnone => nomatch hnone⟩
      have hanswer : (Request.static kind (.int time) value).answer =
          Parts.build ⟨kind, time, none, v, none, .linear, 0⟩ := by
        rw [answer, static_of_form hkind, hvalue]
        rfl
      rw [hanswer]
      exact htyped.build_settled
  | dynamic hfirst hlast =>
      rename_i kind start finish first last easing v w
      have htyped : Parts.Typed ⟨kind, start, some finish, v, w, easing, 0⟩ :=
        ⟨fits_of_readValue hfirst, fits_of_readValue hlast⟩
      have hanswer : (Request.dynamic kind (.int start) (.int finish) first last easing).answer =
          Parts.build ⟨kind, start, some finish, v, w, easing, 0⟩ := by
        rw [answer, Command.dynamic, hfirst, hlast]
        rfl
      rw [hanswer]
      exact htyped.build_settled
  | arguments h =>
      obtain ⟨built, hbuilt, hdescribes⟩ := ofArguments_of_reads h
      exact Or.inl ⟨built, hbuilt, hdescribes.madeOf⟩

/-- What is refused lacks something, and the error says what. -/
theorem Gives.answer_eq_error_iff (h : r.Gives p) (e : Error) :
    r.answer = .error e ↔ p.Lacks e := by
  rcases h.settled with ⟨built, hanswer, hmade⟩ | ⟨e', hanswer, hlacks⟩
  · constructor
    · intro herror
      rw [hanswer] at herror
      cases herror
    · exact fun hlacks => absurd hlacks hmade.not_lacks
  · rw [hanswer]
    constructor
    · rintro ⟨⟩
      exact hlacks
    · exact fun hlacks' => congrArg Except.error (hlacks.unique hlacks')

theorem exists_gives_of_answer {built : Built} (h : r.answer = .ok built) :
    ∃ p, r.Gives p ∧ built.MadeOf p := by
  suffices ∃ p, r.Gives p by
    obtain ⟨p, hp⟩ := this
    rcases hp.settled with ⟨built', hanswer, hmade⟩ | ⟨e, hanswer, -⟩
    · rw [h] at hanswer
      cases hanswer
      exact ⟨p, hp, hmade⟩
    · rw [h] at hanswer
      cases hanswer
  cases r with
  | parts p htyped => exact ⟨p, .parts htyped⟩
  | static kind time value =>
      cases hkind : kind.hasStaticForm with
      | false =>
          rw [answer, static_of_no_form hkind] at h
          cases h
      | true =>
          rw [answer, static_of_form hkind] at h
          obtain ⟨n, hn, h⟩ := exists_of_bind_eq_ok h
          obtain ⟨v, hv, -⟩ := exists_of_bind_eq_ok h
          rw [eq_int_of_readTime hn]
          exact ⟨_, .static hkind hv⟩
  | dynamic kind start finish first last easing =>
      obtain ⟨s, hs, h⟩ := exists_of_bind_eq_ok h
      obtain ⟨f, hf, h⟩ := exists_of_bind_eq_ok h
      obtain ⟨v, hv, h⟩ := exists_of_bind_eq_ok h
      obtain ⟨w, hw, -⟩ := exists_of_bind_eq_ok h
      rw [eq_int_of_readTime hs, eq_int_of_readTime hf]
      exact ⟨_, .dynamic hv hw⟩
  | arguments kind args =>
      rcases ofArguments_settled kind args with ⟨form, built, -, hreads, -⟩ | ⟨e, herror, -⟩
      · exact ⟨_, .arguments hreads⟩
      · rw [answer, herror] at h
        cases h

end Request

end Command
end Storyboard
