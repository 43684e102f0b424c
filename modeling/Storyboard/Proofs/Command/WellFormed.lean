import Mathlib
import Storyboard.Proofs.Board.StepEffects
import Storyboard.Proofs.Command.Requests
import Storyboard.Proofs.Decimal.Display

/-!
# Every command has a well-formed line

However a command is asked for, its line has all the fields that such a line must have and no other
ones: the code of the kind, the easing, the times, and as many numbers as its values have or the
letter of its flag.  No field holds a character that ends it too early.  This stays so at every
depth that the command is given later on.
-/

namespace Storyboard
namespace Command

/-! ## The line -/

/-- The fields of a line; a static command has no easing of its own and no second time. -/
def layout (c : Command) : List String :=
  [c.kind.code, if c.isStatic then "0" else toString c.easing.number, toString c.start,
    if c.isStatic then "" else toString c.finish] ++ c.valueFields

/--
A line has all its fields and nothing else: as many numbers as the values of the command have, or
the letter of its flag.
-/
structure WellFormed (c : Command) (depth : Nat) (line : String) : Prop where
  static_finish : c.isStatic = true → c.finish = c.start
  flag_dynamic : ∀ switch, c.kind = .flag switch → c.isStatic = false
  line : line = String.ofList (List.replicate (depth + 1) ' ') ++ String.intercalate "," c.layout
  separators : ∀ field ∈ c.layout,
    ',' ∉ field.toList ∧ ' ' ∉ field.toList ∧ '\n' ∉ field.toList
  letter : ∀ switch, c.kind = .flag switch → c.valueFields = [switch.letter]
  count : (∀ switch, c.kind ≠ .flag switch) →
    c.valueFields.length = if c.isStatic then c.kind.arity else 2 * c.kind.arity
  numbers : (∀ switch, c.kind ≠ .flag switch) → ∀ field ∈ c.valueFields,
    IsNumberText field.toList ∧ field.toList ≠ [] ∧ 'e' ∉ field.toList ∧ 'E' ∉ field.toList

section Line

variable {c : Command}

theorem fields_eq_layout (c : Command) : c.fields = c.layout := by
  have hlinear : toString Easing.linear.number = "0" := by decide
  unfold fields layout timeFields isStatic finish
  cases c.effect.finish? with
  | none =>
      rw [hlinear]
      rfl
  | some finish => rfl

theorem isNumberText_of_mem_texts {v : Value} {field : String} (h : field ∈ v.texts) :
    IsNumberText field.toList := by
  cases v with
  | number n =>
      rw [List.mem_singleton.mp h]
      exact n.isNumberText_text
  | vec2 v =>
      rcases List.mem_pair.mp h with rfl | rfl
      · exact v.x.isNumberText_text
      · exact v.y.isNumberText_text
  | color c =>
      obtain ⟨channel, -, rfl⟩ := List.mem_map.mp h
      exact isNumberText_nat channel

theorem isNumberText_of_mem_valueFields (hvalued : ∀ switch, c.kind ≠ .flag switch)
    {field : String} (h : field ∈ c.valueFields) : IsNumberText field.toList := by
  have hvalue : ∀ {value : Option Value}, field ∈ (value.map Value.texts).getD [] →
      IsNumberText field.toList := by
    intro value hmem
    cases value with
    | none => cases hmem
    | some v => exact isNumberText_of_mem_texts hmem
  rw [valueFields_of_not_flag hvalued] at h
  rcases List.mem_append.mp h with hstart | hend
  · exact hvalue hstart
  · split at hend
    · cases hend
    · exact hvalue hend

theorem length_valueFields (hvalued : ∀ switch, c.kind ≠ .flag switch) :
    c.valueFields.length = if c.isStatic then c.kind.arity else 2 * c.kind.arity := by
  have harity : 0 < c.kind.arity := by
    cases hkind : c.kind with
    | flag switch => exact absurd hkind (hvalued switch)
    | _ => exact Nat.succ_pos _
  rw [valueFields_of_not_flag hvalued, List.length_append, length_startTexts]
  cases hstatic : c.isStatic with
  | true => rfl
  | false =>
      obtain ⟨v, hv, hlength⟩ := exists_endValue?_of_dynamic harity hstatic
      have hend : c.endTexts = v.texts := by
        rw [endTexts, hv]
        rfl
      rw [if_neg Bool.false_ne_true, if_neg Bool.false_ne_true, hend, hlength, Nat.two_mul]

theorem wellFormed_line (c : Command) (depth : Nat) : c.WellFormed depth (c.line depth) where
  static_finish := by
    intro h
    rw [finish, Option.isNone_iff_eq_none.mp h]
    rfl
  flag_dynamic := fun _ => isStatic_of_flag
  line := by
    rw [Command.line, fields_eq_layout]
  separators := by
    intro field hfield
    rw [← fields_eq_layout] at hfield
    have hchars := isField_of_mem_fields hfield
    exact ⟨fun h => (hchars _ h).1 rfl, fun h => (hchars _ h).2.1 rfl,
      fun h => (hchars _ h).2.2.1 rfl⟩
  letter := fun _ => valueFields_of_flag
  count := length_valueFields
  numbers := by
    intro hvalued field hfield
    have hnumber := isNumberText_of_mem_valueFields hvalued hfield
    exact ⟨hnumber, hnumber.ne_nil, hnumber.no_exponent⟩

end Line

/-! ## Main result -/

/--
What is asked for and not refused is a command with the parts that were named, and its line is well
formed after any changes of the depth, refused ones among them.  A request is refused exactly if
something is missing among its parts.
-/
theorem answer_wellFormed (r : Request) (steps : List Board.Step) :
    (∀ built, r.answer = .ok built →
      (∃ p, r.Gives p ∧ built.MadeOf p) ∧
      ∀ changes : List Int,
        let before := (Board.empty.run steps).newCommand built
        let id := (Board.empty.run steps).commands.size
        let after := before.run (changes.map (.depth id))
        after.cue? id = some ⟨id, built.command⟩ ∧
          after.depths.get id = Board.changedDepth built.depth changes ∧
          built.command.WellFormed (Board.changedDepth built.depth changes)
            (Cue.line after.depths ⟨id, built.command⟩)) ∧
    ∀ p, r.Gives p → ∀ e, r.answer = .error e ↔ p.Lacks e := by
  refine ⟨?_, fun p hp e => hp.answer_eq_error_iff e⟩
  intro built h
  refine ⟨Request.exists_gives_of_answer h, ?_⟩
  intro changes before id after
  have hdepths : (Board.empty.run steps).HasDepths := Board.hasDepths_run steps rfl
  have hnew : before.depths.get id = built.depth := by
    have hid : id = (Board.empty.run steps).depths.byCue.size := hdepths.symm
    show ((Board.empty.run steps).depths.byCue.push built.depth)[id]?.getD 0 = built.depth
    rw [hid, Array.getElem?_push_size]
    rfl
  have hdepth : after.depths.get id = Board.changedDepth built.depth changes := by
    have hid : id < before.depths.byCue.size := by
      rw [hdepths.newCommand built]
      exact (Array.size_push _).symm ▸ Nat.lt_succ_self _
    rw [Board.depths_get_run_depth changes hid, hnew]
  refine ⟨?_, hdepth, ?_⟩
  · exact Board.cue?_run (Board.cue?_newCommand _ built) _
  · rw [← hdepth]
    exact wellFormed_line _ _

/-- A fade that is asked for at depth 2. -/
def fadeAtTwo : Parts :=
  ⟨.scalar .fade, 0, some 1000, some (.number 1), some (.number 0), .linear, 2⟩

theorem fadeAtTwo_typed : fadeAtTwo.Typed := by
  constructor
  · rintro v ⟨⟩
    exact .scalar .fade 1
  · rintro v ⟨⟩
    exact .scalar .fade 0

/-- A flip that is asked for without an end. -/
def endlessFlip : Parts :=
  ⟨.flag .hflip, 0, none, none, none, .linear, 0⟩

theorem endlessFlip_typed : endlessFlip.Typed := by
  constructor
  · exact fun _ h => nomatch h
  · exact fun _ h => nomatch h

/-- Of two changes the first is made and the second refused; a flip without an end is refused. -/
theorem wellFormed_of_fadeAtTwo :
    (∃ built, (Request.parts fadeAtTwo fadeAtTwo_typed).answer = .ok built ∧ built.depth = 2 ∧
      built.command.WellFormed 5 "      F,0,0,1000,1,0") ∧
    (Request.parts endlessFlip endlessFlip_typed).answer =
      .error (.endTimeMissing (.flag .hflip)) := by
  constructor
  · have hanswer : (Request.parts fadeAtTwo fadeAtTwo_typed).answer =
        .ok ⟨⟨0, .linear, .scalar .fade (.change 1000 1 0)⟩, 2⟩ := rfl
    have hwritten := ((answer_wellFormed _ []).1 _ hanswer).2 [5, -1]
    have hline : Command.line 5 ⟨0, .linear, .scalar .fade (.change 1000 1 0)⟩ =
        "      F,0,0,1000,1,0" := by decide +kernel
    refine ⟨_, hanswer, rfl, ?_⟩
    rw [← hline]
    exact hwritten.2.2
  · exact ((answer_wellFormed _ []).2 _ (.parts endlessFlip_typed) _).mpr (.finish le_rfl rfl rfl)

end Command
end Storyboard
