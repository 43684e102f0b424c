import Mathlib
import Storyboard.Proofs.Command.Acceptance
import Storyboard.Proofs.Command.Agreement
import Storyboard.Proofs.Command.Channels
import Storyboard.Proofs.Command.Display

/-!
# Values as wholes and by components

A value may be built first and then given as a whole, or its components may be given in its place.
For numbers and vectors both ways lead to the same line.  A color that is built takes its channels
as they are, while the components of a command are brought to single precision before they are
rounded.  So both ways lead to the same line exactly if this leaves every channel where it is.
-/

namespace Storyboard

def Value.argument : Value → Argument
  | .number n => .number n
  | .vec2 v => .vec2 v
  | .color c => .color c

namespace Command

/-! ## Building values -/

/-- How a value of a kind is built from its components. -/
inductive Builds : Kind → List Argument → Value → Prop where
  | scalar {property : ScalarProperty} {a : Argument} {n : Number} (h : a.toPlainNumber = .ok n) :
      Builds (.scalar property) [a] (.number n)
  | vector {property : VectorProperty} {a b : Argument} {x y : Number} (ha : a.toNumber = .ok x)
      (hb : b.toNumber = .ok y) : Builds (.vector property) [a, b] (.vec2 ⟨x, y⟩)
  | color {a b c : Argument} {color : Color} (h : Argument.toColor a b c = .ok color) :
      Builds .color [a, b, c] (.color color)

section Values

variable {kind : Kind} {cs : List Argument} {v w : Value}

theorem Builds.whole (h : Builds kind cs v) : Whole kind v.argument v := by
  cases h with
  | scalar h => exact .scalar _ _
  | vector ha hb => exact .vector _ _
  | color h => exact .color _

theorem Builds.length_eq (h : Builds kind cs v) : cs.length = kind.arity := by
  cases h with
  | scalar h => rfl
  | vector ha hb => rfl
  | color h => rfl

theorem isComponent_of_toPlainNumber {a : Argument} {n : Number} (ha : ∃ m, a.IsComponent m)
    (h : a.toPlainNumber = .ok n) : a.IsComponent n := by
  obtain ⟨m, hm⟩ := ha
  cases hm with
  | int m =>
      cases h
      exact .int m
  | float x =>
      cases h
      exact .float x
  | number m => cases h

theorem isComponent_of_toNumber {a : Argument} {n : Number} (ha : ∃ m, a.IsComponent m)
    (h : a.toNumber = .ok n) : a.IsComponent n := by
  obtain ⟨m, hm⟩ := ha
  rw [Argument.toNumber_of_component? (Argument.component?_eq_some_iff.mpr hm)] at h
  cases h
  exact hm

theorem Builds.spelled (h : Builds kind cs v) (hcs : ∀ a ∈ cs, ∃ n, a.IsComponent n)
    (hkeep : kind = .color → ∀ a ∈ cs, a.KeepsChannel) : Spelled kind cs v := by
  cases h with
  | scalar h => exact .scalar (isComponent_of_toPlainNumber (hcs _ (by simp)) h)
  | vector ha hb =>
      exact .vector (isComponent_of_toNumber (hcs _ (by simp)) ha)
        (isComponent_of_toNumber (hcs _ (by simp)) hb)
  | color h =>
      rename_i a b c color
      obtain ⟨red, green, blue, hred, hgreen, hblue, rfl⟩ := Argument.toColor_eq_ok_iff.mp h
      obtain ⟨x, narrowRed, ha, hx, hredEq⟩ :=
        (hkeep rfl a (by simp)).exists_narrow (hcs a (by simp)) hred
      obtain ⟨y, narrowGreen, hb, hy, hgreenEq⟩ :=
        (hkeep rfl b (by simp)).exists_narrow (hcs b (by simp)) hgreen
      obtain ⟨z, narrowBlue, hc, hz, hblueEq⟩ :=
        (hkeep rfl c (by simp)).exists_narrow (hcs c (by simp)) hblue
      have hcolor : Color.ofInts red green blue =
          Color.ofInts narrowRed narrowGreen narrowBlue := by
        rw [Color.ofInts, Color.ofInts, hredEq, hgreenEq, hblueEq]
      rw [hcolor]
      exact .color ha hb hc hx hy hz

theorem Builds.keepsChannel (h : Builds .color cs v) (hspelled : Spelled .color cs v) :
    ∀ a ∈ cs, a.KeepsChannel := by
  cases h with
  | color h =>
      rename_i a b c color
      obtain ⟨red, green, blue, hred, hgreen, hblue, rfl⟩ := Argument.toColor_eq_ok_iff.mp h
      generalize hv : Value.color (.ofInts red green blue) = v at hspelled
      cases hspelled with
      | color ha hb hc hx hy hz =>
          simp only [Value.color.injEq, Color.ofInts, Color.mk.injEq] at hv
          intro d hd
          simp only [List.mem_cons, List.not_mem_nil, or_false] at hd
          rcases hd with rfl | rfl | rfl
          · exact (Argument.sameChannel_iff ha hred).mp ⟨_, _, _, ha, hred, hx, hv.1⟩
          · exact (Argument.sameChannel_iff hb hgreen).mp ⟨_, _, _, hb, hgreen, hy, hv.2.1⟩
          · exact (Argument.sameChannel_iff hc hblue).mp ⟨_, _, _, hc, hblue, hz, hv.2.2⟩

end Values

/-! ## Lines -/

def SameLine (result result' : Except Error Built) : Prop :=
  ∃ built built', result = .ok built ∧ result' = .ok built' ∧
    built.command.line built.depth = built'.command.line built'.depth

section Lines

variable {kind : Kind} {built built' : Built} {cs cs' : List Argument} {v v' : Value}

theorem Form.Describes.line_eq {form : Form} (h : form.Describes kind built)
    (h' : form.Describes kind built') :
    built.command.line built.depth = built'.command.line built'.depth := by
  have has : ∀ {isStatic : Bool} {start finish : Int} {easing : Easing} {first last : Option Value},
      built.Has kind isStatic start finish easing first last →
        built'.Has kind isStatic start finish easing first last →
          built.command.line built.depth = built'.command.line built'.depth := by
    intro isStatic start finish easing first last h h'
    apply line_eq_line_iff.mpr
    constructor
    · rw [h.depth, h'.depth]
    · apply alike_iff.mpr
      rw [h.kind, h'.kind, h.isStatic, h'.isStatic, h.start, h'.start, h.finish, h'.finish, h.easing,
        h'.easing, startTexts, startTexts, endTexts, endTexts, h.first, h'.first, h.last, h'.last]
      exact ⟨rfl, rfl, rfl, fun _ => ⟨rfl, rfl⟩, rfl, fun _ => rfl⟩
  cases form with
  | static time value => exact has h h'
  | dynamic easing start finish first last => exact has h h'

theorem sameLine_of_reads {args args' : List Argument} {form : Form} (h : Reads kind args form)
    (h' : Reads kind args' form) : SameLine (ofArguments kind args) (ofArguments kind args') := by
  obtain ⟨built, hbuilt, hdescribes⟩ := ofArguments_of_reads h
  obtain ⟨built', hbuilt', hdescribes'⟩ := ofArguments_of_reads h'
  exact ⟨built, built', hbuilt, hbuilt', hdescribes.line_eq hdescribes'⟩

theorem exists_forms_of_sameLine {args args' : List Argument} {form' : Form}
    (h : SameLine (ofArguments kind args) (ofArguments kind args')) (h' : Reads kind args' form') :
    ∃ form built built', Reads kind args form ∧ form.Describes kind built ∧
      form'.Describes kind built' ∧ built.command.Alike built'.command := by
  obtain ⟨built, built', hbuilt, hbuilt', hline⟩ := h
  obtain ⟨other, hother, hdescribes'⟩ := ofArguments_of_reads h'
  cases hbuilt'.symm.trans hother
  cases ofArguments_settled kind args with
  | inl h =>
      obtain ⟨form, other, hother, hreads, hdescribes⟩ := h
      cases hbuilt.symm.trans hother
      exact ⟨form, built, built', hreads, hdescribes, hdescribes', (line_eq_line_iff.mp hline).2⟩
  | inr h =>
      obtain ⟨e, he, -⟩ := h
      cases hbuilt.symm.trans he

theorem Builds.eq_of_texts_eq {w : Value} (h : Builds .color cs v) (hspelled : Spelled .color cs w)
    (htexts : w.texts = v.texts) : w = v := by
  cases h with
  | color h =>
      cases hspelled with
      | color ha hb hc hred hgreen hblue => rw [colorFields_injective htexts]

theorem Reads.group {time time' : Int} {parts : List Argument}
    (h : Reads kind (.int time :: parts) (.static time' v)) : Group kind parts v := by
  generalize hargs : Argument.int time :: parts = args at h
  cases h with
  | static h =>
      cases hargs
      exact h

theorem Reads.pair {front parts : List Argument} {easing easing' : Easing}
    {start finish start' finish' : Int} {first last : Option Value} (hfront : Front front easing)
    (h : Reads kind (front ++ .int start :: .int finish :: parts)
      (.dynamic easing' start' finish' first last)) : Pair kind parts first last := by
  generalize hargs : front ++ .int start :: .int finish :: parts = args at h
  cases h with
  | dynamic hfront' h =>
      cases hfront with
      | absent =>
          cases hfront' with
          | absent =>
              cases hargs
              exact h
          | given e => cases hargs
      | given e =>
          cases hfront' with
          | absent => cases hargs
          | given e' =>
              cases hargs
              exact h

theorem Builds.spelled_of_sameLine_static (h : Builds .color cs v) {time : Int}
    (hline : SameLine (ofArguments .color (.int time :: cs))
      (ofArguments .color [.int time, v.argument])) : Spelled .color cs v := by
  have hwhole : Reads .color [.int time, v.argument] (.static time v) := .static (.whole h.whole)
  obtain ⟨form, built, built', hreads, hdescribes, hdescribes', halike⟩ :=
    exists_forms_of_sameLine hline hwhole
  obtain ⟨-, hstatic, -, -, hfirst, -⟩ := alike_iff.mp halike
  cases form with
  | dynamic easing start finish first last =>
      rw [hdescribes.isStatic, hdescribes'.isStatic] at hstatic
      cases hstatic
  | static time' w =>
      rw [startTexts, startTexts, hdescribes.first, hdescribes'.first] at hfirst
      cases hreads.group with
      | whole hvalue => cases h
      | spelled hspelled =>
          rw [← h.eq_of_texts_eq hspelled hfirst]
          exact hspelled

theorem Builds.spelled_of_sameLine_dynamic (h : Builds .color cs v) (h' : Builds .color cs' v')
    {front : List Argument} {easing : Easing} (hfront : Front front easing) {start finish : Int}
    (hline : SameLine (ofArguments .color (front ++ .int start :: .int finish :: (cs ++ cs')))
      (ofArguments .color (front ++ [.int start, .int finish, v.argument, v'.argument]))) :
    Spelled .color cs v ∧ Spelled .color cs' v' := by
  obtain ⟨form, built, built', hreads, hdescribes, hdescribes', halike⟩ :=
    exists_forms_of_sameLine hline (.dynamic hfront (.wholes h.whole h'.whole))
  obtain ⟨-, hstatic, -, -, hfirst, hlast⟩ := alike_iff.mp halike
  cases form with
  | static time' w =>
      rw [hdescribes.isStatic, hdescribes'.isStatic] at hstatic
      cases hstatic
  | dynamic easing' start' finish' first last =>
      have hpair := hreads.pair hfront
      have hlast := hlast hdescribes.isStatic
      rw [startTexts, startTexts, hdescribes.first, hdescribes'.first] at hfirst
      rw [endTexts, endTexts, hdescribes.last, hdescribes'.last] at hlast
      generalize hparts : cs ++ cs' = parts at hpair
      cases hpair with
      | wholes ha hb =>
          have hlength := congrArg List.length hparts
          rw [List.length_append, h.length_eq, h'.length_eq] at hlength
          cases hlength
      | spelled hleft hright =>
          obtain ⟨rfl, rfl⟩ := List.append_inj hparts (h.length_eq.trans hleft.length_eq.symm)
          rw [← h.eq_of_texts_eq hleft hfirst, ← h'.eq_of_texts_eq hright hlast]
          exact ⟨hleft, hright⟩

end Lines

/--
A value that can be built from components can be given as a whole.  The line is that of the command
with the components in its place, unless the channel of a color changes when its component is
brought to single precision first.  Then the components are refused or give another line.
-/
theorem component_form_compared {kind : Kind} {cs cs' : List Argument} {v v' : Value}
    (hcs : ∀ a ∈ cs, ∃ n, a.IsComponent n) (hcs' : ∀ a ∈ cs', ∃ n, a.IsComponent n)
    (hv : Builds kind cs v) (hv' : Builds kind cs' v') (time start finish : Int)
    {front : List Argument} {easing : Easing} (hfront : Front front easing) :
    ((∃ built, ofArguments kind [.int time, v.argument] = .ok built ∧
        (Form.static time v).Describes kind built) ∧
      ∃ built,
        ofArguments kind (front ++ [.int start, .int finish, v.argument, v'.argument]) = .ok built ∧
        (Form.dynamic easing start finish (some v) (some v')).Describes kind built) ∧
    (SameLine (ofArguments kind (.int time :: cs)) (ofArguments kind [.int time, v.argument]) ↔
      (kind = .color → ∀ a ∈ cs, a.KeepsChannel)) ∧
    (SameLine (ofArguments kind (front ++ .int start :: .int finish :: (cs ++ cs')))
        (ofArguments kind (front ++ [.int start, .int finish, v.argument, v'.argument])) ↔
      (kind = .color → ∀ a ∈ cs ++ cs', a.KeepsChannel)) := by
  have hstatic : Reads kind [.int time, v.argument] (.static time v) := .static (.whole hv.whole)
  have hdynamic : Reads kind (front ++ [.int start, .int finish, v.argument, v'.argument])
      (.dynamic easing start finish (some v) (some v')) :=
    .dynamic hfront (.wholes hv.whole hv'.whole)
  refine ⟨⟨ofArguments_of_reads hstatic, ofArguments_of_reads hdynamic⟩, ?_, ?_⟩
  · constructor
    · intro hline hkind
      subst hkind
      exact hv.keepsChannel (hv.spelled_of_sameLine_static hline)
    · intro hkeep
      exact sameLine_of_reads (.static (.spelled (hv.spelled hcs hkeep))) hstatic
  · constructor
    · intro hline hkind a ha
      subst hkind
      obtain ⟨hspelled, hspelled'⟩ := hv.spelled_of_sameLine_dynamic hv' hfront hline
      cases List.mem_append.mp ha with
      | inl ha => exact hv.keepsChannel hspelled a ha
      | inr ha => exact hv'.keepsChannel hspelled' a ha
    · intro hkeep
      have hspelled := hv.spelled hcs fun hkind a ha =>
        hkeep hkind a (List.mem_append_left cs' ha)
      have hspelled' := hv'.spelled hcs' fun hkind a ha =>
        hkeep hkind a (List.mem_append_right cs ha)
      exact sameLine_of_reads (.dynamic hfront (.spelled hspelled hspelled')) hdynamic

/-- The channels of a sunset lie between integers, but single precision holds them. -/
theorem component_form_of_sunset :
    Builds .color [.int 300, .float 100.5, .int (-1)] (.color ⟨255, 100, 0⟩) ∧
      Builds .color [.int 10, .int 20, .float 30.75] (.color ⟨10, 20, 31⟩) ∧
      SameLine
        (ofArguments .color [.easing .easeOut, .int 0, .int 9000, .int 300, .float 100.5, .int (-1),
          .int 10, .int 20, .float 30.75])
        (ofArguments .color [.easing .easeOut, .int 0, .int 9000, .color ⟨255, 100, 0⟩,
          .color ⟨10, 20, 31⟩]) := by
  have hfirst : Argument.toColor (.int 300) (.float 100.5) (.int (-1)) = .ok ⟨255, 100, 0⟩ := rfl
  have hlast : Argument.toColor (.int 10) (.int 20) (.float 30.75) = .ok ⟨10, 20, 31⟩ := rfl
  have hcs : ∀ a ∈ [Argument.int 300, .float 100.5, .int (-1)], ∃ n, a.IsComponent n := by
    simpa using ⟨⟨_, .int 300⟩, ⟨_, .float _⟩, ⟨_, .int (-1)⟩⟩
  have hcs' : ∀ a ∈ [Argument.int 10, .int 20, .float 30.75], ∃ n, a.IsComponent n := by
    simpa using ⟨⟨_, .int 10⟩, ⟨_, .int 20⟩, ⟨_, .float _⟩⟩
  have hcompared := component_form_compared hcs hcs' (.color hfirst) (.color hlast) 0 0 9000
    (.given .easeOut)
  refine ⟨.color hfirst, .color hlast, hcompared.2.2.mpr ?_⟩
  intro hkind
  have hhalf : (Argument.float 100.5).KeepsChannel :=
    Argument.keepsChannel_of_value_eq (by decide +kernel) (by decide +kernel)
  have hquarter : (Argument.float 30.75).KeepsChannel :=
    Argument.keepsChannel_of_value_eq (by decide +kernel) (by decide +kernel)
  have hint : ∀ n : Int, (Argument.int n).KeepsChannel := fun _ => trivial
  simpa using ⟨hint 300, hhalf, hint (-1), hint 10, hint 20, hquarter⟩

/-- A channel beyond single precision is refused, and one just below a half moves to the next. -/
theorem component_form_moves_channel :
    (Builds .color [.float 1e39, .int 0, .int 0] (.color ⟨255, 0, 0⟩) ∧
      ¬ SameLine (ofArguments .color [.int 0, .float 1e39, .int 0, .int 0])
        (ofArguments .color [.int 0, .color ⟨255, 0, 0⟩])) ∧
    Builds .color [.float 127.49999999, .int 0, .int 0] (.color ⟨127, 0, 0⟩) ∧
      ¬ SameLine (ofArguments .color [.int 0, .float 127.49999999, .int 0, .int 0])
        (ofArguments .color [.int 0, .color ⟨127, 0, 0⟩]) := by
  have hlarge : Builds .color [.float 1e39, .int 0, .int 0] (.color ⟨255, 0, 0⟩) :=
    .color rfl
  have hhalf : Builds .color [.float 127.49999999, .int 0, .int 0] (.color ⟨127, 0, 0⟩) :=
    .color rfl
  refine ⟨⟨hlarge, ?_⟩, hhalf, ?_⟩
  · intro hline
    have hkeep := hlarge.keepsChannel (hlarge.spelled_of_sameLine_static hline)
    have hinfinite : ((1e39 : Double).convert .single).isFinite = false := by decide +kernel
    cases hinfinite.symm.trans (hkeep (.float 1e39) List.mem_cons_self).1
  · intro hline
    have hkeep := hhalf.keepsChannel (hhalf.spelled_of_sameLine_static hline)
    have hnarrow : ((127.49999999 : Double).convert .single).value = ((127 : Nat) : ℚ) + 1 / 2 := by
      decide +kernel
    have hbelow : ¬ ((127 : Nat) : ℚ) + 1 / 2 ≤ (127.49999999 : Double).value := by decide +kernel
    exact hbelow ((hkeep (.float 127.49999999) List.mem_cons_self).2 127 (by decide) hnarrow)

end Command
end Storyboard
