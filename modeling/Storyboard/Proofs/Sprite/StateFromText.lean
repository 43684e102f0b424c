import Mathlib
import Storyboard.Proofs.Command.Agreement
import Storyboard.Proofs.Sprite.Governing
import Storyboard.Proofs.Sprite.Reading
import Storyboard.Proofs.Sprite.Span

/-!
# The state of a sprite and its text

A sprite looks at every time as its text says, with two exceptions.  A line that was added again
after another one of its kind and time is written once, and a number may be written like another
number that is only close to it.  Where neither happens, sprites with one text look alike at every
time.
-/

namespace Storyboard

/-- The states show the same; numbers count as the same if they have the same value. -/
structure SpriteState.LooksLike (a b : SpriteState) : Prop where
  time : a.time = b.time
  position : a.position.SameValue b.position
  opacity : a.opacity = b.opacity
  rotation : a.rotation = b.rotation
  scale : a.scale = b.scale
  color : a.color = b.color
  hflip : a.hflip = b.hflip
  vflip : a.vflip = b.vflip
  additive : a.additive = b.additive
  visible : a.isVisible = b.isVisible

namespace Sprite

/-- The numbers that a text writes for the position and the values. -/
def numbers (s : Sprite) (added : List Cue) : List Number :=
  s.position.x :: s.position.y :: added.flatMap fun cue => cue.command.numbers

/-- Two sprites with one text, of which neither has lines that come back. -/
structure Agree (depths depths' : Depths) (s s' : Sprite) (added added' : List Cue) : Prop where
  records : s.Records added
  records' : s'.Records added'
  stay : LinesStay depths added
  stay' : LinesStay depths' added'
  read : Number.ReadAlike (s.numbers added) (s'.numbers added')
  text : s.text depths = s'.text depths'

section Agree

variable {depths depths' : Depths} {s s' : Sprite} {added added' : List Cue}

theorem Agree.position (h : Agree depths depths' s s' added added') :
    s.position.SameValue s'.position := by
  have hplacing := (h.records.eq_of_text_eq h.records' h.text).1
  unfold placing at hplacing
  obtain ⟨hx, hrest⟩ := List.cons.inj hplacing
  obtain ⟨hy, -⟩ := List.cons.inj hrest
  constructor
  · exact h.read s.position.x (by simp [numbers]) s'.position.x (by simp [numbers]) hx
  · exact h.read s.position.y (by simp [numbers]) s'.position.y (by simp [numbers]) hy

theorem Agree.events (h : Agree depths depths' s s' added added') (kind : Kind) :
    List.Forall₂ (SameLine depths depths') (s.events depths kind) (s'.events depths' kind) := by
  have hbody := (h.records.eq_of_text_eq h.records' h.text).2
  apply forall₂_sameLine
  rw [h.records.map_line_events, h.records'.map_line_events,
    linesInOrder_eq_of_bodyLines_eq hbody]

theorem within_of_bodyLines_eq (h : bodyLines depths added = bodyLines depths' added') :
    Span.Within added added' := by
  intro cue hcue
  have hline : cue.line depths ∈ bodyLines depths' added' := by
    rw [← h]
    exact mem_bodyLines.mpr ⟨cue, hcue, rfl⟩
  obtain ⟨other, hother, hsame⟩ := mem_bodyLines.mp hline
  have halike := Cue.alike_of_line_eq hsame
  exact ⟨other, hother, halike.low, halike.high⟩

theorem Agree.span_eq (h : Agree depths depths' s s' added added') (hspans : s.Spans added)
    (hspans' : s'.Spans added') : s.span = s'.span := by
  have hbody := (h.records.eq_of_text_eq h.records' h.text).2
  exact hspans.span_eq hspans' (within_of_bodyLines_eq hbody) (within_of_bodyLines_eq hbody.symm)

theorem numbers_subset {cue : Cue} (hcue : cue ∈ added) :
    cue.command.numbers ⊆ s.numbers added := by
  intro n hn
  unfold numbers
  exact List.mem_cons_of_mem _ (List.mem_cons_of_mem _ (List.mem_flatMap.mpr ⟨cue, hcue, hn⟩))

theorem Agree.governing (h : Agree depths depths' s s' added added') (kind : Kind) (time : Int) :
    Option.Rel (SameLine depths depths') (s.governing depths kind time)
      (s'.governing depths' kind time) := by
  apply map_line_eq_iff.mp
  rw [h.records.line_governing h.stay, h.records'.line_governing h.stay']
  exact map_line_eq_iff.mpr (rel_deciding (h.events kind) time)

theorem Agree.sample (h : Agree depths depths' s s' added added') (kind : Kind) (time : Int) :
    SameOutcome (Option.Rel Sample.SameValue) (s.sample depths kind time)
      (s'.sample depths' kind time) := by
  have hgoverning := h.governing kind time
  unfold Sprite.sample
  cases hcue : s.governing depths kind time with
  | none =>
      rw [hcue] at hgoverning
      generalize s'.governing depths' kind time = found at hgoverning ⊢
      cases hgoverning with
      | none => exact .done .none
  | some cue =>
      cases hcue' : s'.governing depths' kind time with
      | none =>
          rw [hcue, hcue'] at hgoverning
          cases hgoverning
      | some cue' =>
          rw [hcue, hcue'] at hgoverning
          cases hgoverning with
          | some hline =>
              apply hline.alike.sample
              intro m hm n hn
              exact h.read m (numbers_subset (h.records.mem_of_governing hcue) hm) n
                (numbers_subset (h.records'.mem_of_governing hcue') hn)

theorem Agree.isOn_eq (h : Agree depths depths' s s' added added') (flag : Flag) (time : Int) :
    s.isOn flag time = s'.isOn flag time := by
  have hactive := forall₂_filter_isActiveAt (h.events (.flag flag)) time
  have hlength := hactive.length_eq
  have hnil : activeCues added (.flag flag) time = [] ↔
      activeCues added' (.flag flag) time = [] := by
    rw [h.records.activeCues_eq_nil_iff, h.records'.activeCues_eq_nil_iff,
      ← List.length_eq_zero_iff, ← List.length_eq_zero_iff, hlength]
  unfold isOn
  rw [h.records.get_timeline, h.records'.get_timeline]
  congr 1
  rw [Bool.eq_iff_iff, List.isEmpty_iff, List.isEmpty_iff]
  exact hnil

/-! ## The properties -/

theorem Agree.level (h : Agree depths depths' s s' added added') (property : ScalarProperty)
    (time : Int) :
    SameOutcome (Option.Rel Level.SameValue) (s.level depths property time)
      (s'.level depths' property time) := by
  refine (h.sample (.scalar property) time).bind fun a b hab => ?_
  exact .done (Sample.SameValue.rel_bind (fun _ _ hsample => hsample.level?) hab)

theorem Agree.vector (h : Agree depths depths' s s' added added') (property : VectorProperty)
    (time : Int) :
    SameOutcome (Option.Rel Vec2.SameValue) (s.vector depths property time)
      (s'.vector depths' property time) := by
  refine (h.sample (.vector property) time).bind fun a b hab => ?_
  exact .done (Sample.SameValue.rel_bind (fun _ _ hsample => hsample.vec2?) hab)

theorem Agree.tint_eq (h : Agree depths depths' s s' added added') (time : Int) :
    s.tint depths time = s'.tint depths' time := by
  apply SameOutcome.eq
  refine (h.sample .color time).bind fun a b hab => ?_
  cases hab with
  | none => exact .done rfl
  | some hsample => exact .done hsample.color?_eq

theorem Agree.doubleAt_eq (h : Agree depths depths' s s' added added') (property : ScalarProperty)
    (default : Double) (time : Int) :
    s.doubleAt depths property default time = s'.doubleAt depths' property default time := by
  apply SameOutcome.eq
  refine (h.level property time).bind fun a b hab => ?_
  cases hab with
  | none => exact .done rfl
  | some hlevel => exact .of_eq (fun _ => rfl) hlevel.toDouble_eq

theorem Agree.scaleAt_eq (h : Agree depths depths' s s' added added') (time : Int) :
    s.scaleAt depths time = s'.scaleAt depths' time := by
  unfold scaleAt
  rw [h.doubleAt_eq]
  apply SameOutcome.eq
  refine (SameOutcome.of_eq (fun _ => rfl) rfl).bind ?_
  rintro factor _ rfl
  refine (h.vector .scaleVec time).bind fun a b hab => ?_
  have haxes := rel_getD hab (Vec2.SameValue.refl ⟨1, 1⟩)
  simp only [haxes.x.toDouble_eq, haxes.y.toDouble_eq]
  exact .of_eq (fun _ => rfl) rfl

theorem Agree.positionAt (h : Agree depths depths' s s' added added') (time : Int) :
    SameOutcome Vec2.SameValue (s.positionAt depths time) (s'.positionAt depths' time) := by
  refine (h.vector .move time).bind fun v v' hv => ?_
  refine (h.level .moveX time).bind fun x x' hx => ?_
  refine (h.level .moveY time).bind fun y y' hy => ?_
  have hboth := rel_getD hv h.position
  have hnumber : ∀ {l l' : Option Level}, Option.Rel Level.SameValue l l' →
      Option.Rel Number.SameValue (l.map Level.toNumber) (l'.map Level.toNumber) := by
    intro l l' hl
    cases hl with
    | none => exact .none
    | some hlevel => exact .some hlevel.toNumber
  exact .done ⟨rel_getD (hnumber hx) hboth.x, rel_getD (hnumber hy) hboth.y⟩

theorem Agree.stateAt (h : Agree depths depths' s s' added added') (hspans : s.Spans added)
    (hspans' : s'.Spans added') (time : Int) :
    SameOutcome (Option.Rel SpriteState.LooksLike) (s.stateAt depths time)
      (s'.stateAt depths' time) := by
  unfold Sprite.stateAt
  rw [h.span_eq hspans hspans']
  cases s'.span with
  | none => exact .done .none
  | some span =>
      by_cases hshown : span.first ≤ time ∧ time ≤ span.last
      · simp only [if_pos hshown, h.doubleAt_eq, h.scaleAt_eq, h.tint_eq, h.isOn_eq]
        refine (h.positionAt time).bind fun position position' hposition => ?_
        refine (SameOutcome.of_eq (fun _ => rfl) rfl).bind ?_
        rintro opacity _ rfl
        refine (SameOutcome.of_eq (fun _ => rfl) rfl).bind ?_
        rintro rotation _ rfl
        refine (SameOutcome.of_eq (fun _ => rfl) rfl).bind ?_
        rintro scale _ rfl
        refine (SameOutcome.of_eq (fun _ => rfl) rfl).bind ?_
        rintro color _ rfl
        exact .done (.some ⟨rfl, hposition, rfl, rfl, rfl, rfl, rfl, rfl, rfl, rfl⟩)
      · simp only [if_neg hshown]
        exact .done .none

end Agree

/-! ## Main result -/

/--
Sprites with one text look alike at every time, as long as their depths for new commands are not
negative, numbers that are written alike have the same value, and no line comes back.
-/
theorem looksLike_of_text_eq (steps steps' : List Board.Step) (i i' : Nat) (s s' : Sprite)
    (h : (Board.empty.run steps).sprites[i]? = some s)
    (h' : (Board.empty.run steps').sprites[i']? = some s')
    (hdepth : ∀ step ∈ steps, step.KeepsDepth i) (hdepth' : ∀ step ∈ steps', step.KeepsDepth i')
    (hstay : LinesStay (Board.empty.run steps).depths (Board.added steps i))
    (hstay' : LinesStay (Board.empty.run steps').depths (Board.added steps' i'))
    (hread : Number.ReadAlike (s.numbers (Board.added steps i))
      (s'.numbers (Board.added steps' i')))
    (htext : s.text (Board.empty.run steps).depths = s'.text (Board.empty.run steps').depths)
    (time : Int) :
    SameOutcome (Option.Rel SpriteState.LooksLike)
      (s.stateAt (Board.empty.run steps).depths time)
      (s'.stateAt (Board.empty.run steps').depths time) := by
  have hagree : Agree (Board.empty.run steps).depths (Board.empty.run steps').depths s s'
      (Board.added steps i) (Board.added steps' i') :=
    { records := Board.records_of_run h
      records' := Board.records_of_run h'
      stay := hstay
      stay' := hstay'
      read := hread
      text := htext }
  exact hagree.stateAt (Board.spans_of_run h hdepth) (Board.spans_of_run h' hdepth') time

def star : Figure :=
  { path := "star.png"
    origin := .centre
    position := Figure.defaultPosition
    animation := none }

def fade (first last : Number) : Command.Built :=
  { command := { start := 0, easing := .linear, effect := .scalar .fade (.change 1000 first last) }
    depth := 0 }

/-- A star that fades in and out; the command that fades it in is added twice. -/
def fadedInTwice : List Board.Step :=
  [.sprite star, .currentDepth 0 2, .issue 0 (fade 0 1), .attach 0 0, .issue 0 (fade 1 0)]

/-- The same star, with numbers that are no integers. -/
def fadedIn : List Board.Step :=
  [.sprite star, .currentDepth 0 2, .issue 0 (fade (.ofDouble 0) (.ofDouble 1)),
    .issue 0 (fade 1 0)]

theorem looksLike_of_fades :
    ∃ s s' : Sprite, (Board.empty.run fadedInTwice).sprites[0]? = some s ∧
      (Board.empty.run fadedIn).sprites[0]? = some s' ∧
      (∀ step ∈ fadedInTwice, step.KeepsDepth 0) ∧ (∀ step ∈ fadedIn, step.KeepsDepth 0) ∧
      LinesStay (Board.empty.run fadedInTwice).depths (Board.added fadedInTwice 0) ∧
      LinesStay (Board.empty.run fadedIn).depths (Board.added fadedIn 0) ∧
      Number.ReadAlike (s.numbers (Board.added fadedInTwice 0))
        (s'.numbers (Board.added fadedIn 0)) ∧
      s.text (Board.empty.run fadedInTwice).depths = s'.text (Board.empty.run fadedIn).depths ∧
      SameOutcome (Option.Rel SpriteState.LooksLike)
        (s.stateAt (Board.empty.run fadedInTwice).depths 250)
        (s'.stateAt (Board.empty.run fadedIn).depths 250) := by
  have hdepth : ∀ step ∈ fadedInTwice, step.KeepsDepth 0 := by
    rintro step hstep depth rfl
    simp [fadedInTwice] at hstep
    omega
  have hdepth' : ∀ step ∈ fadedIn, step.KeepsDepth 0 := by
    rintro step hstep depth rfl
    simp [fadedIn] at hstep
    omega
  have hstay : LinesStay (Board.empty.run fadedInTwice).depths (Board.added fadedInTwice 0) := by
    intro a b c hsub _ _ _
    cases hsub.eq_of_length rfl
    rfl
  have hstay' : LinesStay (Board.empty.run fadedIn).depths (Board.added fadedIn 0) := by
    intro a b c hsub _ _ _
    have hlength : 3 ≤ 2 := hsub.length_le
    omega
  refine ⟨_, _, rfl, rfl, hdepth, hdepth', hstay, hstay', by decide +kernel, by decide +kernel, ?_⟩
  exact looksLike_of_text_eq fadedInTwice fadedIn 0 0 _ _ rfl rfl hdepth hdepth' hstay hstay'
    (by decide +kernel) (by decide +kernel) 250

def moveTo (sprite : Nat) (x y : Number) : Board.Step :=
  .issue sprite
    { command := { start := 0, easing := .linear, effect := .vector .move (.hold ⟨x, y⟩ none) }
      depth := 0 }

def turnTo (sprite : Nat) (angle : Number) : Board.Step :=
  .issue sprite
    { command := { start := 0, easing := .linear, effect := .scalar .rotate (.hold angle none) }
      depth := 0 }

/-- Two stars that are moved to two places; the first one is then moved back. -/
def movedBack : List Board.Step :=
  [.sprite star, .sprite star, moveTo 0 1 1, moveTo 0 2 2, moveTo 0 1 1, moveTo 1 1 1, moveTo 1 2 2]

/-- Two stars that are turned by an integer, and by the single-precision number next to it. -/
def turnedFar : List Board.Step :=
  [.sprite star, .sprite star, turnTo 0 123456790, turnTo 1 (.ofDouble 123456790)]

/-- Lines that come back, and numbers that are only close, make the state more than the text. -/
theorem text_leaves_state_open :
    ((∀ i, ∀ step ∈ movedBack, step.KeepsDepth i) ∧
      ∃ s s' : Sprite, (Board.empty.run movedBack).sprites[0]? = some s ∧
      (Board.empty.run movedBack).sprites[1]? = some s' ∧
      s.text (Board.empty.run movedBack).depths = s'.text (Board.empty.run movedBack).depths ∧
      ¬ SameOutcome (Option.Rel SpriteState.LooksLike)
        (s.stateAt (Board.empty.run movedBack).depths 0)
        (s'.stateAt (Board.empty.run movedBack).depths 0)) ∧
    ((∀ i, ∀ step ∈ turnedFar, step.KeepsDepth i) ∧
      ∃ s s' : Sprite, (Board.empty.run turnedFar).sprites[0]? = some s ∧
      (Board.empty.run turnedFar).sprites[1]? = some s' ∧
      s.text (Board.empty.run turnedFar).depths = s'.text (Board.empty.run turnedFar).depths ∧
      ¬ SameOutcome (Option.Rel SpriteState.LooksLike)
        (s.stateAt (Board.empty.run turnedFar).depths 0)
        (s'.stateAt (Board.empty.run turnedFar).depths 0)) := by
  constructor
  · refine ⟨?_, _, _, Array.getElem?_eq_getElem (by decide +kernel),
      Array.getElem?_eq_getElem (by decide +kernel), by decide +kernel, ?_⟩
    · rintro i step hstep depth rfl
      simp [movedBack, moveTo] at hstep
    intro h
    have hposition := h.map_eq fun _ _ hlike => hlike.position.x.toDouble_eq
    revert hposition
    decide +kernel
  · refine ⟨?_, _, _, Array.getElem?_eq_getElem (by decide +kernel),
      Array.getElem?_eq_getElem (by decide +kernel), by decide +kernel, ?_⟩
    · rintro i step hstep depth rfl
      simp [turnedFar, turnTo] at hstep
    intro h
    have hrotation := h.map_eq fun _ _ hlike => hlike.rotation
    revert hrotation
    decide +kernel

end Sprite
end Storyboard
