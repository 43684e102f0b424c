import Mathlib
import Storyboard.Proofs.Sprite.Selection

/-!
# Commands that are over

A command that is over keeps its value until another one of its kind begins.  This takes two rules
that have nothing in common to agree: while commands are active, the one that started last decides,
and afterwards the one that ended last.  They agree because the commands that are active right
before a gap all end where it begins, and no other command ends as late.  Among these the written
commands are in the order of their starts, so that the last of them is the one that decided before.
-/

namespace Storyboard

/-! ## The value at the end -/

/-- A value as it is sampled when a command holds it. -/
def Value.held : Value → Sample
  | .number n => .level (.number n)
  | .vec2 v => .vec2 v
  | .color c => .color c

theorem Action.moment_of_le {α : Type} {start finish time : Int} (easing : Easing) (first last : α)
    (hstart : start ≤ time) (hfinish : finish ≤ time) :
    (Action.change finish first last).moment start easing time = .ok (.at last) := by
  by_cases hback : finish ≤ start
  · simp only [Action.moment, if_pos hback, if_pos hstart]
  · -- The command runs forwards, so its start lies before the time.
    have hlater : ¬ time ≤ start := by omega
    simp only [Action.moment, if_neg hback, if_neg hlater, if_pos hfinish]

namespace Command

theorem start_le_high (c : Command) : c.start ≤ c.high :=
  le_max_left _ _

theorem finish_le_high (c : Command) : c.finish ≤ c.high :=
  le_max_right _ _

/-- A command that is over has the value at its end, unless it is a flag or of a single time. -/
theorem sample_of_high_le {c : Command} {time : Int} (hkind : ∀ flag, c.kind ≠ .flag flag)
    (hne : c.start ≠ c.finish) (hle : c.high ≤ time) :
    ∃ value, c.endValue? = some value ∧ c.sample time = .ok (some value.held) := by
  have hstart := c.start_le_high.trans hle
  have hfinish := c.finish_le_high.trans hle
  rcases c with ⟨start, easing, effect⟩
  cases effect with
  | scalar property action =>
      cases action with
      | hold value spare => exact absurd rfl hne
      | change finish first last =>
          have hmoment : (Action.change finish first last).moment start easing time =
              .ok (.at last) := Action.moment_of_le easing first last hstart hfinish
          refine ⟨.number last, rfl, ?_⟩
          simp only [sample, hmoment]
          rfl
  | vector property action =>
      cases action with
      | hold value spare => exact absurd rfl hne
      | change finish first last =>
          have hmoment : (Action.change finish first last).moment start easing time =
              .ok (.at last) := Action.moment_of_le easing first last hstart hfinish
          refine ⟨.vec2 last, rfl, ?_⟩
          simp only [sample, hmoment]
          rfl
  | color action =>
      cases action with
      | hold value spare => exact absurd rfl hne
      | change finish first last =>
          have hmoment : (Action.change finish first last).moment start easing time =
              .ok (.at last) := Action.moment_of_le easing first last hstart hfinish
          refine ⟨.color last, rfl, ?_⟩
          simp only [sample, hmoment]
          rfl
  | flag switch finish => exact absurd rfl (hkind switch)

theorem isActiveAt_iff_of_ne {c : Command} (hne : c.start ≠ c.finish) (time : Int) :
    c.IsActiveAt time ↔ c.low ≤ time ∧ time < c.high := by
  unfold IsActiveAt stop low high
  split
  · omega
  · rfl

theorem low_lt_high {c : Command} (hne : c.start ≠ c.finish) : c.low < c.high := by
  unfold low high
  omega

theorem isActiveAt_iff_of_gap {c : Command} (hne : c.start ≠ c.finish) {before after : Int}
    (hlt : before < after) (hgap : ∀ time, before < time → time ≤ after → ¬ c.IsActiveAt time) :
    c.IsActiveAt before ↔ c.high ≤ after ∧ c.high = before + 1 := by
  have hless := low_lt_high hne
  have hnext := hgap (before + 1) (by omega) (by omega)
  rw [isActiveAt_iff_of_ne hne] at hnext ⊢
  omega

theorem high_le_of_gap {c : Command} (hne : c.start ≠ c.finish) {before after : Int}
    (hlt : before < after) (hgap : ∀ time, before < time → time ≤ after → ¬ c.IsActiveAt time)
    (hover : c.high ≤ after) : c.high ≤ before + 1 := by
  have hless := low_lt_high hne
  by_cases hstarts : c.low ≤ before
  · have hnext := hgap (before + 1) (by omega) (by omega)
    rw [isActiveAt_iff_of_ne hne] at hnext
    omega
  · -- It would begin within the gap and be active there.
    have hbegins := hgap c.low (by omega) (by omega)
    rw [isActiveAt_iff_of_ne hne] at hbegins
    omega

end Command

/-! ## Before and after a gap -/

namespace Sprite

section Gap

variable {s : Sprite} {added : List Cue} {depths : Depths} {kind : Kind}

theorem mem_activeCues_iff {time : Int} {cue : Cue} :
    cue ∈ activeCues added kind time ↔
      cue ∈ added ∧ cue.command.kind = kind ∧ cue.command.IsActiveAt time := by
  rw [activeCues, List.mem_filter, List.mem_filter, decide_eq_true_eq, decide_eq_true_eq, and_assoc]

theorem not_isActiveAt_of_eq_nil {time : Int} {cue : Cue} (h : activeCues added kind time = [])
    (hcue : cue ∈ added) (hkind : cue.command.kind = kind) : ¬ cue.command.IsActiveAt time := by
  intro hat
  have hmem : cue ∈ activeCues added kind time := mem_activeCues_iff.mpr ⟨hcue, hkind, hat⟩
  rw [h] at hmem
  cases hmem

/-- If no line comes twice, the last written command that is active is the one that decides. -/
theorem Records.getLast?_filter_isActiveAt (h : s.Records added)
    (hlines : ((added.filter fun cue => cue.command.kind = kind).map (Cue.line depths)).Nodup)
    (time : Int) :
    ((s.events depths kind).filter fun cue => cue.command.IsActiveAt time).getLast? =
      lastMaxBy (·.command.low) (activeCues added kind time) := by
  rw [← lastMaxBy_of_pairwise (h.pairwise_events.sublist List.filter_sublist)]
  apply lastMaxBy_eq_of_filter_eq
  intro low
  rw [h.filter_low]
  apply firstsBy_eq_self
  exact hlines.sublist ((List.filter_sublist.trans List.filter_sublist).map _)

theorem Records.governing_eq_of_gap (h : s.Records added)
    (hranges : ∀ cue ∈ added, cue.command.kind = kind → cue.command.start ≠ cue.command.finish)
    (hlines : ((added.filter fun cue => cue.command.kind = kind).map (Cue.line depths)).Nodup)
    {before after : Int} (hlt : before < after) (hactive : activeCues added kind before ≠ [])
    (hgap : ∀ time, before < time → time ≤ after → activeCues added kind time = []) :
    ∃ cue ∈ activeCues added kind before, s.governing depths kind before = some cue ∧
      s.governing depths kind after = some cue := by
  have hidle : ∀ cue ∈ added, cue.command.kind = kind → ∀ time, before < time → time ≤ after →
      ¬ cue.command.IsActiveAt time := by
    intro cue hcue hkind time hafter hbefore
    exact not_isActiveAt_of_eq_nil (hgap time hafter hbefore) hcue hkind
  obtain ⟨chosen, hchosen, -⟩ : ∃ cue, lastMaxBy (·.command.low) (activeCues added kind before) =
      some cue ∧ IsLastGreatest (·.command.low) (activeCues added kind before) cue :=
    exists_lastMaxBy hactive
  have hmem := mem_of_lastMaxBy hchosen
  obtain ⟨hadded, hkind, hat⟩ := mem_activeCues_iff.mp hmem
  have hends : chosen.command.high ≤ after ∧ chosen.command.high = before + 1 :=
    (Command.isActiveAt_iff_of_gap (hranges chosen hadded hkind) hlt (hidle chosen hadded hkind)).mp
      hat
  -- What ends with the chosen command is what was active with it.
  have hsame : ((s.events depths kind).filter fun cue => cue.command.high ≤ after).filter
      (fun cue => cue.command.high = chosen.command.high) =
        (s.events depths kind).filter fun cue => cue.command.IsActiveAt before := by
    rw [List.filter_filter]
    apply List.filter_congr
    intro cue hcue
    have hcueAdded := h.mem_of_mem_events hcue
    have hcueKind := h.kind_of_mem_events hcue
    rw [← Bool.decide_and, decide_eq_decide, hends.2, and_comm]
    exact (Command.isActiveAt_iff_of_gap (hranges cue hcueAdded hcueKind) hlt
      (hidle cue hcueAdded hcueKind)).symm
  have hlast : lastMaxBy (·.command.high)
      ((s.events depths kind).filter fun cue => cue.command.high ≤ after) = some chosen := by
    rw [lastMaxBy_eq_some_iff]
    constructor
    · intro cue hcue
      obtain ⟨hwritten, hover⟩ := List.mem_filter.mp hcue
      have hcueAdded := h.mem_of_mem_events hwritten
      have hcueKind := h.kind_of_mem_events hwritten
      rw [hends.2]
      exact Command.high_le_of_gap (hranges cue hcueAdded hcueKind) hlt
        (hidle cue hcueAdded hcueKind) (of_decide_eq_true hover)
    · rw [hsame, h.getLast?_filter_isActiveAt hlines]
      exact hchosen
  refine ⟨chosen, hmem, ?_, ?_⟩
  · rw [h.governing_of_ne_nil hactive]
    exact hchosen
  · have hnil := hgap after hlt le_rfl
    have hne : (s.events depths kind).filter (fun cue => cue.command.high ≤ after) ≠ [] := by
      intro hnone
      rw [hnone] at hlast
      cases hlast
    rw [h.governing_of_eq_nil hnil, deciding_of_finished (h.activeCues_eq_nil_iff.mp hnil) hne]
    exact hlast

end Gap

/-! ## Main result -/

/--
Let the commands of a kind with values all have two different times and different lines.  When some
are active at a time and none is from then until a later time, then the same command decides at both
times, and what is sampled at the later one is the value at its end.
-/
theorem governing_holds_over_gap (steps : List Board.Step) (i : Nat) (s : Sprite)
    (h : (Board.empty.run steps).sprites[i]? = some s) (kind : Kind)
    (hkind : ∀ flag, kind ≠ .flag flag)
    (hranges : ∀ cue ∈ Board.added steps i, cue.command.kind = kind →
      cue.command.isStatic = false ∧ cue.command.start ≠ cue.command.finish)
    (hlines : (((Board.added steps i).filter fun cue => cue.command.kind = kind).map
      (Cue.line (Board.empty.run steps).depths)).Nodup)
    (before after : Int) (hlt : before < after) (hactive : (s.timeline kind).get before ≠ [])
    (hgap : ∀ time, before < time → time ≤ after → (s.timeline kind).get time = []) :
    ∃ cue value, s.governing (Board.empty.run steps).depths kind before = some cue ∧
      s.governing (Board.empty.run steps).depths kind after = some cue ∧
      cue.command.endValue? = some value ∧
      s.sample (Board.empty.run steps).depths kind after = .ok (some value.held) := by
  have hrecords := Board.records_of_run h
  have htimes : ∀ cue ∈ Board.added steps i, cue.command.kind = kind →
      cue.command.start ≠ cue.command.finish := fun cue hcue hk => (hranges cue hcue hk).2
  simp only [hrecords.get_timeline] at hactive hgap
  obtain ⟨cue, hcue, hbefore, hafter⟩ :=
    hrecords.governing_eq_of_gap htimes hlines hlt hactive hgap
  obtain ⟨hadded, hcueKind, hat⟩ := mem_activeCues_iff.mp hcue
  have hidle : ∀ time, before < time → time ≤ after → ¬ cue.command.IsActiveAt time := by
    intro time hlater hearlier
    exact not_isActiveAt_of_eq_nil (hgap time hlater hearlier) hadded hcueKind
  have hover : cue.command.high ≤ after :=
    ((Command.isActiveAt_iff_of_gap (htimes cue hadded hcueKind) hlt hidle).mp hat).1
  have hvalued : ∀ flag, cue.command.kind ≠ .flag flag := fun flag => by
    rw [hcueKind]
    exact hkind flag
  obtain ⟨value, hvalue, hsample⟩ :=
    Command.sample_of_high_le hvalued (htimes cue hadded hcueKind) hover
  refine ⟨cue, value, hbefore, hafter, hvalue, ?_⟩
  unfold Sprite.sample
  rw [hafter]
  exact hsample

/-- Three fades that end together, one of them backwards, one that ends before, and a later one. -/
def endingTogether : List Board.Step :=
  [.sprite ⟨"star.png", .centre, Figure.defaultPosition, none⟩,
    .issue 0 ⟨⟨6, .linear, .scalar .fade (.change 2 0 1)⟩, 0⟩,
    .issue 0 ⟨⟨2, .linear, .scalar .fade (.change 6 1 0)⟩, 0⟩,
    .issue 0 ⟨⟨0, .linear, .scalar .fade (.change 6 0 1)⟩, 0⟩,
    .issue 0 ⟨⟨3, .linear, .scalar .fade (.change 5 1 0)⟩, 0⟩,
    .issue 0 ⟨⟨9, .linear, .scalar .fade (.change 12 0 1)⟩, 0⟩]

theorem governing_of_endingTogether :
    ∃ s : Sprite, (Board.empty.run endingTogether).sprites[0]? = some s ∧
      (∀ flag, Kind.scalar .fade ≠ .flag flag) ∧
      (∀ cue ∈ Board.added endingTogether 0, cue.command.kind = .scalar .fade →
        cue.command.isStatic = false ∧ cue.command.start ≠ cue.command.finish) ∧
      (((Board.added endingTogether 0).filter fun cue => cue.command.kind = .scalar .fade).map
        (Cue.line (Board.empty.run endingTogether).depths)).Nodup ∧
      (s.timeline (.scalar .fade)).get 5 ≠ [] ∧
      (∀ time, 5 < time → time ≤ 8 → (s.timeline (.scalar .fade)).get time = []) ∧
      ∃ cue value,
        s.governing (Board.empty.run endingTogether).depths (.scalar .fade) 5 = some cue ∧
          s.governing (Board.empty.run endingTogether).depths (.scalar .fade) 8 = some cue ∧
          cue.command.endValue? = some value ∧
          s.sample (Board.empty.run endingTogether).depths (.scalar .fade) 8 =
            .ok (some value.held) := by
  refine ⟨_, rfl, ?kind, ?ranges, ?lines, ?active, ?gap, governing_holds_over_gap endingTogether 0 _
    rfl (.scalar .fade) ?kind ?ranges ?lines 5 8 (by decide) ?active ?gap⟩
  case kind =>
    intro flag hflag
    cases hflag
  case ranges => decide +kernel
  case lines => decide +kernel
  case active => decide +kernel
  case gap =>
    intro time hafter hbefore
    interval_cases time
    · decide +kernel
    · decide +kernel
    · decide +kernel

end Sprite
end Storyboard
