import Mathlib
import Storyboard.Proofs.Sprite.Governing

/-!
# The rule of the three stages

The command that decides at a time is looked up in two places.  The timeline has the commands that
are active, as often as they were added; the list of written commands has every line once, in the
order of the earlier times.  Seen from what was added to the sprite, the two make one rule.  While
commands are active, the one that started last decides.  Between commands it is the one that ended
last, and before all of them the one that starts first.

Ties go to the last command in the first two stages and to the first one in the third.  The third
stage is about the written commands, but the first of these is the first of all that were added.
-/

namespace Storyboard

/-! ## Extremes without a search -/

section Extremes

variable {α : Type} {key : α → Int}

/-- The item is the last one with the greatest key. -/
def IsLastGreatest (key : α → Int) (items : List α) (a : α) : Prop :=
  (∀ b ∈ items, key b ≤ key a) ∧ (items.filter fun b => key b = key a).getLast? = some a

/-- The item is the first one with the least key. -/
def IsFirstLeast (key : α → Int) (items : List α) (a : α) : Prop :=
  (∀ b ∈ items, key a ≤ key b) ∧ (items.filter fun b => key b = key a).head? = some a

theorem exists_lastMaxBy {items : List α} (h : items ≠ []) :
    ∃ a, lastMaxBy key items = some a ∧ IsLastGreatest key items a := by
  cases hfound : lastMaxBy key items with
  | none => exact absurd (lastMaxBy_eq_none_iff.mp hfound) h
  | some a => exact ⟨a, rfl, lastMaxBy_spec hfound⟩

theorem firstMinBy_eq_none_iff {items : List α} : firstMinBy key items = none ↔ items = [] := by
  cases items with
  | nil => simp [firstMinBy]
  | cons a rest =>
      unfold firstMinBy
      cases firstMinBy key rest with
      | none => simp
      | some b =>
          by_cases hlt : key b < key a
          · simp [hlt]
          · simp [hlt]

theorem firstMinBy_spec {items : List α} {a : α} (h : firstMinBy key items = some a) :
    IsFirstLeast key items a := by
  induction items generalizing a with
  | nil => cases h
  | cons c rest ih =>
      unfold firstMinBy at h
      cases hrest : firstMinBy key rest with
      | none =>
          rw [hrest] at h
          cases h
          rw [firstMinBy_eq_none_iff.mp hrest]
          simp [IsFirstLeast]
      | some b =>
          obtain ⟨hle, hfirst⟩ := ih hrest
          rw [hrest] at h
          by_cases hlt : key b < key c
          · simp only [hlt, if_true] at h
            cases h
            constructor
            · intro d hd
              rcases List.mem_cons.mp hd with rfl | hd
              · exact hlt.le
              · exact hle d hd
            · rw [List.filter_cons_of_neg (by simpa using hlt.ne')]
              exact hfirst
          · simp only [hlt, if_false] at h
            cases h
            constructor
            · intro d hd
              rcases List.mem_cons.mp hd with rfl | hd
              · exact le_rfl
              · exact (not_lt.mp hlt).trans (hle d hd)
            · simp

theorem firstMinBy_eq_some_iff {items : List α} {a : α} :
    firstMinBy key items = some a ↔ IsFirstLeast key items a := by
  constructor
  · exact firstMinBy_spec
  · rintro ⟨hle, hfirst⟩
    have hmem : a ∈ items := List.mem_of_mem_filter (List.mem_of_head? hfirst)
    cases hfound : firstMinBy key items with
    | none =>
        rw [firstMinBy_eq_none_iff.mp hfound] at hmem
        cases hmem
    | some c =>
        obtain ⟨hle', hfirst'⟩ := firstMinBy_spec hfound
        have hkey : key c = key a := le_antisymm (hle' a hmem) (hle c (mem_of_firstMinBy hfound))
        rw [hkey, hfirst] at hfirst'
        exact hfirst'.symm

theorem firstMinBy_eq_of_filter_eq {items others : List α}
    (h : ∀ k, (items.filter fun a => key a = k) = others.filter fun a => key a = k) :
    firstMinBy key items = firstMinBy key others := by
  have hmem : ∀ a, a ∈ items ↔ a ∈ others :=
    fun a => ⟨mem_of_filter_eq h, mem_of_filter_eq fun k => (h k).symm⟩
  apply Option.ext
  intro a
  simp only [firstMinBy_eq_some_iff, IsFirstLeast, hmem, h]

/-! ## Extremes of sorted lists -/

theorem lastMaxBy_of_pairwise {items : List α} (h : items.Pairwise fun a b => key a ≤ key b) :
    lastMaxBy key items = items.getLast? := by
  induction items with
  | nil => rfl
  | cons a rest ih =>
      have hrest := ih h.of_cons
      unfold lastMaxBy
      rw [hrest, List.getLast?_cons]
      cases hlast : rest.getLast? with
      | none => rfl
      | some b =>
          have hab : key a ≤ key b := List.rel_of_pairwise_cons h (List.mem_of_getLast? hlast)
          simp [not_lt.mpr hab]

theorem firstMinBy_of_pairwise {items : List α} (h : items.Pairwise fun a b => key a ≤ key b) :
    firstMinBy key items = items.head? := by
  cases items with
  | nil => rfl
  | cons a rest =>
      unfold firstMinBy
      cases hfound : firstMinBy key rest with
      | none => rfl
      | some b =>
          have hab : key a ≤ key b := List.rel_of_pairwise_cons h (mem_of_firstMinBy hfound)
          simp [not_lt.mpr hab]

theorem head?_sortedBy (rank : α → Int) (items : List α) :
    (sortedBy rank items).head? = firstMinBy rank items := by
  rw [← firstMinBy_of_pairwise (pairwise_sortedBy rank items)]
  exact firstMinBy_eq_of_filter_eq fun k => filter_sortedBy rank items k

end Extremes

/-! ## Occupied times -/

namespace Command

/-- The command has begun and not yet ended, or it is one of a single time and this is the time. -/
def Occupies (c : Command) (time : Int) : Prop :=
  (c.low ≤ time ∧ time < c.high) ∨ (c.low = c.high ∧ c.low = time)

instance (c : Command) (time : Int) : Decidable (c.Occupies time) :=
  inferInstanceAs (Decidable (_ ∨ _))

theorem low_le_high (c : Command) : c.low ≤ c.high :=
  min_le_max

theorem isActiveAt_iff_occupies {c : Command} {time : Int} :
    c.IsActiveAt time ↔ c.Occupies time := by
  have hle := c.low_le_high
  unfold IsActiveAt Occupies stop
  split
  · omega
  · omega

theorem lt_low_of_not_occupies {c : Command} {time : Int} (hactive : ¬ c.Occupies time)
    (hover : ¬ c.high ≤ time) : time < c.low := by
  unfold Occupies at hactive
  omega

end Command

namespace Sprite

theorem activeCues_eq_filter_occupies (added : List Cue) (kind : Kind) (time : Int) :
    activeCues added kind time =
      (added.filter fun cue => cue.command.kind = kind).filter fun cue =>
        cue.command.Occupies time := by
  unfold activeCues
  apply List.filter_congr
  intro cue _
  rw [decide_eq_decide]
  exact Command.isActiveAt_iff_occupies

/-! ## The stages -/

section Stages

variable {s : Sprite} {added : List Cue} {depths : Depths} {kind : Kind} {time : Int}

theorem deciding_of_finished {events : List Cue}
    (hactive : events.filter (fun cue => cue.command.IsActiveAt time) = [])
    (hfinished : events.filter (fun cue => cue.command.high ≤ time) ≠ []) :
    deciding time events =
      lastMaxBy (·.command.high) (events.filter fun cue => cue.command.high ≤ time) := by
  unfold deciding
  rw [hactive]
  dsimp only
  split
  next hnil => exact absurd hnil hfinished
  next => rfl

theorem deciding_of_ahead {events : List Cue}
    (hactive : events.filter (fun cue => cue.command.IsActiveAt time) = [])
    (hfinished : events.filter (fun cue => cue.command.high ≤ time) = []) :
    deciding time events = firstMinBy (·.command.low) events := by
  unfold deciding
  rw [hactive, hfinished]

theorem Records.filter_finished_eq_nil_iff (h : s.Records added) :
    (s.events depths kind).filter (fun cue => cue.command.high ≤ time) = [] ↔
      ∀ cue ∈ added, cue.command.kind = kind → ¬ cue.command.high ≤ time := by
  rw [List.filter_eq_nil_iff, h.events_eq]
  constructor
  · intro hwritten cue hcue hkind
    obtain ⟨first, hfirst, hline⟩ :=
      exists_mem_firstsBy (Cue.line depths) (mem_inOrder.mpr ⟨hcue, hkind⟩)
    rw [← (Cue.alike_of_line_eq hline).high]
    simpa using hwritten first hfirst
  · intro hadded cue hcue
    obtain ⟨hmem, hkind⟩ := mem_inOrder.mp (mem_of_mem_firstsBy hcue)
    simpa using hadded cue hmem hkind

theorem Records.firstMinBy_events (h : s.Records added) :
    firstMinBy (·.command.low) (s.events depths kind) =
      firstMinBy (·.command.low) (added.filter fun cue => cue.command.kind = kind) := by
  have hhead : ∀ items : List Cue, (firstsBy (Cue.line depths) items).head? = items.head? := by
    intro items
    cases items with
    | nil => rfl
    | cons cue rest => rfl
  rw [firstMinBy_of_pairwise h.pairwise_events, h.events_eq, hhead, inOrder, head?_sortedBy]

/-- Which command decides at a time, told by those of its kind that were added. -/
structure SelectedByStage (depths : Depths) (s : Sprite) (given : List Cue) (kind : Kind)
    (time : Int) : Prop where
  none_iff : s.governing depths kind time = none ↔ given = []
  /-- While commands are active, the last one with the latest start decides. -/
  active : (∃ cue ∈ given, cue.command.Occupies time) →
    ∃ chosen, s.governing depths kind time = some chosen ∧
      IsLastGreatest (·.command.low) (given.filter fun cue => cue.command.Occupies time) chosen
  /-- When none is, the last written one with the latest end. -/
  finished : (∀ cue ∈ given, ¬ cue.command.Occupies time) →
    (∃ cue ∈ given, cue.command.high ≤ time) →
    ∃ chosen, s.governing depths kind time = some chosen ∧
      IsLastGreatest (·.command.high)
        ((s.events depths kind).filter fun cue => cue.command.high ≤ time) chosen
  /-- What is left are times before all of them, where the first one with the least start does. -/
  ahead : (∀ cue ∈ given, ¬ cue.command.Occupies time ∧ ¬ cue.command.high ≤ time) →
    (∀ cue ∈ given, time < cue.command.low) ∧
      (given ≠ [] → ∃ chosen, s.governing depths kind time = some chosen ∧
        IsFirstLeast (·.command.low) given chosen)

theorem Records.governing_of_active (h : s.Records added) (depths : Depths)
    (hactive : ∃ cue ∈ added.filter (fun cue => cue.command.kind = kind),
      cue.command.Occupies time) :
    ∃ chosen, s.governing depths kind time = some chosen ∧
      IsLastGreatest (·.command.low)
        ((added.filter fun cue => cue.command.kind = kind).filter fun cue =>
          cue.command.Occupies time) chosen := by
  obtain ⟨cue, hcue, hoccupies⟩ := hactive
  have hne : activeCues added kind time ≠ [] := by
    rw [activeCues_eq_filter_occupies]
    exact List.ne_nil_of_mem (List.mem_filter.mpr ⟨hcue, decide_eq_true hoccupies⟩)
  rw [h.governing_of_ne_nil hne, ← activeCues_eq_filter_occupies]
  exact exists_lastMaxBy hne

theorem activeCues_eq_nil_of_forall
    (h : ∀ cue ∈ added.filter (fun cue => cue.command.kind = kind), ¬ cue.command.Occupies time) :
    activeCues added kind time = [] := by
  rw [activeCues_eq_filter_occupies, List.filter_eq_nil_iff]
  intro cue hcue
  simpa using h cue hcue

theorem Records.governing_of_finished (h : s.Records added) (depths : Depths)
    (hactive : ∀ cue ∈ added.filter (fun cue => cue.command.kind = kind),
      ¬ cue.command.Occupies time)
    (hfinished : ∃ cue ∈ added.filter (fun cue => cue.command.kind = kind),
      cue.command.high ≤ time) :
    ∃ chosen, s.governing depths kind time = some chosen ∧
      IsLastGreatest (·.command.high)
        ((s.events depths kind).filter fun cue => cue.command.high ≤ time) chosen := by
  have hnil := activeCues_eq_nil_of_forall hactive
  have hne : (s.events depths kind).filter (fun cue => cue.command.high ≤ time) ≠ [] := by
    intro hnone
    obtain ⟨cue, hcue, hover⟩ := hfinished
    obtain ⟨hmem, hkind⟩ := List.mem_filter.mp hcue
    exact h.filter_finished_eq_nil_iff.mp hnone cue hmem (of_decide_eq_true hkind) hover
  rw [h.governing_of_eq_nil hnil, deciding_of_finished (h.activeCues_eq_nil_iff.mp hnil) hne]
  exact exists_lastMaxBy hne

theorem Records.governing_of_ahead (h : s.Records added)
    (hahead : ∀ cue ∈ added.filter (fun cue => cue.command.kind = kind),
      ¬ cue.command.Occupies time ∧ ¬ cue.command.high ≤ time) :
    s.governing depths kind time =
      firstMinBy (·.command.low) (added.filter fun cue => cue.command.kind = kind) := by
  have hnil : activeCues added kind time = [] :=
    activeCues_eq_nil_of_forall fun cue hcue => (hahead cue hcue).1
  have hnone : (s.events depths kind).filter (fun cue => cue.command.high ≤ time) = [] := by
    rw [h.filter_finished_eq_nil_iff]
    intro cue hcue hkind
    exact (hahead cue (List.mem_filter.mpr ⟨hcue, decide_eq_true hkind⟩)).2
  rw [h.governing_of_eq_nil hnil, deciding_of_ahead (h.activeCues_eq_nil_iff.mp hnil) hnone,
    h.firstMinBy_events]

theorem Records.governing_eq_none_iff (h : s.Records added) :
    s.governing depths kind time = none ↔
      (added.filter fun cue => cue.command.kind = kind) = [] := by
  constructor
  · intro hnone
    -- Each of the stages finds a command if there is one.
    by_cases hactive : ∃ cue ∈ added.filter (fun cue => cue.command.kind = kind),
        cue.command.Occupies time
    · obtain ⟨chosen, hchosen, -⟩ := h.governing_of_active depths hactive
      rw [hnone] at hchosen
      cases hchosen
    · by_cases hfinished : ∃ cue ∈ added.filter (fun cue => cue.command.kind = kind),
          cue.command.high ≤ time
      · have hidle : ∀ cue ∈ added.filter (fun cue => cue.command.kind = kind),
            ¬ cue.command.Occupies time := fun cue hcue hoccupies =>
          hactive ⟨cue, hcue, hoccupies⟩
        obtain ⟨chosen, hchosen, -⟩ := h.governing_of_finished depths hidle hfinished
        rw [hnone] at hchosen
        cases hchosen
      · rw [h.governing_of_ahead fun cue hcue => ⟨fun hoccupies => hactive ⟨cue, hcue, hoccupies⟩,
          fun hover => hfinished ⟨cue, hcue, hover⟩⟩] at hnone
        exact firstMinBy_eq_none_iff.mp hnone
  · intro hnil
    rw [h.governing_of_ahead, hnil]
    · rfl
    · intro cue hcue
      rw [hnil] at hcue
      cases hcue

end Stages

/-! ## Main result -/

/-- After a run, the command that decides is chosen from what was added in three stages. -/
theorem governing_selected_by_stage (steps : List Board.Step) (i : Nat) (s : Sprite)
    (h : (Board.empty.run steps).sprites[i]? = some s) (kind : Kind) (time : Int) :
    SelectedByStage (Board.empty.run steps).depths s
      ((Board.added steps i).filter fun cue => cue.command.kind = kind) kind time := by
  have hrecords := Board.records_of_run h
  constructor
  · exact hrecords.governing_eq_none_iff
  · intro hactive
    exact hrecords.governing_of_active _ hactive
  · intro hactive hfinished
    exact hrecords.governing_of_finished _ hactive hfinished
  · intro hahead
    constructor
    · intro cue hcue
      obtain ⟨hidle, hover⟩ := hahead cue hcue
      exact Command.lt_low_of_not_occupies hidle hover
    · intro hne
      rw [hrecords.governing_of_ahead hahead]
      cases hfound : firstMinBy (·.command.low)
          ((Board.added steps i).filter fun cue => cue.command.kind = kind) with
      | none => exact absurd (firstMinBy_eq_none_iff.mp hfound) hne
      | some chosen => exact ⟨chosen, rfl, firstMinBy_spec hfound⟩

/--
Fades that start together, one of them backwards, one of a single time and one twice; the last two
end together.
-/
def crowdedFades : List Board.Step :=
  [.sprite ⟨"star.png", .centre, Figure.defaultPosition, none⟩,
    .issue 0 ⟨⟨900, .linear, .scalar .fade (.change 500 0 1)⟩, 0⟩,
    .issue 0 ⟨⟨500, .linear, .scalar .fade (.hold 1 none)⟩, 0⟩,
    .issue 0 ⟨⟨500, .linear, .scalar .fade (.change 800 1 0)⟩, 0⟩, .attach 0 0,
    .issue 0 ⟨⟨100, .linear, .scalar .fade (.change 900 1 0)⟩, 0⟩,
    .issue 0 ⟨⟨100, .linear, .scalar .fade (.change 200 0 1)⟩, 0⟩]

theorem governing_of_crowdedFades :
    ∃ s : Sprite, (Board.empty.run crowdedFades).sprites[0]? = some s ∧
      ([99, 500, 899, 900].map fun time =>
        (s.governing (Board.empty.run crowdedFades).depths (.scalar .fade) time).map Cue.id) =
          [some 3, some 0, some 0, some 0] ∧
      ∀ time, SelectedByStage (Board.empty.run crowdedFades).depths s
        ((Board.added crowdedFades 0).filter fun cue => cue.command.kind = .scalar .fade)
        (.scalar .fade) time :=
  ⟨_, rfl, by decide +kernel, governing_selected_by_stage crowdedFades 0 _ rfl (.scalar .fade)⟩

end Sprite
end Storyboard
