import Mathlib
import Storyboard.Proofs.Sprite.Governing
import Storyboard.Proofs.Sprite.Span

/-!
# The lifetime of a sprite

The span of a sprite is taken over the commands of all kinds and includes both ends.  A timeline
holds a command from its earlier time up to, but not including, its later one, and a command of a
single time for one unit.  So the two are kept in different ways, and still no command is ever
active outside the span.
-/

namespace Storyboard

/-! ## Spans and active commands -/

theorem Command.IsActiveAt.le_high {c : Command} {time : Int} (h : c.IsActiveAt time) :
    time ≤ c.high := by
  obtain ⟨-, hstop⟩ := h
  unfold stop at hstop
  split at hstop
  · omega
  · omega

namespace Span

variable {span : Span} {cues : List Cue}

theorem IsHull.isLeast_first (h : span.IsHull cues) :
    IsLeast {time | ∃ cue ∈ cues, cue.command.low = time} span.first := by
  constructor
  · exact h.first_mem
  · rintro time ⟨cue, hcue, rfl⟩
    exact h.first_le cue hcue

theorem IsHull.isGreatest_last (h : span.IsHull cues) :
    IsGreatest {time | ∃ cue ∈ cues, cue.command.high = time} span.last := by
  constructor
  · exact h.last_mem
  · rintro time ⟨cue, hcue, rfl⟩
    exact h.le_last cue hcue

end Span

namespace Sprite

variable {s : Sprite} {added : List Cue}

theorem Spans.isHull {span : Span} (h : s.Spans added) (hspan : s.span = some span) :
    span.IsHull added := by
  rw [Spans, hspan] at h
  exact h

theorem Spans.span_eq_none_iff (h : s.Spans added) : s.span = none ↔ added = [] := by
  cases hspan : s.span with
  | none =>
      rw [Spans, hspan] at h
      exact ⟨fun _ => h, fun _ => rfl⟩
  | some span =>
      constructor
      · intro hnone
        cases hnone
      · rintro rfl
        obtain ⟨cue, hcue, -⟩ := (h.isHull hspan).first_mem
        cases hcue

theorem Records.get_timeline_eq_filter (h : s.Records added) (kind : Kind) (time : Int) :
    (s.timeline kind).get time =
      added.filter fun cue => cue.command.kind = kind ∧ cue.command.low ≤ time ∧
        time < if cue.command.high = cue.command.low then cue.command.low + 1
          else cue.command.high := by
  rw [h.get_timeline, activeCues, List.filter_filter]
  apply List.filter_congr
  intro cue _
  rw [← Bool.decide_and, decide_eq_decide]
  exact And.comm

theorem Spans.within_of_get_ne_nil (hspans : s.Spans added) (hrecords : s.Records added)
    {kind : Kind} {time : Int} (h : (s.timeline kind).get time ≠ []) :
    ∃ span, s.span = some span ∧ span.first ≤ time ∧ time ≤ span.last := by
  rw [hrecords.get_timeline] at h
  obtain ⟨cue, hactive⟩ := List.exists_mem_of_ne_nil _ h
  obtain ⟨hkind, htime⟩ := List.mem_filter.mp hactive
  have hcue : cue ∈ added := List.mem_of_mem_filter hkind
  have hisActive : cue.command.IsActiveAt time := of_decide_eq_true htime
  cases hspan : s.span with
  | none =>
      rw [hspans.span_eq_none_iff.mp hspan] at hcue
      cases hcue
  | some span =>
      have hhull := hspans.isHull hspan
      exact ⟨span, rfl, (hhull.first_le cue hcue).trans hisActive.1,
        hisActive.le_high.trans (hhull.le_last cue hcue)⟩

end Sprite

/-! ## Calls that succeed -/

namespace Board

variable {b : Board} {i : Nat} {s : Sprite} {cue : Cue}

theorem attach_answer_of_nonneg (hs : b.sprites[i]? = some s) (hdepth : 0 ≤ s.currentDepth)
    (id : Nat) : (b.attach i id).2 = .ok () := by
  unfold attach
  rw [hs]
  cases b.cue? id with
  | none => rfl
  | some cue => simp only [(Sprite.add_of_nonneg hdepth b.depths cue).2]

theorem issue_eq_attach (hs : b.sprites[i]? = some s) (hdepth : 0 ≤ s.currentDepth)
    (built : Command.Built) :
    b.issue i built = (b.newCommand built).attach i b.commands.size := by
  have hnext : (b.newCommand built).sprites[i]? = some s := hs
  have hanswer := attach_answer_of_nonneg hnext hdepth b.commands.size
  unfold issue
  split
  next hattach => exact hattach.symm
  next hattach =>
    rw [hattach] at hanswer
    cases hanswer

theorem issue_answer_of_nonneg (hs : b.sprites[i]? = some s) (hdepth : 0 ≤ s.currentDepth)
    (built : Command.Built) : (b.issue i built).2 = .ok () := by
  have hnext : (b.newCommand built).sprites[i]? = some s := hs
  rw [issue_eq_attach hs hdepth]
  exact attach_answer_of_nonneg hnext hdepth b.commands.size

theorem perform_of_called (hs : b.sprites[i]? = some s) (hdepth : 0 ≤ s.currentDepth) {step : Step}
    (hcall : b.called? i step = some cue) :
    (b.perform step).2 = .ok () ∧ b.addition? i step = some cue := by
  constructor
  · rcases eq_of_called? hcall with ⟨built, rfl, -⟩ | ⟨id, rfl, -⟩
    · exact issue_answer_of_nonneg hs hdepth built
    · exact attach_answer_of_nonneg hs hdepth id
  · simp only [addition?, hs, if_neg (Int.not_lt.mpr hdepth), hcall]

theorem currentDepth_nonneg_of_run {steps : List Step}
    (h : (empty.run steps).sprites[i]? = some s) (hsteps : ∀ step ∈ steps, step.KeepsDepth i) :
    0 ≤ s.currentDepth :=
  ((preserved_spans i).of_run h hsteps).1

/-! ## Main result -/

/-- What the span and the timelines of a sprite are after a run. -/
structure Lifetime (steps : List Step) (i : Nat) (s : Sprite) : Prop where
  /-- Every command that the sprite was given was added, and no call failed. -/
  given : ∀ front step rest before cue, steps = front ++ step :: rest →
    (empty.run front).sprites[i]? = some before → (empty.run front).called? i step = some cue →
    ((empty.run front).perform step).2 = .ok () ∧ (empty.run front).addition? i step = some cue
  /-- There is no span only if nothing was added. -/
  span_eq_none_iff : s.span = none ↔ added steps i = []
  /-- A span goes from the least time of all that was added to the greatest. -/
  bounds : ∀ span, s.span = some span →
    IsLeast {time | ∃ cue ∈ added steps i, cue.command.low = time} span.first ∧
      IsGreatest {time | ∃ cue ∈ added steps i, cue.command.high = time} span.last
  /-- A timeline has at each time the commands of its kind that last then, as they were added. -/
  timelines : ∀ kind time, (s.timeline kind).get time =
    (added steps i).filter fun cue => cue.command.kind = kind ∧ cue.command.low ≤ time ∧
      time < if cue.command.high = cue.command.low then cue.command.low + 1 else cue.command.high
  /-- No command lasts outside the span. -/
  within : ∀ kind time, (s.timeline kind).get time ≠ [] →
    ∃ span, s.span = some span ∧ span.first ≤ time ∧ time ≤ span.last

/--
As long as no negative depth is assigned to a sprite, no addition to it fails, and its span and its
timelines are what was added to it says.
-/
theorem lifetime_of_run (steps : List Step) (i : Nat) (s : Sprite)
    (h : (empty.run steps).sprites[i]? = some s) (hsteps : ∀ step ∈ steps, step.KeepsDepth i) :
    Lifetime steps i s where
  given := by
    intro front step rest before cue hsplit hbefore hcall
    have hdepth := currentDepth_nonneg_of_run hbefore fun earlier hearlier =>
      hsteps earlier (hsplit ▸ List.mem_append_left _ hearlier)
    exact perform_of_called hbefore hdepth hcall
  span_eq_none_iff := (spans_of_run h hsteps).span_eq_none_iff
  bounds := by
    intro span hspan
    have hhull := (spans_of_run h hsteps).isHull hspan
    exact ⟨hhull.isLeast_first, hhull.isGreatest_last⟩
  timelines := (records_of_run h).get_timeline_eq_filter
  within := by
    intro kind time hactive
    exact (spans_of_run h hsteps).within_of_get_ne_nil (records_of_run h) hactive

/-- A sprite with a fade that runs backwards, a flip of a single time and a place at the end. -/
def crossing : List Step :=
  [.sprite ⟨"star.png", .centre, Figure.defaultPosition, none⟩,
    .issue 0 ⟨⟨700, .linear, .scalar .fade (.change (-300) 0 1)⟩, 0⟩, .currentDepth 0 2,
    .issue 0 ⟨⟨5, .linear, .flag .hflip 5⟩, 0⟩,
    .issue 0 ⟨⟨900, .linear, .vector .move (.hold ⟨1, 2⟩ none)⟩, 0⟩, .attach 0 0]

theorem lifetime_of_crossing :
    ∃ s : Sprite, (empty.run crossing).sprites[0]? = some s ∧
      (∀ step ∈ crossing, step.KeepsDepth 0) ∧ s.span = some ⟨-300, 900⟩ ∧
      Lifetime crossing 0 s := by
  have hdepth : ∀ step ∈ crossing, step.KeepsDepth 0 := by
    rintro step hstep depth rfl
    simp [crossing] at hstep
    omega
  exact ⟨_, rfl, hdepth, by decide +kernel, lifetime_of_run crossing 0 _ rfl hdepth⟩

end Board
end Storyboard
