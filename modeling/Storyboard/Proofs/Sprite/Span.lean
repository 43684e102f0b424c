import Mathlib
import Storyboard.Proofs.Sprite.History

/-!
# The span of a sprite and what was added to it

As long as the depth for new commands is never negative, no addition is refused, and the span of a
sprite is the least one that holds the times of all its commands.  A negative depth would break
this: the addition is refused, yet the span stays widened.
-/

namespace Storyboard

/-! ## Hulls -/

/-- The span is the least one that holds the times of some commands. -/
structure Span.IsHull (span : Span) (cues : List Cue) : Prop where
  first_le : ∀ cue ∈ cues, span.first ≤ cue.command.low
  le_last : ∀ cue ∈ cues, cue.command.high ≤ span.last
  first_mem : ∃ cue ∈ cues, cue.command.low = span.first
  last_mem : ∃ cue ∈ cues, cue.command.high = span.last

namespace Span

theorem isHull_widen_none (cue : Cue) :
    (widen none cue.command.low cue.command.high).IsHull [cue] where
  first_le := by simp [widen]
  le_last := by simp [widen]
  first_mem := ⟨cue, List.mem_singleton_self cue, rfl⟩
  last_mem := ⟨cue, List.mem_singleton_self cue, rfl⟩

theorem IsHull.widen {span : Span} {cues : List Cue} (h : span.IsHull cues) (cue : Cue) :
    (Span.widen (some span) cue.command.low cue.command.high).IsHull (cues ++ [cue]) where
  first_le := by
    intro other hother
    rcases List.mem_append.mp hother with hother | hother
    · exact (min_le_left _ _).trans (h.first_le other hother)
    · rw [List.mem_singleton.mp hother]
      exact min_le_right _ _
  le_last := by
    intro other hother
    rcases List.mem_append.mp hother with hother | hother
    · exact (h.le_last other hother).trans (le_max_left _ _)
    · rw [List.mem_singleton.mp hother]
      exact le_max_right _ _
  first_mem := by
    obtain ⟨least, hleast, hlow⟩ := h.first_mem
    rcases min_choice span.first cue.command.low with hmin | hmin
    · exact ⟨least, List.mem_append_left _ hleast, hlow.trans hmin.symm⟩
    · exact ⟨cue, by simp, hmin.symm⟩
  last_mem := by
    obtain ⟨greatest, hgreatest, hhigh⟩ := h.last_mem
    rcases max_choice span.last cue.command.high with hmax | hmax
    · exact ⟨greatest, List.mem_append_left _ hgreatest, hhigh.trans hmax.symm⟩
    · exact ⟨cue, by simp, hmax.symm⟩

/-- Some commands start and end within the times of others. -/
def Within (cues others : List Cue) : Prop :=
  ∀ cue ∈ cues, ∃ other ∈ others,
    other.command.low = cue.command.low ∧ other.command.high = cue.command.high

theorem IsHull.unique {span span' : Span} {cues cues' : List Cue} (h : span.IsHull cues)
    (h' : span'.IsHull cues') (hsub : Within cues cues') (hsub' : Within cues' cues) :
    span = span' := by
  have hbounds : ∀ {a b : Span} {xs ys : List Cue}, a.IsHull xs → b.IsHull ys → Within xs ys →
      b.first ≤ a.first ∧ a.last ≤ b.last := by
    intro a b xs ys ha hb hxy
    constructor
    · obtain ⟨least, hleast, hlow⟩ := ha.first_mem
      obtain ⟨other, hother, hsame, -⟩ := hxy least hleast
      rw [← hlow, ← hsame]
      exact hb.first_le other hother
    · obtain ⟨greatest, hgreatest, hhigh⟩ := ha.last_mem
      obtain ⟨other, hother, -, hsame⟩ := hxy greatest hgreatest
      rw [← hhigh, ← hsame]
      exact hb.le_last other hother
  obtain ⟨hfirst, hlast⟩ := hbounds h h' hsub
  obtain ⟨hfirst', hlast'⟩ := hbounds h' h hsub'
  cases span
  cases span'
  congr
  · exact le_antisymm hfirst' hfirst
  · exact le_antisymm hlast hlast'

end Span

/-! ## Sprites -/

namespace Sprite

/-- The span of a sprite is the hull of some commands; without commands there is none. -/
def Spans (s : Sprite) (cues : List Cue) : Prop :=
  match s.span with
  | some span => span.IsHull cues
  | none => cues = []

theorem spans_ofFigure (figure : Figure) : (ofFigure figure).Spans [] :=
  rfl

theorem Spans.of_span_eq {s s' : Sprite} {cues : List Cue} (h : s.Spans cues)
    (heq : s'.span = s.span) : s'.Spans cues := by
  rw [Spans, heq]
  exact h

theorem Spans.add {s : Sprite} {cues : List Cue} (h : s.Spans cues) (hdepth : 0 ≤ s.currentDepth)
    (depths : Depths) (cue : Cue) : (s.add depths cue).sprite.Spans (cues ++ [cue]) := by
  unfold Spans at h
  rw [(add_of_nonneg hdepth depths cue).1, Spans]
  cases hspan : s.span with
  | none =>
      rw [hspan] at h
      have hnil : cues = [] := h
      rw [hnil]
      exact Span.isHull_widen_none cue
  | some span =>
      rw [hspan] at h
      exact Span.IsHull.widen h cue

theorem Spans.span_eq {s s' : Sprite} {cues cues' : List Cue} (h : s.Spans cues)
    (h' : s'.Spans cues') (hsub : Span.Within cues cues') (hsub' : Span.Within cues' cues) :
    s.span = s'.span := by
  unfold Spans at h h'
  cases hspan : s.span with
  | none =>
      rw [hspan] at h
      have hnil : cues = [] := h
      cases hspan' : s'.span with
      | none => rfl
      | some span' =>
          rw [hspan'] at h'
          obtain ⟨cue, hcue, -⟩ := Span.IsHull.first_mem h'
          obtain ⟨other, hother, -⟩ := hsub' cue hcue
          rw [hnil] at hother
          cases hother
  | some span =>
      rw [hspan] at h
      cases hspan' : s'.span with
      | none =>
          rw [hspan'] at h'
          have hnil : cues' = [] := h'
          obtain ⟨cue, hcue, -⟩ := Span.IsHull.first_mem h
          obtain ⟨other, hother, -⟩ := hsub cue hcue
          rw [hnil] at hother
          cases hother
      | some span' =>
          rw [hspan'] at h'
          rw [Span.IsHull.unique h h' hsub hsub']

end Sprite

/-! ## Runs -/

namespace Board

/-- The step gives no sprite with that number a negative depth for new commands. -/
def Step.KeepsDepth (i : Nat) (step : Step) : Prop :=
  ∀ depth, step = .currentDepth i depth → 0 ≤ depth

theorem preserved_spans (i : Nat) :
    Preserved i (Step.KeepsDepth i) fun s cues => 0 ≤ s.currentDepth ∧ s.Spans cues where
  made := fun figure => ⟨le_rfl, Sprite.spans_ofFigure figure⟩
  added := by
    rintro s cues depths cue ⟨hdepth, hspans⟩ -
    refine ⟨?_, hspans.add hdepth depths cue⟩
    rw [(Sprite.add_of_nonneg hdepth depths cue).1]
    exact hdepth
  refused := by
    rintro s cues depths cue ⟨hdepth, -⟩ hnegative
    exact absurd hnegative (Int.not_lt.mpr hdepth)
  kept := by
    rintro s s' cues step ⟨hdepth, hspans⟩ hstep - hspan hchange
    refine ⟨?_, hspans.of_span_eq hspan⟩
    rcases hchange with hsame | hset
    · rw [hsame]
      exact hdepth
    · exact hstep s'.currentDepth hset

theorem spans_of_run {steps : List Step} {i : Nat} {s : Sprite}
    (h : (empty.run steps).sprites[i]? = some s) (hsteps : ∀ step ∈ steps, step.KeepsDepth i) :
    s.Spans (added steps i) :=
  ((preserved_spans i).of_run h hsteps).2

/-! ## Runs without refused additions -/

/-- Every command that the steps give to the sprite is added. -/
def TakesAll (i : Nat) (b : Board) : List Step → Prop
  | [] => True
  | step :: rest =>
      (i < b.sprites.size → b.addition? i step = b.called? i step) ∧
        TakesAll i (b.perform step).1 rest

instance decidableTakesAll (i : Nat) (b : Board) :
    (steps : List Step) → Decidable (TakesAll i b steps)
  | [] => inferInstanceAs (Decidable True)
  | step :: rest =>
      have := decidableTakesAll i (b.perform step).1 rest
      inferInstanceAs (Decidable (_ ∧ _))

theorem Tracks.spans_perform {b : Board} {i : Nat} {cues : List Cue}
    (h : b.Tracks i Sprite.Spans cues) {step : Step}
    (htaken : i < b.sprites.size → b.addition? i step = b.called? i step) :
    (b.perform step).1.Tracks i Sprite.Spans (cues ++ (b.addition? i step).toList) := by
  apply h.of_evolves Sprite.spans_ofFigure
  · intro s depths cue hspans hdepth
    exact hspans.add hdepth depths cue
  · -- A cue that was taken was not refused.
    intro s depths cue hs hcalled _ hdepth
    have hadded := htaken (Array.getElem?_eq_some_iff.mp hs).1
    simp only [addition?, hs, if_pos hdepth, hcalled] at hadded
    cases hadded
  · intro s s' hspans _ hspan _
    exact hspans.of_span_eq hspan

theorem Tracks.spans_run {b : Board} {i : Nat} {cues : List Cue} (h : b.Tracks i Sprite.Spans cues)
    {steps : List Step} (htaken : TakesAll i b steps) :
    (b.run steps).Tracks i Sprite.Spans (cues ++ additions i b steps) := by
  induction steps generalizing b cues with
  | nil => simpa [additions] using h
  | cons step rest ih =>
      rw [run_cons, additions, ← List.append_assoc]
      exact ih (h.spans_perform htaken.1) htaken.2

/-- The span is the hull of what was added if nothing was refused. -/
theorem spans_of_takesAll {steps : List Step} {i : Nat} {s : Sprite}
    (h : (empty.run steps).sprites[i]? = some s) (htaken : TakesAll i empty steps) :
    s.Spans (added steps i) := by
  have hempty : empty.Tracks i Sprite.Spans [] := by simp [Tracks, empty]
  have hrun := hempty.spans_run htaken
  rw [Tracks, h] at hrun
  exact hrun

end Board
end Storyboard
