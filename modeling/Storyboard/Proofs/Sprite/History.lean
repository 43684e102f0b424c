import Mathlib
import Storyboard.Board.Step
import Storyboard.Proofs.IntervalMap.History

/-!
# What a run adds to a sprite

The timelines of a sprite depend only on the commands that were added to it, in the order in which
they were added.  `Board.added` reads these off the steps of a run.  A command counts as added when
it was given to a sprite that exists and whose depth for new commands was not negative then; any
other addition is refused.

What one step can do to one sprite is said once, in `Board.evolves_perform`.
-/

namespace Storyboard

open IntervalMap (Push)

/-- The push that adds a cue to the timeline of its kind. -/
def Cue.toPush (cue : Cue) : Push Int Cue :=
  ⟨cue.command.low, cue.command.stop, cue⟩

theorem Cue.toPush_isProper (cue : Cue) : cue.toPush.IsProper :=
  cue.command.low_lt_stop

theorem accepted_map_toPush (cues : List Cue) :
    IntervalMap.accepted (cues.map Cue.toPush) = cues.map Cue.toPush := by
  apply List.filter_eq_self.mpr
  intro p hp
  obtain ⟨cue, _, rfl⟩ := List.mem_map.mp hp
  exact decide_eq_true cue.toPush_isProper

@[simp] theorem value_comp_toPush : Push.value ∘ Cue.toPush = id :=
  rfl

namespace Sprite

/-! ## One addition -/

theorem push_toPush (t : Timeline) (cue : Cue) :
    t.push cue.command.low cue.command.stop cue = .ok (t.attempt cue.toPush) := by
  have hproper : cue.toPush.start < cue.toPush.stop := cue.toPush_isProper
  have hlt : cue.command.low < cue.command.stop := cue.toPush_isProper
  simp only [IntervalMap.attempt, IntervalMap.push, if_pos hproper, if_pos hlt]
  rfl

theorem add_of_nonneg {s : Sprite} (h : 0 ≤ s.currentDepth) (depths : Depths) (cue : Cue) :
    (s.add depths cue).sprite =
        { s with
          span := some (Span.widen s.span cue.command.low cue.command.high)
          timelines := s.timelines.set cue.command.kind
            ((s.timeline cue.command.kind).attempt cue.toPush) } ∧
      (s.add depths cue).refusal = none := by
  simp only [add, Depths.set_eq_ok h, push_toPush]
  exact ⟨trivial, trivial⟩

theorem depths_add_of_nonneg {s : Sprite} (h : 0 ≤ s.currentDepth) (depths : Depths) (cue : Cue) :
    (s.add depths cue).depths =
      ⟨depths.byCue.setIfInBounds cue.id s.currentDepth.toNat⟩ := by
  simp only [add, Depths.set_eq_ok h, push_toPush]

theorem add_of_neg {s : Sprite} (h : s.currentDepth < 0) (depths : Depths) (cue : Cue) :
    s.add depths cue =
      { sprite := { s with span := some (Span.widen s.span cue.command.low cue.command.high) }
        depths := depths
        refusal := some (.negativeDepth s.currentDepth) } := by
  simp [add, Depths.set, h]

/-! ## Timelines as records of additions -/

/-- The timeline of a kind after some cues were added. -/
def timelineOf (kind : Kind) (added : List Cue) : Timeline :=
  IntervalMap.ofPushes ((added.filter fun cue => cue.command.kind = kind).map Cue.toPush)

/-- The timelines of a sprite hold some cues, in the order in which they were added. -/
def Records (s : Sprite) (added : List Cue) : Prop :=
  ∀ kind, s.timeline kind = timelineOf kind added

theorem records_ofFigure (figure : Figure) : (ofFigure figure).Records [] := by
  intro kind
  exact Kind.Table.get_fill IntervalMap.empty kind

theorem Records.of_timelines_eq {s s' : Sprite} {added : List Cue} (h : s.Records added)
    (heq : s'.timelines = s.timelines) : s'.Records added := by
  intro kind
  rw [timeline, heq]
  exact h kind

theorem Records.add {s : Sprite} {added : List Cue} (h : s.Records added)
    (hdepth : 0 ≤ s.currentDepth) (depths : Depths) (cue : Cue) :
    (s.add depths cue).sprite.Records (added ++ [cue]) := by
  intro kind
  rw [(add_of_nonneg hdepth depths cue).1, timeline]
  by_cases hkind : cue.command.kind = kind
  · subst hkind
    rw [Kind.Table.get_set_self, h cue.command.kind, timelineOf, timelineOf, List.filter_append,
      List.filter_singleton, decide_eq_true rfl, cond_true, List.map_append, List.map_singleton,
      IntervalMap.ofPushes_append_singleton]
  · rw [Kind.Table.get_set_of_ne _ _ hkind, timelineOf, List.filter_append, List.filter_singleton,
      decide_eq_false hkind, cond_false, List.append_nil]
    exact h kind

theorem Records.add_of_neg {s : Sprite} {added : List Cue} (h : s.Records added)
    (hdepth : s.currentDepth < 0) (depths : Depths) (cue : Cue) :
    (s.add depths cue).sprite.Records added := by
  rw [Sprite.add_of_neg hdepth]
  exact h.of_timelines_eq rfl

end Sprite

namespace Board

/-! ## One step -/

/-- The cue that a step gives to a sprite, if it gives one. -/
def called? (b : Board) (sprite : Nat) : Step → Option Cue
  | .issue target built =>
      if target = sprite then some ⟨b.commands.size, built.command⟩ else none
  | .attach target id => if target = sprite then b.cue? id else none
  | _ => none

theorem eq_of_called? {b : Board} {i : Nat} {step : Step} {cue : Cue}
    (h : b.called? i step = some cue) :
    (∃ built, step = .issue i built ∧ cue = ⟨b.commands.size, built.command⟩) ∨
      ∃ id, step = .attach i id ∧ b.cue? id = some cue := by
  cases step with
  | issue target built =>
      by_cases htarget : target = i
      · rw [called?, if_pos htarget] at h
        exact Or.inl ⟨built, htarget ▸ rfl, (Option.some.inj h).symm⟩
      · rw [called?, if_neg htarget] at h
        cases h
  | attach target id =>
      by_cases htarget : target = i
      · rw [called?, if_pos htarget] at h
        exact Or.inr ⟨id, htarget ▸ rfl, h⟩
      · rw [called?, if_neg htarget] at h
        cases h
  | _ => cases h

/-- The cue that a step adds to a sprite, if it adds one. -/
def addition? (b : Board) (sprite : Nat) (step : Step) : Option Cue :=
  match b.sprites[sprite]? with
  | some s => if s.currentDepth < 0 then none else b.called? sprite step
  | none => none

/-- The ways in which a step may change one sprite of a board. -/
inductive Evolves (b : Board) (i : Nat) (step : Step) : Option Sprite → Option Sprite → Prop where
  | absent : Evolves b i step none none
  | made (figure : Figure) : Evolves b i step none (some (.ofFigure figure))
  /-- A cue is given to the sprite. -/
  | called {s : Sprite} {cue : Cue} (depths : Depths) (call : b.called? i step = some cue) :
      Evolves b i step (some s) (some (s.add depths cue).sprite)
  /-- No cue is given to the sprite. -/
  | kept {s s' : Sprite} (nocall : b.called? i step = none) (figure : s'.toFigure = s.toFigure)
      (timelines : s'.timelines = s.timelines) (span : s'.span = s.span)
      (depth : s'.currentDepth = s.currentDepth ∨ step = .currentDepth i s'.currentDepth) :
      Evolves b i step (some s) (some s')

theorem evolves_same {b : Board} {i : Nat} {step : Step} (h : b.called? i step = none) :
    Evolves b i step b.sprites[i]? b.sprites[i]? := by
  cases b.sprites[i]? with
  | none => exact .absent
  | some s => exact .kept h rfl rfl rfl (Or.inl rfl)

theorem evolves_modify {b : Board} {i j : Nat} {step : Step} {change : Sprite → Sprite}
    (h : b.called? i step = none)
    (hkeep : ∀ s, (change s).toFigure = s.toFigure ∧ (change s).timelines = s.timelines ∧
      (change s).span = s.span)
    (hdepth : ∀ s, j = i → (change s).currentDepth = s.currentDepth ∨
      step = .currentDepth i (change s).currentDepth) :
    Evolves b i step b.sprites[i]? (b.sprites.modify j change)[i]? := by
  rw [Array.getElem?_modify]
  split
  next hj =>
    cases b.sprites[i]? with
    | none => exact .absent
    | some s => exact .kept h (hkeep s).1 (hkeep s).2.1 (hkeep s).2.2 (hdepth s hj)
  next => exact evolves_same h

theorem evolves_attach {b b' : Board} {i j id : Nat} {step : Step} (hb : b'.sprites = b.sprites)
    (hcall : b.called? i step = if j = i then b'.cue? id else none) :
    Evolves b i step b.sprites[i]? (b'.attach j id).1.sprites[i]? := by
  by_cases hj : j = i
  · subst hj
    rw [if_pos rfl] at hcall
    rw [← hb]
    cases hs : b'.sprites[j]? with
    | none =>
        simp only [attach, hs]
        exact .absent
    | some s =>
        cases hcue : b'.cue? id with
        | none =>
            simp only [attach, hs, hcue]
            exact .kept (hcall.trans hcue) rfl rfl rfl (Or.inl rfl)
        | some cue =>
            have hlt : j < b'.sprites.size := (Array.getElem?_eq_some_iff.mp hs).1
            simp only [attach, hs, hcue, Array.getElem?_setIfInBounds_self_of_lt hlt]
            exact .called b'.depths (hcall.trans hcue)
  · rw [if_neg hj] at hcall
    have hsame : (b'.attach j id).1.sprites[i]? = b.sprites[i]? := by
      rw [← hb]
      unfold attach
      split
      · exact Array.getElem?_setIfInBounds_ne hj
      · rfl
    rw [hsame]
    exact evolves_same hcall

theorem sprites_issue (b : Board) (sprite : Nat) (built : Command.Built) :
    (b.issue sprite built).1.sprites =
      ((b.newCommand built).attach sprite b.commands.size).1.sprites := by
  unfold issue
  split
  next h => rw [h]
  next h => rw [h]

theorem cue?_newCommand (b : Board) (built : Command.Built) :
    (b.newCommand built).cue? b.commands.size = some ⟨b.commands.size, built.command⟩ := by
  simp [cue?, newCommand]

theorem perform_depth_of_neg (b : Board) (id : Nat) {depth : Int} (h : depth < 0) :
    b.perform (.depth id depth) = (b, .error (.negativeDepth depth)) := by
  simp only [perform, setDepth, Depths.set, if_pos h]
  rfl

theorem perform_depth_of_nonneg (b : Board) (id : Nat) {depth : Int} (h : 0 ≤ depth) :
    b.perform (.depth id depth) =
      ({ b with depths := ⟨b.depths.byCue.setIfInBounds id depth.toNat⟩ }, .ok ()) := by
  simp only [perform, setDepth, Depths.set_eq_ok h]
  rfl

theorem sprites_perform_depth (b : Board) (id : Nat) (depth : Int) :
    (b.perform (.depth id depth)).1.sprites = b.sprites := by
  rcases Int.lt_or_le depth 0 with hneg | hnonneg
  · rw [perform_depth_of_neg b id hneg]
  · rw [perform_depth_of_nonneg b id hnonneg]

theorem evolves_perform (b : Board) (i : Nat) (step : Step) :
    Evolves b i step b.sprites[i]? (b.perform step).1.sprites[i]? := by
  cases step with
  | sprite figure =>
      show Evolves b i _ _ (b.sprites.push (.ofFigure figure))[i]?
      rw [Array.getElem?_push]
      split
      next hi =>
        rw [hi, Array.getElem?_size]
        exact .made figure
      next => exact evolves_same rfl
  | bundle layer => exact evolves_same rfl
  | command built => exact evolves_same rfl
  | issue sprite built =>
      show Evolves b i _ _ (b.issue sprite built).1.sprites[i]?
      rw [sprites_issue]
      refine evolves_attach rfl ?_
      rw [cue?_newCommand]
      rfl
  | attach sprite id =>
      exact evolves_attach rfl rfl
  | depth id depth =>
      rw [sprites_perform_depth]
      exact evolves_same rfl
  | currentDepth sprite depth =>
      exact evolves_modify rfl (fun s => ⟨rfl, rfl, rfl⟩) fun s hj => Or.inr (by rw [hj]; rfl)
  | spriteLayer sprite layer =>
      exact evolves_modify rfl (fun s => ⟨rfl, rfl, rfl⟩) fun s _ => Or.inl rfl
  | bundleLayer bundle layer => exact evolves_same rfl
  | enlist bundle sprite =>
      show Evolves b i _ _ (b.enlist bundle sprite).sprites[i]?
      unfold enlist
      split
      · exact evolves_modify rfl (fun s => ⟨rfl, rfl, rfl⟩) fun s _ => Or.inl rfl
      · exact evolves_same rfl
  | place bundle =>
      show Evolves b i _ _ (b.place bundle).sprites[i]?
      unfold place
      split
      · exact evolves_same rfl
      · exact evolves_same rfl

/-! ## A run -/

/-- The cues that some steps add to a sprite, in order. -/
def additions (sprite : Nat) (b : Board) : List Step → List Cue
  | [] => []
  | step :: rest =>
      (b.addition? sprite step).toList ++ additions sprite (b.perform step).1 rest

def added (steps : List Step) (sprite : Nat) : List Cue :=
  additions sprite .empty steps

/-- A relation holds between a sprite and some cues; a sprite that is not there has none. -/
def Tracks (b : Board) (i : Nat) (R : Sprite → List Cue → Prop) (added : List Cue) : Prop :=
  match b.sprites[i]? with
  | some s => R s added
  | none => added = []

/-- A relation between a sprite and what was added to it that some of the steps preserve. -/
structure Preserved (i : Nat) (allowed : Step → Prop) (R : Sprite → List Cue → Prop) : Prop where
  made : ∀ figure, R (.ofFigure figure) []
  added : ∀ {s : Sprite} {cues : List Cue} (depths : Depths) (cue : Cue), R s cues →
    0 ≤ s.currentDepth → R (s.add depths cue).sprite (cues ++ [cue])
  refused : ∀ {s : Sprite} {cues : List Cue} (depths : Depths) (cue : Cue), R s cues →
    s.currentDepth < 0 → R (s.add depths cue).sprite cues
  kept : ∀ {s s' : Sprite} {cues : List Cue} {step : Step}, R s cues → allowed step →
    s'.timelines = s.timelines → s'.span = s.span →
    (s'.currentDepth = s.currentDepth ∨ step = .currentDepth i s'.currentDepth) → R s' cues

section Preserved

variable {i : Nat} {allowed : Step → Prop} {R : Sprite → List Cue → Prop}

/-- A relation is kept by a step if it is kept by whatever the step may do to the sprite. -/
theorem Tracks.of_evolves {b : Board} {cues : List Cue} (h : b.Tracks i R cues) {step : Step}
    (made : ∀ figure, R (.ofFigure figure) [])
    (added : ∀ s depths cue, R s cues → 0 ≤ s.currentDepth →
      R (s.add depths cue).sprite (cues ++ [cue]))
    (refused : ∀ s depths cue, b.sprites[i]? = some s → b.called? i step = some cue → R s cues →
      s.currentDepth < 0 → R (s.add depths cue).sprite cues)
    (kept : ∀ s s', R s cues → s'.timelines = s.timelines → s'.span = s.span →
      (s'.currentDepth = s.currentDepth ∨ step = .currentDepth i s'.currentDepth) → R s' cues) :
    (b.perform step).1.Tracks i R (cues ++ (b.addition? i step).toList) := by
  have hevolves := evolves_perform b i step
  unfold Tracks at h ⊢
  unfold addition?
  generalize b.sprites[i]? = before at h hevolves refused ⊢
  generalize (b.perform step).1.sprites[i]? = after at hevolves ⊢
  cases hevolves with
  | absent => simpa using h
  | made figure =>
      -- A sprite that was not there has been given nothing.
      have hnil : cues = [] := h
      rw [hnil]
      exact made figure
  | @called s cue depths call =>
      by_cases hdepth : s.currentDepth < 0
      · simp only [if_pos hdepth, Option.toList_none, List.append_nil]
        exact refused s depths cue rfl call h hdepth
      · simp only [if_neg hdepth, call, Option.toList_some]
        exact added s depths cue h (Int.not_lt.mp hdepth)
  | kept nocall figure timelines span depth =>
      simp only [nocall, ite_self, Option.toList_none, List.append_nil]
      exact kept _ _ h timelines span depth

theorem Tracks.perform (hR : Preserved i allowed R) {b : Board} {cues : List Cue}
    (h : b.Tracks i R cues) {step : Step} (hstep : allowed step) :
    (b.perform step).1.Tracks i R (cues ++ (b.addition? i step).toList) := by
  apply h.of_evolves hR.made
  · intro s depths cue hs hdepth
    exact hR.added depths cue hs hdepth
  · intro s depths cue _ _ hs hdepth
    exact hR.refused depths cue hs hdepth
  · intro s s' hs timelines span depth
    exact hR.kept hs hstep timelines span depth

theorem Tracks.run (hR : Preserved i allowed R) {b : Board} {cues : List Cue}
    (h : b.Tracks i R cues) {steps : List Step} (hsteps : ∀ step ∈ steps, allowed step) :
    (b.run steps).Tracks i R (cues ++ additions i b steps) := by
  induction steps generalizing b cues with
  | nil => simpa [additions] using h
  | cons step rest ih =>
      have hnext := h.perform hR (hsteps step List.mem_cons_self)
      rw [run_cons, additions, ← List.append_assoc]
      exact ih hnext fun later hlater => hsteps later (List.mem_cons_of_mem step hlater)

theorem Preserved.of_run (hR : Preserved i allowed R) {steps : List Step} {s : Sprite}
    (h : (empty.run steps).sprites[i]? = some s) (hsteps : ∀ step ∈ steps, allowed step) :
    R s (Board.added steps i) := by
  have hempty : empty.Tracks i R [] := by simp [Tracks, empty]
  have hrun := hempty.run hR hsteps
  rw [Tracks, h] at hrun
  exact hrun

end Preserved

theorem preserved_records (i : Nat) : Preserved i (fun _ => True) Sprite.Records where
  made := Sprite.records_ofFigure
  added := fun depths cue h hdepth => h.add hdepth depths cue
  refused := fun depths cue h hdepth => h.add_of_neg hdepth depths cue
  kept := fun h _ timelines _ _ => h.of_timelines_eq timelines

/-- After a run, the timelines of a sprite hold exactly what the run added to it. -/
theorem records_of_run {steps : List Step} {i : Nat} {s : Sprite}
    (h : (empty.run steps).sprites[i]? = some s) : s.Records (added steps i) :=
  (preserved_records i).of_run h fun _ _ => trivial

end Board
end Storyboard
