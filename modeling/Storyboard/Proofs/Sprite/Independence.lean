import Mathlib
import Storyboard.Proofs.Board.StepEffects
import Storyboard.Proofs.Failing
import Storyboard.Proofs.Sprite.Governing
import Storyboard.Proofs.Sprite.Lifetime
import Storyboard.Proofs.Sprite.Sampling

/-!
# What a sampled property depends on

A sprite keeps the commands of all kinds in one span, at depths that all kinds share.  Still no kind
shows in the values of another one.  Where all commands stand at depth zero, the command that
decides for a kind can be read off the commands of that kind alone, in the order in which they were
added.  So two sprites that were given the same commands of a kind take the same values from it,
whatever else they were given.
-/

namespace Storyboard

/-! ## The command that decides, from the commands of a kind -/

def Command.ofKind (kind : Kind) (added : List Cue) : List Command :=
  (added.filter fun cue => cue.command.kind = kind).map Cue.command

/-- The command that decides at a time among the commands of a kind, when all are at depth zero. -/
def Command.decided (time : Int) (commands : List Command) : Option Command :=
  match commands.filter fun c => c.IsActiveAt time with
  | [] =>
      let written := firstsBy (Command.line 0) (sortedBy Command.low commands)
      match written.filter fun c => c.high ≤ time with
      | [] => firstMinBy Command.low written
      | finished => lastMaxBy Command.high finished
  | active => lastMaxBy Command.low active

namespace Sprite

def AtGround (depths : Depths) (added : List Cue) : Prop :=
  ∀ cue ∈ added, depths.get cue.id = 0

section Records

variable {s : Sprite} {added : List Cue} {depths : Depths}

theorem map_command_activeCues (added : List Cue) (kind : Kind) (time : Int) :
    (activeCues added kind time).map Cue.command =
      (Command.ofKind kind added).filter fun c => c.IsActiveAt time := by
  rw [Command.ofKind, List.filter_map]
  rfl

theorem map_command_inOrder (added : List Cue) (kind : Kind) :
    (inOrder kind added).map Cue.command = sortedBy Command.low (Command.ofKind kind added) := by
  rw [Command.ofKind, sortedBy_map]
  rfl

theorem Records.map_command_events (h : s.Records added) (hground : AtGround depths added)
    (kind : Kind) :
    (s.events depths kind).map Cue.command =
      firstsBy (Command.line 0) (sortedBy Command.low (Command.ofKind kind added)) := by
  have hline : ∀ cue ∈ inOrder kind added,
      cue.line depths = (Command.line 0 ∘ Cue.command) cue := by
    intro cue hcue
    rw [Cue.line, hground cue (mem_inOrder.mp hcue).1]
    rfl
  rw [h.events_eq, firstsBy_congr_of_mem hline, ← firstsBy_map, map_command_inOrder]

theorem map_command_deciding (time : Int) (events : List Cue)
    (hnil : (events.map Cue.command).filter (fun c => c.IsActiveAt time) = []) :
    (deciding time events).map Cue.command =
      match (events.map Cue.command).filter fun c => c.high ≤ time with
      | [] => firstMinBy Command.low (events.map Cue.command)
      | finished => lastMaxBy Command.high finished := by
  have hactive : (events.filter fun cue => cue.command.IsActiveAt time) = [] := by
    rw [List.filter_map, List.map_eq_nil_iff] at hnil
    exact hnil
  have hfinished : ((events.map Cue.command).filter fun c => c.high ≤ time) =
      (events.filter fun cue => cue.command.high ≤ time).map Cue.command := by
    rw [List.filter_map]
    rfl
  unfold deciding
  rw [hactive, hfinished]
  cases events.filter fun cue => cue.command.high ≤ time with
  | nil => exact (firstMinBy_map (fun _ _ => Iff.rfl) events).symm
  | cons cue rest => exact (lastMaxBy_map (fun _ _ => Iff.rfl) (cue :: rest)).symm

theorem Records.map_command_governing (h : s.Records added) (hground : AtGround depths added)
    (kind : Kind) (time : Int) :
    (s.governing depths kind time).map Cue.command =
      Command.decided time (Command.ofKind kind added) := by
  unfold Command.decided
  rw [← map_command_activeCues]
  by_cases hnil : activeCues added kind time = []
  · have hwritten : ((s.events depths kind).map Cue.command).filter
        (fun c => c.IsActiveAt time) = [] := by
      rw [List.filter_map, List.map_eq_nil_iff]
      exact h.activeCues_eq_nil_iff.mp hnil
    rw [h.governing_of_eq_nil hnil, map_command_deciding time _ hwritten,
      h.map_command_events hground, hnil]
    rfl
  · rw [h.governing_of_ne_nil hnil]
    generalize activeCues added kind time = active at hnil ⊢
    cases active with
    | nil => exact absurd rfl hnil
    | cons cue rest => exact (lastMaxBy_map (fun _ _ => Iff.rfl) (cue :: rest)).symm

theorem Records.sample_eq (h : s.Records added) (hground : AtGround depths added) (kind : Kind)
    (time : Int) :
    s.sample depths kind time =
      match Command.decided time (Command.ofKind kind added) with
      | some c => c.sample time
      | none => .ok none := by
  rw [← h.map_command_governing hground, sample]
  cases s.governing depths kind time with
  | none => rfl
  | some cue => rfl

theorem Records.isOn_eq (h : s.Records added) (flag : Flag) (time : Int) :
    s.isOn flag time =
      !((Command.ofKind (.flag flag) added).filter fun c => c.IsActiveAt time).isEmpty := by
  rw [isOn, h.get_timeline, ← map_command_activeCues, List.isEmpty_map]

end Records

/-! ## States of sprites with the same commands of some kinds -/

/-- Two sprites at depth zero, each with what was added to it. -/
structure Grounded (depths depths' : Depths) (s s' : Sprite) (added added' : List Cue) : Prop where
  records : s.Records added
  records' : s'.Records added'
  ground : AtGround depths added
  ground' : AtGround depths' added'

/-- Both sprites were given the same commands of a kind, in the same order. -/
def SameOfKind (added added' : List Cue) (kind : Kind) : Prop :=
  Command.ofKind kind added = Command.ofKind kind added'

instance (added added' : List Cue) (kind : Kind) : Decidable (SameOfKind added added' kind) :=
  inferInstanceAs (Decidable (_ = _))

section Grounded

variable {depths depths' : Depths} {s s' : Sprite} {added added' : List Cue} {time : Int}

theorem Grounded.sample_eq (h : Grounded depths depths' s s' added added') {kind : Kind}
    (hsame : SameOfKind added added' kind) :
    s.sample depths kind time = s'.sample depths' kind time := by
  rw [h.records.sample_eq h.ground, h.records'.sample_eq h.ground', hsame]

theorem Grounded.isOn_eq (h : Grounded depths depths' s s' added added') {flag : Flag}
    (hsame : SameOfKind added added' (.flag flag)) : s.isOn flag time = s'.isOn flag time := by
  rw [h.records.isOn_eq, h.records'.isOn_eq, hsame]

/-- Each value of a state is the same for sprites with the same commands of the kinds it is from. -/
structure AgreeBy (same : Kind → Prop) (place place' : Vec2) (state state' : SpriteState) :
    Prop where
  x : same (.vector .move) → same (.scalar .moveX) → place.x = place'.x →
    state.position.x = state'.position.x
  y : same (.vector .move) → same (.scalar .moveY) → place.y = place'.y →
    state.position.y = state'.position.y
  opacity : same (.scalar .fade) → state.opacity = state'.opacity
  rotation : same (.scalar .rotate) → state.rotation = state'.rotation
  scale : same (.scalar .scale) → same (.vector .scaleVec) → state.scale = state'.scale
  color : same .color → state.color = state'.color
  hflip : same (.flag .hflip) → state.hflip = state'.hflip
  vflip : same (.flag .vflip) → state.vflip = state'.vflip
  additive : same (.flag .additive) → state.additive = state'.additive

theorem Grounded.agreeBy (h : Grounded depths depths' s s' added added')
    {state state' : SpriteState} (hstate : Sampled depths s time state)
    (hstate' : Sampled depths' s' time state') :
    AgreeBy (SameOfKind added added') s.position s'.position state state' := by
  obtain ⟨both, x, y, hboth, hx, hy, hposx, hposy⟩ := exists_of_positionAt hstate.position
  obtain ⟨both', x', y', hboth', hx', hy', hposx', hposy'⟩ := exists_of_positionAt hstate'.position
  obtain ⟨tint, htint, hcolor⟩ := hstate.color
  obtain ⟨tint', htint', hcolor'⟩ := hstate'.color
  constructor
  case x =>
    intro hmove haxis hplace
    have hmoved : both = both' := eq_of_eq_ok (vector_congr (h.sample_eq hmove)) hboth hboth'
    have hpart : x = x' := eq_of_eq_ok (level_congr (h.sample_eq haxis)) hx hx'
    rw [hposx, hposx', hmoved, hpart, hplace]
  case y =>
    intro hmove haxis hplace
    have hmoved : both = both' := eq_of_eq_ok (vector_congr (h.sample_eq hmove)) hboth hboth'
    have hpart : y = y' := eq_of_eq_ok (level_congr (h.sample_eq haxis)) hy hy'
    rw [hposy, hposy', hmoved, hpart, hplace]
  case opacity =>
    intro hsame
    exact eq_of_eq_ok (doubleAt_congr 1 (h.sample_eq hsame)) hstate.opacity hstate'.opacity
  case rotation =>
    intro hsame
    exact eq_of_eq_ok (doubleAt_congr 0 (h.sample_eq hsame)) hstate.rotation hstate'.rotation
  case scale =>
    intro hscale haxes
    exact eq_of_eq_ok (scaleAt_congr (h.sample_eq hscale) (h.sample_eq haxes)) hstate.scale
      hstate'.scale
  case color =>
    intro hsame
    have htints : tint = tint' := eq_of_eq_ok (tint_congr (h.sample_eq hsame)) htint htint'
    rw [hcolor, hcolor', htints]
  case hflip =>
    intro hsame
    rw [hstate.hflip, hstate'.hflip, h.isOn_eq hsame]
  case vflip =>
    intro hsame
    rw [hstate.vflip, hstate'.vflip, h.isOn_eq hsame]
  case additive =>
    intro hsame
    rw [hstate.additive, hstate'.additive, h.isOn_eq hsame]

end Grounded
end Sprite

/-! ## Runs at depth zero -/

namespace Board

/-- The step changes the depth of no command, and lets all sprites add commands at depth zero. -/
def Step.StaysOnGround : Step → Prop
  | .depth _ _ => False
  | .currentDepth _ n => n = 0
  | _ => True

/-- The command with that number is there, at depth zero. -/
def OnGround (b : Board) (id : Nat) : Prop :=
  b.depths.byCue[id]? = some 0

/-- Every command has a depth, and every sprite adds commands at depth zero. -/
structure AddsOnGround (b : Board) : Prop where
  hasDepths : b.HasDepths
  current : ∀ (i : Nat) (s : Sprite), b.sprites[i]? = some s → s.currentDepth = 0

section Ground

variable {b : Board} {i id : Nat} {step : Step} {cue : Cue}

theorem AddsOnGround.perform (h : b.AddsOnGround) (hstep : step.StaysOnGround) :
    (b.perform step).1.AddsOnGround := by
  refine ⟨h.hasDepths.perform step, ?_⟩
  intro i s hs
  have hevolves := evolves_perform b i step
  rw [hs] at hevolves
  generalize hbefore : b.sprites[i]? = before at hevolves
  cases hevolves with
  | made figure => rfl
  | @called old cue depths call =>
      have hold : old.currentDepth = 0 := h.current i old hbefore
      rw [(Sprite.add_of_nonneg hold.ge depths cue).1]
      exact hold
  | @kept old _ nocall figure timelines span depth =>
      rcases depth with hsame | hset
      · rw [hsame]
        exact h.current i old hbefore
      · rw [hset] at hstep
        exact hstep

theorem OnGround.newCommand (h : b.OnGround id) (built : Command.Built) :
    (b.newCommand built).OnGround id := by
  have hlt : id < b.depths.byCue.size := (Array.getElem?_eq_some_iff.mp h).1
  show (b.depths.byCue.push built.depth)[id]? = some 0
  rw [Array.getElem?_push_lt hlt]
  exact (Array.getElem?_eq_getElem hlt).symm.trans h

theorem OnGround.attach (h : b.OnGround id)
    (hcurrent : ∀ (i : Nat) (s : Sprite), b.sprites[i]? = some s → s.currentDepth = 0)
    (i other : Nat) :
    (b.attach i other).1.OnGround id := by
  rcases b.depths_attach i other with hsame | ⟨s, hs, -, hset⟩
  · rw [OnGround, hsame]
    exact h
  · have hlt : id < b.depths.byCue.size := (Array.getElem?_eq_some_iff.mp h).1
    rw [OnGround, hset, hcurrent i s hs, Array.getElem?_setIfInBounds]
    split
    next heq =>
      rw [heq, if_pos hlt]
      rfl
    next => exact h

theorem OnGround.perform (h : b.OnGround id) (hb : b.AddsOnGround) (hstep : step.StaysOnGround) :
    (b.perform step).1.OnGround id := by
  cases step with
  | command built => exact h.newCommand built
  | issue i built =>
      have hattach := (h.newCommand built).attach hb.current i b.commands.size
      show (b.issue i built).1.OnGround id
      unfold issue
      split
      next heq =>
        rw [heq] at hattach
        exact hattach
      next => exact h
  | attach i other => exact h.attach hb.current i other
  | depth => exact hstep.elim
  | enlist m i =>
      cases hfound : b.bundles[m]? with
      | none =>
          simp only [Board.perform, enlist, hfound]
          exact h
      | some found =>
          simp only [Board.perform, enlist, hfound]
          exact h
  | place m =>
      cases hfound : b.bundles[m]? with
      | none =>
          simp only [Board.perform, place, hfound]
          exact h
      | some found =>
          simp only [Board.perform, place, hfound]
          exact h
  | _ => exact h

theorem OnGround.run {steps : List Step} (h : b.OnGround id) (hb : b.AddsOnGround)
    (hsteps : ∀ step ∈ steps, step.StaysOnGround) : (b.run steps).OnGround id := by
  induction steps generalizing b with
  | nil => exact h
  | cons step rest ih =>
      have hstep := hsteps step List.mem_cons_self
      exact ih (h.perform hb hstep) (hb.perform hstep) fun later hlater =>
        hsteps later (List.mem_cons_of_mem step hlater)

theorem onGround_attach_self {s : Sprite} (hb : b.AddsOnGround) (hs : b.sprites[i]? = some s)
    (hcue : b.cue? id = some cue) : (b.attach i id).1.OnGround id := by
  obtain ⟨command, hcommand, rfl⟩ := Option.map_eq_some_iff.mp hcue
  have hlt : id < b.depths.byCue.size := by
    rw [hb.hasDepths]
    exact (Array.getElem?_eq_some_iff.mp hcommand).1
  have hzero := hb.current i s hs
  simp only [Board.attach, hs, hcue, OnGround]
  rw [Sprite.depths_add_of_nonneg hzero.ge, hzero]
  exact Array.getElem?_setIfInBounds_self_of_lt hlt

theorem onGround_of_addition? (hb : b.AddsOnGround) (h : b.addition? i step = some cue) :
    (b.perform step).1.OnGround cue.id := by
  unfold addition? at h
  split at h
  next s hs =>
    have hzero := hb.current i s hs
    rw [hzero, if_neg (lt_irrefl 0)] at h
    rcases eq_of_called? h with ⟨built, rfl, rfl⟩ | ⟨id, rfl, hcue⟩
    · have hnext : (b.newCommand built).AddsOnGround :=
        ⟨hb.hasDepths.newCommand built, hb.current⟩
      rw [Board.perform, issue_eq_attach hs hzero.ge]
      exact onGround_attach_self hnext hs (cue?_newCommand b built)
    · have hid : cue.id = id := by
        obtain ⟨command, -, rfl⟩ := Option.map_eq_some_iff.mp hcue
        rfl
      rw [hid]
      exact onGround_attach_self hb hs hcue
  next => cases h

theorem onGround_of_mem_additions {steps : List Step} (hb : b.AddsOnGround)
    (hsteps : ∀ step ∈ steps, step.StaysOnGround) (h : cue ∈ additions i b steps) :
    (b.run steps).OnGround cue.id := by
  induction steps generalizing b with
  | nil => cases h
  | cons step rest ih =>
      have hnext := hb.perform (hsteps step List.mem_cons_self)
      have hrest : ∀ later ∈ rest, later.StaysOnGround :=
        fun later hlater => hsteps later (List.mem_cons_of_mem step hlater)
      rcases List.mem_append.mp h with hnow | hlater
      · exact (onGround_of_addition? hb (Option.mem_toList.mp hnow)).run hnext hrest
      · exact ih hnext hrest hlater

end Ground

/-- In a run that stays at depth zero, all that was added to a sprite is at depth zero. -/
theorem atGround_of_run {steps : List Step} (hsteps : ∀ step ∈ steps, step.StaysOnGround)
    (i : Nat) : Sprite.AtGround (empty.run steps).depths (added steps i) := by
  intro cue hcue
  have hempty : empty.AddsOnGround := ⟨rfl, by simp [empty]⟩
  have hground : (empty.run steps).OnGround cue.id := onGround_of_mem_additions hempty hsteps hcue
  rw [Depths.get, hground]
  rfl

/-! ## Main result -/

/--
Two sprites whose commands are all at depth zero, and that both have a state at a time, agree there
in every value for which they were given the same commands in the same order.  What they were given
of the other kinds, and between which of the commands, does not matter.
-/
theorem state_agreeBy_ofKind (steps steps' : List Step) (i i' : Nat) (s s' : Sprite)
    (h : (empty.run steps).sprites[i]? = some s) (h' : (empty.run steps').sprites[i']? = some s')
    (hground : Sprite.AtGround (empty.run steps).depths (added steps i))
    (hground' : Sprite.AtGround (empty.run steps').depths (added steps' i'))
    (time : Int) (state state' : SpriteState)
    (hstate : s.stateAt (empty.run steps).depths time = .ok (some state))
    (hstate' : s'.stateAt (empty.run steps').depths time = .ok (some state')) :
    Sprite.AgreeBy (Sprite.SameOfKind (added steps i) (added steps' i')) s.position s'.position
      state state' := by
  have hgrounded : Sprite.Grounded (empty.run steps).depths (empty.run steps').depths s s'
      (added steps i) (added steps' i') :=
    { records := records_of_run h
      records' := records_of_run h'
      ground := hground
      ground' := hground' }
  exact hgrounded.agreeBy (Sprite.sampled_of_stateAt hstate) (Sprite.sampled_of_stateAt hstate')

/-- A star that fades in while it moves to the right. -/
def drifting : List Step :=
  [.sprite ⟨"star.png", .centre, Figure.defaultPosition, none⟩,
    .issue 0 ⟨⟨0, .linear, .scalar .moveX (.change 1000 0 320)⟩, 3⟩,
    .issue 0 ⟨⟨0, .linear, .scalar .fade (.change 500 0 1)⟩, 0⟩]

/-- A star that moves in the same way, while it turns and flickers. -/
def driftingAndTurning : List Step :=
  [.sprite ⟨"star.png", .centre, Figure.defaultPosition, none⟩, .currentDepth 0 0,
    .issue 0 ⟨⟨-700, .linear, .scalar .rotate (.change 3000 0 6)⟩, 1⟩,
    .issue 0 ⟨⟨0, .linear, .scalar .fade (.change 400 1 0)⟩, 0⟩,
    .issue 0 ⟨⟨0, .linear, .scalar .moveX (.change 1000 0 320)⟩, 0⟩,
    .issue 0 ⟨⟨0, .linear, .flag .additive 900⟩, 2⟩, .attach 0 1]

theorem agreeBy_of_drifting :
    ∃ (s s' : Sprite) (state state' : SpriteState),
      (empty.run drifting).sprites[0]? = some s ∧
      (empty.run driftingAndTurning).sprites[0]? = some s' ∧
      Sprite.AtGround (empty.run drifting).depths (added drifting 0) ∧
      Sprite.AtGround (empty.run driftingAndTurning).depths (added driftingAndTurning 0) ∧
      s.stateAt (empty.run drifting).depths 250 = .ok (some state) ∧
      s'.stateAt (empty.run driftingAndTurning).depths 250 = .ok (some state') ∧
      s.span ≠ s'.span ∧
      Sprite.AgreeBy (Sprite.SameOfKind (added drifting 0) (added driftingAndTurning 0))
        s.position s'.position state state' ∧
      state.position.x = state'.position.x := by
  have hground : Sprite.AtGround (empty.run drifting).depths (added drifting 0) := by
    apply atGround_of_run
    simp [drifting, Step.StaysOnGround]
  have hground' : Sprite.AtGround (empty.run driftingAndTurning).depths
      (added driftingAndTurning 0) := by
    apply atGround_of_run
    simp [driftingAndTurning, Step.StaysOnGround]
  obtain ⟨state, hstate⟩ : ∃ state, Sprite.stateAt (empty.run drifting).depths
      (empty.run drifting).sprites[0] 250 = .ok (some state) := by
    apply exists_of_isSome
    decide +kernel
  obtain ⟨state', hstate'⟩ : ∃ state', Sprite.stateAt (empty.run driftingAndTurning).depths
      (empty.run driftingAndTurning).sprites[0] 250 = .ok (some state') := by
    apply exists_of_isSome
    decide +kernel
  have hagree := state_agreeBy_ofKind drifting driftingAndTurning 0 0 _ _ rfl rfl hground hground'
    250 state state' hstate hstate'
  have hx := hagree.x (by decide +kernel) (by decide +kernel) rfl
  exact ⟨_, _, state, state', rfl, rfl, hground, hground', hstate, hstate', by decide +kernel,
    hagree, hx⟩

end Board
end Storyboard
