import Mathlib
import Storyboard.Proofs.Sprite.History

/-!
# What a step changes on a board

Steps that add commands, or change their depths, leave the bundles, the places of the bundles and
the layers of the sprites as they were, and no step takes a command away.  Here this is said once
for every part of a board, so that nothing else has to look into the steps again.

A step refers to commands, sprites and bundles by number.  The steps of a run are in scope if all of
these were made before.
-/

namespace Storyboard

theorem Sprite.layer_add (s : Sprite) (depths : Depths) (cue : Cue) :
    (s.add depths cue).sprite.layer = s.layer := by
  simp only [add]
  split
  · rfl
  · split
    · rfl
    · rfl

namespace Board

/-! ## Scope -/

/-- Everything that a step refers to is on the board. -/
def Step.InScope (b : Board) : Step → Prop
  | .issue i _ => i < b.sprites.size
  | .attach i id => i < b.sprites.size ∧ id < b.commands.size
  | .depth id _ => id < b.commands.size
  | .currentDepth i _ => i < b.sprites.size
  | .spriteLayer i _ => i < b.sprites.size
  | .bundleLayer m _ => m < b.bundles.size
  | .enlist m i => m < b.bundles.size ∧ i < b.sprites.size
  | .place m => m < b.bundles.size
  | _ => True

instance (b : Board) (step : Step) : Decidable (step.InScope b) := by
  cases step <;> unfold Step.InScope <;> infer_instance

/-- Every step refers only to what is on the board when its turn comes. -/
def AllInScope (b : Board) : List Step → Prop
  | [] => True
  | step :: rest => step.InScope b ∧ AllInScope (b.perform step).1 rest

instance decidableAllInScope (b : Board) : (steps : List Step) → Decidable (b.AllInScope steps)
  | [] => inferInstanceAs (Decidable True)
  | step :: rest =>
      have := decidableAllInScope (b.perform step).1 rest
      inferInstanceAs (Decidable (_ ∧ _))

theorem allInScope_append (b : Board) (front rest : List Step) :
    b.AllInScope (front ++ rest) ↔ b.AllInScope front ∧ (b.run front).AllInScope rest := by
  induction front generalizing b with
  | nil => simp [AllInScope]
  | cons step later ih =>
      rw [List.cons_append, AllInScope, AllInScope, ih, run_cons, and_assoc]

theorem allInScope_append_singleton (b : Board) (steps : List Step) (step : Step) :
    b.AllInScope (steps ++ [step]) ↔ b.AllInScope steps ∧ step.InScope (b.run steps) := by
  rw [allInScope_append, AllInScope, AllInScope, and_true]

theorem run_append_singleton (b : Board) (steps : List Step) (step : Step) :
    b.run (steps ++ [step]) = ((b.run steps).perform step).1 :=
  b.run_append steps [step]

/-! ## Additions and depths -/

theorem exists_attach_eq (b : Board) (i id : Nat) :
    ∃ sprites depths, (b.attach i id).1 = { b with sprites, depths } := by
  unfold attach
  split
  · exact ⟨_, _, rfl⟩
  · exact ⟨b.sprites, b.depths, rfl⟩

theorem exists_issue_eq (b : Board) (i : Nat) (built : Command.Built) :
    ∃ commands sprites depths, (b.issue i built).1 = { b with commands, sprites, depths } := by
  obtain ⟨sprites, depths, hattach⟩ := (b.newCommand built).exists_attach_eq i b.commands.size
  unfold issue
  split
  next hnext =>
    rw [hnext] at hattach
    exact ⟨_, sprites, depths, hattach⟩
  next => exact ⟨b.commands, _, b.depths, rfl⟩

theorem exists_perform_depth_eq (b : Board) (id : Nat) (depth : Int) :
    ∃ depths, (b.perform (.depth id depth)).1 = { b with depths } := by
  rcases Int.lt_or_le depth 0 with hneg | hnonneg
  · rw [perform_depth_of_neg b id hneg]
    exact ⟨b.depths, rfl⟩
  · rw [perform_depth_of_nonneg b id hnonneg]
    exact ⟨_, rfl⟩

/-! ## Depths -/

theorem depths_attach (b : Board) (i id : Nat) :
    (b.attach i id).1.depths = b.depths ∨
      ∃ s, b.sprites[i]? = some s ∧ 0 ≤ s.currentDepth ∧
        (b.attach i id).1.depths = ⟨b.depths.byCue.setIfInBounds id s.currentDepth.toNat⟩ := by
  unfold attach
  split
  next s cue hs hcue =>
    by_cases hdepth : s.currentDepth < 0
    · rw [Sprite.add_of_neg hdepth]
      exact Or.inl rfl
    · have hid : cue.id = id := by
        obtain ⟨command, -, rfl⟩ := Option.map_eq_some_iff.mp hcue
        rfl
      refine Or.inr ⟨s, hs, Int.not_lt.mp hdepth, ?_⟩
      rw [← hid]
      exact Sprite.depths_add_of_nonneg (Int.not_lt.mp hdepth) b.depths cue
  next => exact Or.inl rfl

/-! ## Commands -/

theorem commands_issue (b : Board) (i : Nat) (built : Command.Built) :
    (b.issue i built).1.commands = b.commands.push built.command ∨
      (b.issue i built).1.commands = b.commands := by
  obtain ⟨sprites, depths, hattach⟩ := (b.newCommand built).exists_attach_eq i b.commands.size
  unfold issue
  split
  next hnext =>
    rw [hnext] at hattach
    exact Or.inl (congrArg Board.commands hattach)
  next => exact Or.inr rfl

theorem exists_commands_perform_eq (b : Board) (step : Step) :
    ∃ later, (b.perform step).1.commands = b.commands ++ later := by
  have hsame : ∀ {b' : Board}, b'.commands = b.commands →
      ∃ later, b'.commands = b.commands ++ later :=
    fun h => ⟨#[], by rw [h, Array.append_empty]⟩
  cases step with
  | command built => exact ⟨#[built.command], Array.push_eq_append⟩
  | issue sprite built =>
      rcases b.commands_issue sprite built with hnew | hrefused
      · exact ⟨#[built.command], hnew.trans Array.push_eq_append⟩
      · exact hsame hrefused
  | attach sprite id =>
      obtain ⟨sprites, depths, heq⟩ := b.exists_attach_eq sprite id
      exact hsame (by rw [perform, heq])
  | depth id depth =>
      obtain ⟨depths, heq⟩ := b.exists_perform_depth_eq id depth
      exact hsame (by rw [heq])
  | enlist bundle sprite =>
      apply hsame
      simp only [perform, enlist]
      split
      · rfl
      · rfl
  | place bundle =>
      apply hsame
      simp only [perform, place]
      split
      · rfl
      · rfl
  | _ => exact hsame rfl

theorem cue?_perform {b : Board} {id : Nat} {cue : Cue} (h : b.cue? id = some cue) (step : Step) :
    (b.perform step).1.cue? id = some cue := by
  obtain ⟨later, hlater⟩ := b.exists_commands_perform_eq step
  obtain ⟨command, hcommand, rfl⟩ := Option.map_eq_some_iff.mp h
  have hlt : id < b.commands.size := (Array.getElem?_eq_some_iff.mp hcommand).1
  rw [cue?, hlater, Array.getElem?_append_left hlt, hcommand]
  rfl

theorem cue?_run {b : Board} {id : Nat} {cue : Cue} (h : b.cue? id = some cue)
    (steps : List Step) : (b.run steps).cue? id = some cue := by
  induction steps generalizing b with
  | nil => exact h
  | cons step rest ih =>
      rw [run_cons]
      exact ih (cue?_perform h step)

/-- Every command has a depth, and there are no other depths. -/
def HasDepths (b : Board) : Prop :=
  b.depths.byCue.size = b.commands.size

theorem HasDepths.newCommand {b : Board} (h : b.HasDepths) (built : Command.Built) :
    (b.newCommand built).HasDepths := by
  rw [HasDepths, Board.newCommand, Array.size_push, Depths.push, Array.size_push, h]

theorem HasDepths.attach {b : Board} (h : b.HasDepths) (i id : Nat) :
    (b.attach i id).1.HasDepths := by
  have hsize : (b.attach i id).1.depths.byCue.size = b.depths.byCue.size := by
    rcases b.depths_attach i id with hsame | ⟨s, -, -, hset⟩
    · rw [hsame]
    · rw [hset, Array.size_setIfInBounds]
  obtain ⟨sprites, depths, heq⟩ := b.exists_attach_eq i id
  rw [HasDepths, hsize, heq]
  exact h

theorem HasDepths.perform {b : Board} (h : b.HasDepths) (step : Step) :
    (b.perform step).1.HasDepths := by
  cases step with
  | command built => exact h.newCommand built
  | issue i built =>
      have hattach := (h.newCommand built).attach i b.commands.size
      show (b.issue i built).1.HasDepths
      unfold issue
      split
      next heq =>
        rw [heq] at hattach
        exact hattach
      next => exact h
  | attach i id => exact h.attach i id
  | depth id depth =>
      rcases Int.lt_or_le depth 0 with hneg | hnonneg
      · rw [HasDepths, perform_depth_of_neg b id hneg]
        exact h
      · rw [HasDepths, perform_depth_of_nonneg b id hnonneg, Array.size_setIfInBounds]
        exact h
  | enlist m i =>
      cases hfound : b.bundles[m]? with
      | none =>
          simp only [Board.perform, enlist, hfound]
          exact h
      | some found =>
          simp only [Board.perform, enlist, hfound]
          exact h
  | place m =>
      cases hfound : b.bundles[m]? with
      | none =>
          simp only [Board.perform, place, hfound]
          exact h
      | some found =>
          simp only [Board.perform, place, hfound]
          exact h
  | _ => exact h

theorem hasDepths_run (steps : List Step) {b : Board} (h : b.HasDepths) :
    (b.run steps).HasDepths := by
  induction steps generalizing b with
  | nil => exact h
  | cons step rest ih => exact ih (h.perform step)

theorem depths_get_perform_depth {b : Board} {id : Nat} (hid : id < b.depths.byCue.size)
    (depth : Int) :
    (b.perform (.depth id depth)).1.depths.get id =
      if depth < 0 then b.depths.get id else depth.toNat := by
  rcases Int.lt_or_le depth 0 with hneg | hnonneg
  · rw [perform_depth_of_neg b id hneg, if_pos hneg]
  · rw [perform_depth_of_nonneg b id hnonneg, if_neg (Int.not_lt.mpr hnonneg), Depths.get,
      Array.getElem?_setIfInBounds_self_of_lt hid]
    rfl

theorem depths_get_perform_depth_of_ne (b : Board) {id other : Nat} (h : id ≠ other)
    (depth : Int) : (b.perform (.depth id depth)).1.depths.get other = b.depths.get other := by
  rcases Int.lt_or_le depth 0 with hneg | hnonneg
  · rw [perform_depth_of_neg b id hneg]
  · rw [perform_depth_of_nonneg b id hnonneg, Depths.get, Array.getElem?_setIfInBounds_ne h]
    rfl

/-- The depth after some changes, of which those to a negative one are refused. -/
def changedDepth (depth : Nat) (changes : List Int) : Nat :=
  changes.foldl (fun depth change => if change < 0 then depth else change.toNat) depth

theorem depths_get_run_depth (changes : List Int) {b : Board} {id : Nat}
    (hid : id < b.depths.byCue.size) :
    (b.run (changes.map (.depth id))).depths.get id =
      changedDepth (b.depths.get id) changes := by
  induction changes generalizing b with
  | nil => rfl
  | cons change later ih =>
      have hsize : (b.perform (.depth id change)).1.depths.byCue.size = b.depths.byCue.size := by
        rcases Int.lt_or_le change 0 with hneg | hnonneg
        · rw [perform_depth_of_neg b id hneg]
        · rw [perform_depth_of_nonneg b id hnonneg, Array.size_setIfInBounds]
      rw [List.map_cons, run_cons, ih (hid.trans_eq hsize.symm), depths_get_perform_depth hid]
      rfl

/-! ## Bundles and their places -/

def bundleLayer? (b : Board) (bundle : Nat) : Option Layer :=
  b.bundles[bundle]?.map Bundle.layer

theorem modify_of_getElem?_eq_none {α : Type} {items : Array α} {i : Nat} (h : items[i]? = none)
    (change : α → α) : items.modify i change = items := by
  apply Array.ext_getElem?
  intro j
  rw [Array.getElem?_modify]
  split
  next hij =>
    rw [← hij, h]
    rfl
  next => rfl

theorem bundles_perform (b : Board) (step : Step) :
    (b.perform step).1.bundles =
      match step with
      | .bundle layer => b.bundles.push (.empty layer)
      | .bundleLayer target layer => b.bundles.modify target (·.onLayer layer)
      | .enlist target sprite => b.bundles.modify target (·.push sprite)
      | _ => b.bundles := by
  cases step with
  | issue sprite built =>
      obtain ⟨commands, sprites, depths, heq⟩ := b.exists_issue_eq sprite built
      simp only [perform, heq]
  | attach sprite id =>
      obtain ⟨sprites, depths, heq⟩ := b.exists_attach_eq sprite id
      simp only [perform, heq]
  | depth id depth =>
      obtain ⟨depths, heq⟩ := b.exists_perform_depth_eq id depth
      simp only [heq]
  | enlist target sprite =>
      cases hfound : b.bundles[target]? with
      | none => simp only [perform, enlist, hfound, modify_of_getElem?_eq_none hfound]
      | some found => simp only [perform, enlist, hfound, changeBundle, changeSprite]
  | place bundle =>
      cases hfound : b.bundles[bundle]? with
      | none => simp only [perform, place, hfound]
      | some found => simp only [perform, place, hfound]
  | _ => rfl

theorem bundleLayer?_perform (b : Board) (step : Step) (m : Nat) :
    (b.perform step).1.bundleLayer? m =
      match step with
      | .bundle layer => if m = b.bundles.size then some layer else b.bundleLayer? m
      | .bundleLayer j layer =>
          if j = m then (b.bundleLayer? m).map fun _ => layer else b.bundleLayer? m
      | _ => b.bundleLayer? m := by
  rw [bundleLayer?, bundles_perform, bundleLayer?]
  cases step with
  | bundle layer =>
      rw [Array.getElem?_push]
      split
      · rfl
      · rfl
  | bundleLayer j layer =>
      dsimp only
      rw [Array.getElem?_modify]
      split
      · rw [Option.map_map, Option.map_map]
        rfl
      · rfl
  | enlist j i =>
      rw [Array.getElem?_modify]
      split
      · rw [Option.map_map]
        rfl
      · rfl
  | _ => rfl

theorem bundleSprites_perform (b : Board) (step : Step) (m : Nat) :
    (b.perform step).1.bundleSprites m =
      match step with
      | .enlist j i =>
          if j = m ∧ m < b.bundles.size then b.bundleSprites m ++ [i] else b.bundleSprites m
      | _ => b.bundleSprites m := by
  rw [bundleSprites, bundles_perform, bundleSprites]
  cases step with
  | bundle layer =>
      rw [Array.getElem?_push]
      split
      next hnew =>
        rw [hnew, Array.getElem?_size]
        rfl
      next => rfl
  | bundleLayer j layer =>
      rw [Array.getElem?_modify]
      split
      · rw [Option.map_map]
        rfl
      · rfl
  | enlist j i =>
      dsimp only
      rw [Array.getElem?_modify]
      by_cases hj : j = m
      · cases hfound : b.bundles[m]? with
        | none =>
            have hout : ¬ m < b.bundles.size :=
              fun hlt => by simp [Array.getElem?_eq_getElem hlt] at hfound
            rw [if_pos hj, if_neg fun h => hout h.2]
            rfl
        | some found =>
            have hin : m < b.bundles.size := (Array.getElem?_eq_some_iff.mp hfound).1
            rw [if_pos hj, if_pos ⟨hj, hin⟩]
            rfl
      · rw [if_neg hj, if_neg fun h => hj h.1]
  | _ => rfl

theorem placed_perform (b : Board) (step : Step) :
    (b.perform step).1.placed =
      match step with
      | .place bundle => b.placed ++ ((b.bundleLayer? bundle).map (·, bundle)).toList
      | _ => b.placed := by
  cases step with
  | issue sprite built =>
      obtain ⟨commands, sprites, depths, heq⟩ := b.exists_issue_eq sprite built
      simp only [perform, heq]
  | attach sprite id =>
      obtain ⟨sprites, depths, heq⟩ := b.exists_attach_eq sprite id
      simp only [perform, heq]
  | depth id depth =>
      obtain ⟨depths, heq⟩ := b.exists_perform_depth_eq id depth
      simp only [heq]
  | enlist target sprite =>
      cases hfound : b.bundles[target]? with
      | none => simp only [perform, enlist, hfound]
      | some found => simp only [perform, enlist, hfound, changeBundle, changeSprite]
  | place bundle =>
      cases hfound : b.bundles[bundle]? with
      | none => simp [perform, place, bundleLayer?, hfound]
      | some found => simp [perform, place, bundleLayer?, hfound]
  | _ => rfl

/-! ## Sprites and their layers -/

def spriteLayer? (b : Board) (sprite : Nat) : Option Layer :=
  b.sprites[sprite]?.map Sprite.layer

theorem spriteLayer?_atDepth (b : Board) (j i : Nat) (depth : Int) :
    (b.changeSprite j (·.atDepth depth)).spriteLayer? i = b.spriteLayer? i := by
  rw [spriteLayer?, changeSprite, Array.getElem?_modify, spriteLayer?]
  split
  · rw [Option.map_map]
    rfl
  · rfl

theorem spriteLayer?_onLayer (b : Board) (j i : Nat) (layer : Layer) :
    (b.changeSprite j (·.onLayer layer)).spriteLayer? i =
      if j = i then (b.spriteLayer? i).map fun _ => layer else b.spriteLayer? i := by
  rw [spriteLayer?, changeSprite, Array.getElem?_modify, spriteLayer?]
  split
  · rw [Option.map_map, Option.map_map]
    rfl
  · rfl

theorem spriteLayer?_attach (b : Board) (j id i : Nat) :
    (b.attach j id).1.spriteLayer? i = b.spriteLayer? i := by
  unfold attach
  split
  next s cue hs _ =>
    rw [spriteLayer?, Array.getElem?_setIfInBounds]
    split
    next hj =>
      rw [if_pos (Array.getElem?_eq_some_iff.mp hs).1, spriteLayer?, ← hj, hs]
      exact congrArg some (s.layer_add b.depths cue)
    next => rfl
  next => rfl

theorem spriteLayer?_issue (b : Board) (j i : Nat) (built : Command.Built) :
    (b.issue j built).1.spriteLayer? i = b.spriteLayer? i := by
  rw [spriteLayer?, sprites_issue]
  exact (b.newCommand built).spriteLayer?_attach j b.commands.size i

theorem spriteLayer?_perform (b : Board) (step : Step) (i : Nat) :
    (b.perform step).1.spriteLayer? i =
      match step with
      | .sprite _ => if i = b.sprites.size then some .background else b.spriteLayer? i
      | .spriteLayer j layer =>
          if j = i then (b.spriteLayer? i).map fun _ => layer else b.spriteLayer? i
      | .enlist m j =>
          if j = i then (b.spriteLayer? i).map fun old => (b.bundleLayer? m).getD old
          else b.spriteLayer? i
      | _ => b.spriteLayer? i := by
  cases step with
  | sprite figure =>
      show (b.sprites.push (.ofFigure figure))[i]?.map Sprite.layer = _
      rw [Array.getElem?_push]
      split
      · rfl
      · rfl
  | issue j built => exact b.spriteLayer?_issue j i built
  | attach j id => exact b.spriteLayer?_attach j id i
  | depth id depth =>
      rw [spriteLayer?, sprites_perform_depth]
      rfl
  | currentDepth j depth => exact b.spriteLayer?_atDepth j i depth
  | spriteLayer j layer => exact b.spriteLayer?_onLayer j i layer
  | enlist m j =>
      cases hfound : b.bundles[m]? with
      | none =>
          simp only [perform, enlist, bundleLayer?, hfound]
          split
          · exact (Option.map_id_apply).symm
          · rfl
      | some found =>
          simp only [perform, enlist, bundleLayer?, hfound]
          exact (b.changeBundle m (·.push j)).spriteLayer?_onLayer j i found.layer
  | place m =>
      cases hfound : b.bundles[m]? with
      | none => simp only [perform, place, hfound]
      | some found =>
          simp only [perform, place, hfound]
          rfl
  | _ => rfl

theorem exists_bundleLayer? {b : Board} {m : Nat} (h : m < b.bundles.size) :
    ∃ layer, b.bundleLayer? m = some layer :=
  ⟨b.bundles[m].layer, congrArg (Option.map Bundle.layer) (Array.getElem?_eq_getElem h)⟩

theorem exists_spriteLayer? {b : Board} {i : Nat} (h : i < b.sprites.size) :
    ∃ layer, b.spriteLayer? i = some layer :=
  ⟨b.sprites[i].layer, congrArg (Option.map Sprite.layer) (Array.getElem?_eq_getElem h)⟩

end Board
end Storyboard
