import Mathlib
import Storyboard.Proofs.Sprite.AdditionOrder

/-!
# Declaring commands in any order

A sprite is declared with a layer, a depth and some commands, which are added one after the other.
Two declarations that differ in the order of the commands come out the same, as long as every two
commands of one kind and one earlier time are added in the same order.
-/

namespace Storyboard
namespace Board

/-! ## Declarations -/

section Declaration

variable (figure : Figure) (layer : Layer) (depth : Int) (events : List Command.Built)

/-- Makes a sprite on a layer, at a depth for new commands, and commands for it. -/
def preparation : List Step :=
  [.sprite figure, .spriteLayer 0 layer, .currentDepth 0 depth] ++ events.map .command

/-- Adds some of the commands to the sprite, in some order. -/
def attachments (order : List (Fin events.length)) : List Step :=
  order.map fun id : Fin events.length => .attach 0 id

/-- The board of a sprite to which commands were added in some order, all at one depth. -/
def declaration (order : List (Fin events.length)) : Board :=
  empty.run (preparation figure layer depth events ++ attachments events order)

def eventCue (id : Fin events.length) : Cue :=
  ⟨id, events[id].command⟩

def bareSprite : Sprite :=
  ((Sprite.ofFigure figure).onLayer layer).atDepth depth

/-- The depth of a cue after commands were added at one depth. -/
def depthAfter (added : List Cue) (id : Nat) : Nat :=
  if id ∈ added.map Cue.id then depth.toNat else (events[id]?.map Command.Built.depth).getD 0

end Declaration

section Run

variable {figure : Figure} {layer : Layer} {depth : Int} {events : List Command.Built}

theorem run_commands (b : Board) (events : List Command.Built) :
    b.run (events.map .command) =
      { b with
        commands := b.commands ++ events.map Command.Built.command
        depths := ⟨b.depths.byCue ++ events.map Command.Built.depth⟩ } := by
  induction events generalizing b with
  | nil => simp
  | cons built rest ih =>
      rw [List.map_cons, run_cons, ih]
      simp [perform, newCommand, Depths.push]

theorem run_preparation :
    empty.run (preparation figure layer depth events) =
      { commands := (events.map Command.Built.command).toArray
        depths := ⟨(events.map Command.Built.depth).toArray⟩
        sprites := #[bareSprite figure layer depth]
        bundles := #[]
        placed := [] } := by
  rw [preparation, run_append, run_commands]
  simp [run, perform, newSprite, changeSprite, empty, Depths.empty, bareSprite]

/-- What is true of a declaration after some cues were added. -/
structure Declared (figure : Figure) (layer : Layer) (depth : Int) (events : List Command.Built)
    (b : Board) (s : Sprite) (added : List Cue) : Prop where
  sprite : b.sprites[0]? = some s
  figure : s.toFigure = figure
  layer : s.layer = layer
  currentDepth : s.currentDepth = depth
  records : s.Records added
  spans : s.Spans added
  cues : ∀ id : Fin events.length, b.cue? id = some (eventCue events id)
  size : b.depths.byCue.size = events.length
  depths : ∀ id, b.depths.get id = depthAfter depth events added id

theorem declared_preparation :
    Declared figure layer depth events (empty.run (preparation figure layer depth events))
      (bareSprite figure layer depth) [] := by
  rw [run_preparation]
  exact
    { sprite := rfl
      figure := rfl
      layer := rfl
      currentDepth := rfl
      records := (Sprite.records_ofFigure figure).of_timelines_eq rfl
      spans := (Sprite.spans_ofFigure figure).of_span_eq rfl
      cues := by simp [cue?, eventCue]
      size := by simp
      depths := by simp [Depths.get, depthAfter] }

theorem attach_of_nonneg {b : Board} {i id : Nat} {s : Sprite} {cue : Cue}
    (hs : b.sprites[i]? = some s) (hcue : b.cue? id = some cue) (h : 0 ≤ s.currentDepth) :
    (b.attach i id).1 =
      { b with
        sprites := b.sprites.setIfInBounds i (s.add b.depths cue).sprite
        depths := ⟨b.depths.byCue.setIfInBounds cue.id s.currentDepth.toNat⟩ } := by
  simp only [attach, hs, hcue, Sprite.depths_add_of_nonneg h]

theorem depthAfter_append_singleton (added : List Cue) (cue : Cue) (id : Nat) :
    depthAfter depth events (added ++ [cue]) id =
      if id = cue.id then depth.toNat else depthAfter depth events added id := by
  by_cases h : id = cue.id
  · simp [depthAfter, h]
  · simp [depthAfter, h]

theorem Declared.attach {b : Board} {s : Sprite} {added : List Cue}
    (h : Declared figure layer depth events b s added) (hdepth : 0 ≤ depth)
    (id : Fin events.length) :
    Declared figure layer depth events (b.attach 0 id).1
      (s.add b.depths (eventCue events id)).sprite (added ++ [eventCue events id]) := by
  have hcurrent : 0 ≤ s.currentDepth := by
    rw [h.currentDepth]
    exact hdepth
  have hsprite := (Sprite.add_of_nonneg hcurrent b.depths (eventCue events id)).1
  have hbound : 0 < b.sprites.size := (Array.getElem?_eq_some_iff.mp h.sprite).1
  rw [attach_of_nonneg h.sprite (h.cues id) hcurrent]
  exact
    { sprite := Array.getElem?_setIfInBounds_self_of_lt hbound
      figure := by
        rw [hsprite]
        exact h.figure
      layer := by
        rw [hsprite]
        exact h.layer
      currentDepth := by
        rw [hsprite]
        exact h.currentDepth
      records := h.records.add hcurrent b.depths (eventCue events id)
      spans := h.spans.add hcurrent b.depths (eventCue events id)
      cues := h.cues
      size := by
        rw [Array.size_setIfInBounds]
        exact h.size
      depths := by
        intro other
        rw [depthAfter_append_singleton, ← h.depths other, h.currentDepth, Depths.get, Depths.get,
          Array.getElem?_setIfInBounds]
        by_cases hid : other = id
        · simp [hid, h.size, eventCue]
        · simp [hid, Ne.symm hid, eventCue] }

theorem Declared.run {b : Board} {s : Sprite} {added : List Cue}
    (h : Declared figure layer depth events b s added) (hdepth : 0 ≤ depth)
    (order : List (Fin events.length)) :
    ∃ s', Declared figure layer depth events (b.run (attachments events order)) s'
      (added ++ order.map (eventCue events)) := by
  -- On the commands still to be added; `Declared.attach` is the step.
  induction order generalizing b s added with
  | nil => exact ⟨s, by simpa [attachments] using h⟩
  | cons id rest ih =>
      obtain ⟨s', hs'⟩ := ih (h.attach hdepth id)
      refine ⟨s', ?_⟩
      rw [List.append_assoc] at hs'
      exact hs'

theorem exists_declared (figure : Figure) (layer : Layer) (hdepth : 0 ≤ depth)
    (order : List (Fin events.length)) :
    ∃ s, Declared figure layer depth events (declaration figure layer depth events order) s
      (order.map (eventCue events)) := by
  rw [declaration, run_append]
  exact declared_preparation.run hdepth order

end Run

/-! ## Two orders -/

/-- Two orders agree on every two commands of one kind and one earlier time. -/
def AgreeOnTies (events : List Command.Built) (order order' : List (Fin events.length)) : Prop :=
  ∀ a b, [a, b].Sublist order → events[a].command.kind = events[b].command.kind →
    events[a].command.low = events[b].command.low → [a, b].Sublist order'

section Orders

variable {figure : Figure} {layer : Layer} {depth : Int} {events : List Command.Built}
  {order order' : List (Fin events.length)}

theorem sameGroups_of_agreeOnTies (hnodup : order.Nodup) (hperm : order.Perm order')
    (hties : AgreeOnTies events order order') :
    Sprite.SameGroups (order.map (eventCue events)) (order'.map (eventCue events)) := by
  intro kind low
  unfold Sprite.group
  rw [List.filter_map, List.filter_map, List.filter_map, List.filter_map, List.filter_filter,
    List.filter_filter]
  congr 1
  apply filter_eq_filter_of_perm hnodup hperm
  intro a b ha hb hab
  simp only [Function.comp_apply, eventCue, Bool.and_eq_true] at ha hb
  obtain ⟨halow, hakind⟩ := ha
  obtain ⟨hblow, hbkind⟩ := hb
  exact hties a b hab ((of_decide_eq_true hakind).trans (of_decide_eq_true hbkind).symm)
    ((of_decide_eq_true halow).trans (of_decide_eq_true hblow).symm)

theorem Declared.reordered {b b' : Board} {s s' : Sprite}
    (h : Declared figure layer depth events b s (order.map (eventCue events)))
    (h' : Declared figure layer depth events b' s' (order'.map (eventCue events)))
    (hnodup : order.Nodup) (hperm : order.Perm order') (hties : AgreeOnTies events order order') :
    Sprite.Reordered b.depths b'.depths s s' (order.map (eventCue events))
      (order'.map (eventCue events)) where
  figure := h.figure.trans h'.figure.symm
  layer := h.layer.trans h'.layer.symm
  depth := by
    intro id
    have hmem := ((hperm.map (eventCue events)).map Cue.id).mem_iff (a := id)
    rw [h.depths, h'.depths, depthAfter, depthAfter]
    simp only [hmem]
  records := h.records
  records' := h'.records
  spans := h.spans
  spans' := h'.spans
  groups := sameGroups_of_agreeOnTies hnodup hperm hties

end Orders

/-! ## Main result -/

/--
The order in which commands are declared does not matter, except among commands of one kind and one
earlier time: text, span, written commands and states are the same.
-/
theorem declaration_ignores_order (figure : Figure) (layer : Layer) (depth : Int)
    (hdepth : 0 ≤ depth) (events : List Command.Built) (order order' : List (Fin events.length))
    (hnodup : order.Nodup) (hperm : order.Perm order') (hties : AgreeOnTies events order order') :
    ∃ s s' : Sprite,
      (declaration figure layer depth events order).sprites[0]? = some s ∧
      (declaration figure layer depth events order').sprites[0]? = some s' ∧
      s.text (declaration figure layer depth events order).depths =
        s'.text (declaration figure layer depth events order').depths ∧
      s.span = s'.span ∧
      (∀ kind, s.events (declaration figure layer depth events order).depths kind =
        s'.events (declaration figure layer depth events order').depths kind) ∧
      ∀ time, s.stateAt (declaration figure layer depth events order).depths time =
        s'.stateAt (declaration figure layer depth events order').depths time := by
  obtain ⟨s, hs⟩ := exists_declared figure layer hdepth order
  obtain ⟨s', hs'⟩ := exists_declared figure layer hdepth order'
  have hreordered := hs.reordered hs' hnodup hperm hties
  exact ⟨s, s', hs.sprite, hs'.sprite, hreordered.text_eq, hreordered.span_eq,
    hreordered.events_eq, hreordered.stateAt_eq⟩

def centered : Figure :=
  { path := "star.png", origin := .centre, position := Figure.defaultPosition, animation := none }

/-- Three fades that overlap; the last two start together. -/
def overlapping : List Command.Built :=
  [⟨⟨500, .linear, .scalar .fade (.change 1500 1 0)⟩, 0⟩,
    ⟨⟨0, .linear, .scalar .fade (.change 1000 0 1)⟩, 0⟩,
    ⟨⟨0, .linear, .scalar .fade (.hold 1 none)⟩, 0⟩]

def asListed : List (Fin overlapping.length) :=
  List.finRange overlapping.length

theorem declaration_of_overlapping :
    (0 : Int) ≤ 2 ∧ asListed.Nodup ∧ asListed.Perm (asListed.rotate 1) ∧
      AgreeOnTies overlapping asListed (asListed.rotate 1) ∧ asListed ≠ asListed.rotate 1 ∧
    ∃ s s' : Sprite,
      (declaration centered .overlay 2 overlapping asListed).sprites[0]? = some s ∧
      (declaration centered .overlay 2 overlapping (asListed.rotate 1)).sprites[0]? = some s' ∧
      s.text (declaration centered .overlay 2 overlapping asListed).depths =
        s'.text (declaration centered .overlay 2 overlapping (asListed.rotate 1)).depths ∧
      s.span = s'.span ∧
      (∀ kind, s.events (declaration centered .overlay 2 overlapping asListed).depths kind =
        s'.events (declaration centered .overlay 2 overlapping (asListed.rotate 1)).depths kind) ∧
      ∀ time, s.stateAt (declaration centered .overlay 2 overlapping asListed).depths time =
        s'.stateAt (declaration centered .overlay 2 overlapping (asListed.rotate 1)).depths
          time := by
  have hnodup : asListed.Nodup := List.nodup_finRange _
  have hperm : asListed.Perm (asListed.rotate 1) := (List.rotate_perm asListed 1).symm
  have hties : AgreeOnTies overlapping asListed (asListed.rotate 1) := by
    unfold AgreeOnTies
    decide +kernel
  exact ⟨by decide, hnodup, hperm, hties, by decide +kernel,
    declaration_ignores_order centered .overlay 2 (by decide) overlapping asListed
      (asListed.rotate 1) hnodup hperm hties⟩

end Board
end Storyboard
