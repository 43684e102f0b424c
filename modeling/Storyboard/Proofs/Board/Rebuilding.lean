import Mathlib
import Storyboard.Proofs.Board.DeclarationOrder
import Storyboard.Proofs.Board.StepEffects
import Storyboard.Proofs.Sprite.Lifetime

/-!
# Building a sprite again from what it writes

The commands that a sprite writes are fewer than those that were added to it, and stand in another
order.  A new sprite with the same header that is given just these, at the depth they have, writes
them again.  Sorting and leaving out repetitions have nothing left to do then, and a command that
was left out had the same times as the one that was written in its place, so that the span is the
same, too.

The span is the one thing that may differ: a refused addition widens it and leaves nothing to write.
-/

namespace Storyboard

/-! ## The written commands, kind by kind -/

/-- Lists of commands, one for each kind, are found again in their concatenation. -/
theorem filter_flatMap_kind {kinds : List Kind} (hnodup : kinds.Nodup) {kind : Kind}
    (hmem : kind ∈ kinds) {cues : Kind → List Cue}
    (hcues : ∀ j, ∀ cue ∈ cues j, cue.command.kind = j) :
    ((kinds.flatMap cues).filter fun cue => cue.command.kind = kind) = cues kind := by
  have hother : ∀ j, j ≠ kind → ((cues j).filter fun cue => cue.command.kind = kind) = [] := by
    intro j hj
    rw [List.filter_eq_nil_iff]
    intro cue hcue
    simpa [hcues j cue hcue] using hj
  have hothers : ∀ js : List Kind, kind ∉ js →
      ((js.flatMap cues).filter fun cue => cue.command.kind = kind) = [] := by
    intro js hjs
    rw [List.filter_flatMap, List.flatMap_eq_nil_iff]
    intro j hj
    exact hother j fun heq => hjs (heq ▸ hj)
  have hown : ((cues kind).filter fun cue => cue.command.kind = kind) = cues kind := by
    rw [List.filter_eq_self]
    intro cue hcue
    exact decide_eq_true (hcues kind cue hcue)
  obtain ⟨front, rest, rfl⟩ := List.append_of_mem hmem
  rw [List.nodup_middle, List.nodup_cons, List.mem_append, not_or] at hnodup
  rw [List.flatMap_append, List.flatMap_cons, List.filter_append, List.filter_append,
    hothers front hnodup.1.1, hown, hothers rest hnodup.1.2, List.nil_append, List.append_nil]

namespace Sprite

section Records

variable {s s' : Sprite} {added : List Cue} {depths depths' : Depths} {kinds : List Kind}

theorem Records.inOrder_events (h : s.Records added) (hkinds : kinds.Perm Kind.all) (kind : Kind) :
    inOrder kind (kinds.flatMap (s.events depths)) = s.events depths kind := by
  have hnodup : kinds.Nodup := hkinds.nodup_iff.mpr (by decide)
  have hmem : kind ∈ kinds := hkinds.mem_iff.mpr (Kind.mem_all kind)
  rw [inOrder, filter_flatMap_kind hnodup hmem fun _ _ hcue => h.kind_of_mem_events hcue]
  exact sortedBy_eq_self h.pairwise_events

/-- A sprite that was given the written commands of another one writes the same commands. -/
theorem Records.events_rebuilt (h : s.Records added)
    (h' : s'.Records (kinds.flatMap (s.events depths))) (hkinds : kinds.Perm Kind.all)
    (hdepths : ∀ id, depths'.get id = depths.get id) (kind : Kind) :
    s'.events depths' kind = s.events depths kind := by
  have hnodup : ((s.events depths kind).map (Cue.line depths)).Nodup := by
    rw [h.map_line_events]
    exact nodup_linesInOrder depths kind added
  rw [h'.events_eq, h.inOrder_events hkinds, Cue.line_congr hdepths]
  exact firstsBy_eq_self hnodup

theorem Records.mem_of_mem_flatMap_events (h : s.Records added) {cue : Cue}
    (hcue : cue ∈ kinds.flatMap (s.events depths)) : cue ∈ added := by
  obtain ⟨kind, -, hcue⟩ := List.mem_flatMap.mp hcue
  exact h.mem_of_mem_events hcue

theorem Records.within_events (h : s.Records added) (hkinds : kinds.Perm Kind.all) :
    Span.Within added (kinds.flatMap (s.events depths)) := by
  intro cue hcue
  obtain ⟨written, hwritten, hline⟩ := exists_mem_firstsBy (Cue.line depths)
    (mem_inOrder.mpr ⟨hcue, rfl⟩ : cue ∈ inOrder cue.command.kind added)
  have halike := Cue.alike_of_line_eq hline
  rw [← h.events_eq] at hwritten
  have hmem : cue.command.kind ∈ kinds := hkinds.mem_iff.mpr (Kind.mem_all _)
  exact ⟨written, List.mem_flatMap.mpr ⟨_, hmem, hwritten⟩, halike.low, halike.high⟩

theorem Records.span_rebuilt (h : s.Records added) (hspans : s.Spans added)
    (hspans' : s'.Spans (kinds.flatMap (s.events depths))) (hkinds : kinds.Perm Kind.all) :
    s'.span = s.span := by
  apply hspans'.span_eq hspans
  · exact fun cue hcue => ⟨cue, h.mem_of_mem_flatMap_events hcue, rfl, rfl⟩
  · exact h.within_events hkinds

end Records
end Sprite

/-! ## Commands that were added -/

theorem Depths.get_setIfInBounds (depths : Depths) (id : Nat) {depth : Nat}
    (h : depths.get id = depth) (other : Nat) :
    Depths.get ⟨depths.byCue.setIfInBounds id depth⟩ other = depths.get other := by
  rw [get, get, Array.getElem?_setIfInBounds]
  split
  next hid =>
    subst hid
    split
    · exact h.symm
    next hout => rw [Array.getElem?_eq_none (Nat.not_lt.mp hout)]
  next => rfl

namespace Board

theorem cue?_of_addition? {b : Board} {i : Nat} {step : Step} {cue : Cue}
    (h : b.addition? i step = some cue) : (b.perform step).1.cue? cue.id = some cue := by
  unfold addition? at h
  split at h
  next s hs =>
    split at h
    next => cases h
    next hdepth =>
      rcases eq_of_called? h with ⟨built, rfl, rfl⟩ | ⟨id, rfl, hcue⟩
      · obtain ⟨sprites, depths, heq⟩ := (b.newCommand built).exists_attach_eq i b.commands.size
        rw [perform, issue_eq_attach hs (Int.not_lt.mp hdepth), heq]
        exact cue?_newCommand b built
      · have hid : cue.id = id := by
          obtain ⟨command, -, rfl⟩ := Option.map_eq_some_iff.mp hcue
          rfl
        rw [hid]
        exact cue?_perform hcue _
  next => cases h

theorem cue?_of_mem_additions {b : Board} {i : Nat} {steps : List Step} {cue : Cue}
    (h : cue ∈ additions i b steps) : (b.run steps).cue? cue.id = some cue := by
  induction steps generalizing b with
  | nil => cases h
  | cons step rest ih =>
      rw [run_cons]
      rcases List.mem_append.mp h with hnow | hlater
      · exact cue?_run (cue?_of_addition? (Option.mem_toList.mp hnow)) rest
      · exact ih hlater

/-! ## Rebuilding -/

/-- Makes a sprite with the header of another one, at a depth for new commands. -/
def copying (b : Board) (s : Sprite) (depth : Nat) : List Step :=
  [.sprite s.toFigure, .spriteLayer b.sprites.size s.layer, .currentDepth b.sprites.size depth]

/-- Adds some commands of the board to the sprite that is made next. -/
def giving (b : Board) (cues : List Cue) : List Step :=
  cues.map fun cue => .attach b.sprites.size cue.id

/-- Makes a sprite again, from what it writes of some kinds at a depth for new commands. -/
def rebuilding (b : Board) (s : Sprite) (depth : Nat) (kinds : List Kind) : List Step :=
  b.copying s depth ++ b.giving (kinds.flatMap (s.events b.depths))

/-- What is true of the new sprite and its board after some cues were given to it. -/
structure Copied (b : Board) (s : Sprite) (depth : Nat) (b' : Board) (s' : Sprite)
    (given : List Cue) : Prop where
  sprite : b'.sprites[b.sprites.size]? = some s'
  figure : s'.toFigure = s.toFigure
  layer : s'.layer = s.layer
  currentDepth : s'.currentDepth = depth
  records : s'.Records given
  spans : s'.Spans given
  commands : b'.commands = b.commands
  depths : ∀ id, b'.depths.get id = b.depths.get id
  others : ∀ j < b.sprites.size, b'.sprites[j]? = b.sprites[j]?

theorem copied_copying (b : Board) (s : Sprite) (depth : Nat) :
    Copied b s depth (b.run (b.copying s depth)) (bareSprite s.toFigure s.layer depth) [] where
  sprite := by
    simp only [copying, run, List.foldl_cons, List.foldl_nil, perform, newSprite, changeSprite,
      Array.getElem?_modify, if_true, Array.getElem?_push_size]
    rfl
  figure := rfl
  layer := rfl
  currentDepth := rfl
  records := (Sprite.records_ofFigure s.toFigure).of_timelines_eq rfl
  spans := (Sprite.spans_ofFigure s.toFigure).of_span_eq rfl
  commands := rfl
  depths := fun _ => rfl
  others := by
    intro j hj
    simp only [copying, run, List.foldl_cons, List.foldl_nil, perform, newSprite, changeSprite,
      Array.getElem?_modify, if_neg hj.ne', Array.getElem?_push, if_neg hj.ne]

theorem Copied.attach {b b' : Board} {s s' : Sprite} {depth : Nat} {given : List Cue}
    (h : Copied b s depth b' s' given) {cue : Cue} (hcue : b.cue? cue.id = some cue)
    (hdepth : b.depths.get cue.id = depth) :
    Copied b s depth (b'.attach b.sprites.size cue.id).1 (s'.add b'.depths cue).sprite
      (given ++ [cue]) := by
  have hcurrent : 0 ≤ s'.currentDepth := by
    rw [h.currentDepth]
    exact Int.natCast_nonneg depth
  have hfound : b'.cue? cue.id = some cue := by
    rw [cue?, h.commands]
    exact hcue
  have hsprite := (Sprite.add_of_nonneg hcurrent b'.depths cue).1
  have hbound : b.sprites.size < b'.sprites.size := (Array.getElem?_eq_some_iff.mp h.sprite).1
  rw [attach_of_nonneg h.sprite hfound hcurrent]
  exact
    { sprite := Array.getElem?_setIfInBounds_self_of_lt hbound
      figure := by
        rw [hsprite]
        exact h.figure
      layer := by
        rw [hsprite]
        exact h.layer
      currentDepth := by
        rw [hsprite]
        exact h.currentDepth
      records := h.records.add hcurrent b'.depths cue
      spans := h.spans.add hcurrent b'.depths cue
      commands := h.commands
      depths := by
        intro other
        rw [h.currentDepth, Int.toNat_natCast]
        rw [Depths.get_setIfInBounds b'.depths cue.id ((h.depths cue.id).trans hdepth), h.depths]
      others := by
        intro j hj
        rw [Array.getElem?_setIfInBounds_ne hj.ne']
        exact h.others j hj }

theorem Copied.giving {b b' : Board} {s s' : Sprite} {depth : Nat} {given : List Cue}
    (h : Copied b s depth b' s' given) {cues : List Cue}
    (hcues : ∀ cue ∈ cues, b.cue? cue.id = some cue ∧ b.depths.get cue.id = depth) :
    ∃ s'', Copied b s depth (b'.run (b.giving cues)) s'' (given ++ cues) := by
  -- On the commands still to be given; `Copied.attach` is the step.
  induction cues generalizing b' s' given with
  | nil => exact ⟨s', by simpa [Board.giving] using h⟩
  | cons cue rest ih =>
      obtain ⟨hcue, hdepth⟩ := hcues cue List.mem_cons_self
      obtain ⟨s'', hs''⟩ := ih (h.attach hcue hdepth) fun later hlater =>
        hcues later (List.mem_cons_of_mem cue hlater)
      refine ⟨s'', ?_⟩
      rw [List.append_assoc] at hs''
      exact hs''

/-! ## Main result -/

/-- A sprite that was made from another one is written like it and has the same commands. -/
structure Rebuilt (b : Board) (s : Sprite) (b' : Board) (s' : Sprite) : Prop where
  figure : s'.toFigure = s.toFigure
  layer : s'.layer = s.layer
  depths : ∀ id, b'.depths.get id = b.depths.get id
  text : s'.text b'.depths = s.text b.depths
  events : ∀ kind, s'.events b'.depths kind = s.events b.depths kind

/--
A sprite all of whose commands have one depth is the same when it is built again from what it
writes, the kinds in any order.  Its span is, too, if no addition to it was ever refused.
-/
theorem rebuilt_of_run (steps : List Step) (i : Nat) (s : Sprite)
    (h : (empty.run steps).sprites[i]? = some s) (depth : Nat)
    (hdepth : ∀ cue ∈ added steps i, (empty.run steps).depths.get cue.id = depth)
    (kinds : List Kind) (hkinds : kinds.Perm Kind.all) :
    let b := empty.run steps
    let b' := b.run (b.rebuilding s depth kinds)
    ∃ s', b'.sprites[i]? = some s ∧ b'.sprites[b.sprites.size]? = some s' ∧ Rebuilt b s b' s' ∧
      (TakesAll i empty steps → s'.span = s.span) := by
  intro b b'
  have hrecords : s.Records (added steps i) := records_of_run h
  have hbound : i < b.sprites.size := (Array.getElem?_eq_some_iff.mp h).1
  obtain ⟨s', hs'⟩ := (copied_copying b s depth).giving fun cue hcue =>
    have hadded : cue ∈ added steps i := hrecords.mem_of_mem_flatMap_events hcue
    ⟨cue?_of_mem_additions hadded, hdepth cue hadded⟩
  rw [← run_append] at hs'
  have hevents := hrecords.events_rebuilt hs'.records hkinds hs'.depths
  refine ⟨s', (hs'.others i hbound).trans h, hs'.sprite, ?_, ?_⟩
  · exact
      { figure := hs'.figure
        layer := hs'.layer
        depths := hs'.depths
        text := Sprite.text_eq_of_events_eq (Sprite.header_congr hs'.figure hs'.layer) hevents
          hs'.depths
        events := hevents }
  · intro htaken
    exact hrecords.span_rebuilt (spans_of_takesAll h htaken) hs'.spans hkinds

/-- A flip and two fades, one of them backwards, at one depth; each of them comes twice. -/
def repeating : List Step :=
  [.sprite centered, .spriteLayer 0 .overlay, .currentDepth 0 2,
    .issue 0 ⟨⟨40, .linear, .flag .hflip 60⟩, 0⟩,
    .issue 0 ⟨⟨500, .linear, .scalar .fade (.change (-100) 1 0)⟩, 0⟩, .currentDepth 0 (-1),
    .currentDepth 0 2, .issue 0 ⟨⟨900, .linear, .scalar .fade (.hold 1 none)⟩, 0⟩, .attach 0 1,
    .issue 0 ⟨⟨900, .linear, .scalar .fade (.hold 1 none)⟩, 0⟩, .attach 0 0]

theorem rebuilt_of_repeating :
    ∃ s s' : Sprite, (empty.run repeating).sprites[0]? = some s ∧
      (∀ cue ∈ added repeating 0, (empty.run repeating).depths.get cue.id = 2) ∧
      Kind.all.reverse.Perm Kind.all ∧ TakesAll 0 empty repeating ∧
      (added repeating 0).length = 6 ∧
      Rebuilt (empty.run repeating) s
        ((empty.run repeating).run ((empty.run repeating).rebuilding s 2 Kind.all.reverse)) s' ∧
      s'.span = s.span := by
  have hdepth : ∀ cue ∈ added repeating 0, (empty.run repeating).depths.get cue.id = 2 := by
    decide +kernel
  have htaken : TakesAll 0 empty repeating := by decide +kernel
  have hkinds : Kind.all.reverse.Perm Kind.all := List.reverse_perm Kind.all
  obtain ⟨s', -, -, hrebuilt, hspan⟩ :=
    rebuilt_of_run repeating 0 _ rfl 2 hdepth Kind.all.reverse hkinds
  exact ⟨_, s', rfl, hdepth, hkinds, htaken, by decide +kernel, hrebuilt, hspan htaken⟩

/-- A fade is added, and a later one is refused. -/
def refusing : List Step :=
  [.sprite centered, .issue 0 ⟨⟨0, .linear, .scalar .fade (.change 1000 0 1)⟩, 0⟩,
    .currentDepth 0 (-1), .issue 0 ⟨⟨5000, .linear, .scalar .fade (.hold 1 none)⟩, 0⟩,
    .currentDepth 0 0]

/-- A refused addition stays in the span, and what is written says nothing of it. -/
theorem span_of_refusing :
    (∀ cue ∈ added refusing 0, (empty.run refusing).depths.get cue.id = 0) ∧
      ∃ s s' : Sprite, (empty.run refusing).sprites[0]? = some s ∧
        ((empty.run refusing).run ((empty.run refusing).rebuilding s 0 Kind.all)).sprites[1]? =
          some s' ∧
        s.span = some ⟨0, 5000⟩ ∧ s'.span = some ⟨0, 1000⟩ := by
  refine ⟨by decide +kernel, _, _, rfl, rfl, ?_, ?_⟩
  · decide +kernel
  · decide +kernel

end Board
end Storyboard
