import Mathlib
import Storyboard.Proofs.Board.Chronicle
import Storyboard.Proofs.Board.Sections

/-!
# Sections and headers that agree on the layer

A sprite is written in the section that its bundle was placed in, and its header names a layer of
its own.  The two are set at different times.  They agree as long as layers are only ever given by
making bundles and putting sprites into them, and no sprite is put into bundles of different layers.

The invariant is that the layer of a section is the layer of its bundles, and the layer of a bundle
that of its sprites.
-/

namespace Storyboard
namespace Board

/-! ## Runs that settle every layer once -/

/-- The step changes no layer that something has already, unless by putting a sprite in a bundle. -/
def Step.KeepsLayers : Step → Prop
  | .spriteLayer _ _ => False
  | .bundleLayer _ _ => False
  | _ => True

/-- Each sprite is only put into bundles of one and the same layer. -/
def OneLayerEach (steps : List Step) : Prop :=
  ∀ sprite bundle other, Step.enlist bundle sprite ∈ steps → Step.enlist other sprite ∈ steps →
    bundleLayerAfter steps bundle = bundleLayerAfter steps other

theorem enlist_mem_of_mem_membersAfter {steps : List Step} {bundle sprite : Nat}
    (h : sprite ∈ membersAfter steps bundle) : Step.enlist bundle sprite ∈ steps := by
  induction steps using List.reverseRecOn with
  | nil => cases h
  | append_singleton steps step ih =>
      rw [membersAfter, told_append_singleton] at h
      rcases List.mem_append.mp h with h | h
      · exact List.mem_append_left _ (ih h)
      · cases step with
        | enlist target other =>
            by_cases htarget : target = bundle
            · simp only [memberGiven, if_pos htarget, Option.toList_some, List.mem_singleton] at h
              simp [h, htarget]
            · simp [memberGiven, htarget] at h
        | _ => cases h

/-! ## What such a run keeps -/

section KeepsLayers

variable {b : Board} {step : Step}

theorem bundleLayer?_perform_of_keepsLayers (hkeeps : step.KeepsLayers) {bundle : Nat}
    {layer : Layer} (h : b.bundleLayer? bundle = some layer) :
    (b.perform step).1.bundleLayer? bundle = some layer := by
  rw [bundleLayer?_perform]
  cases step with
  | bundle new =>
      have hold : bundle ≠ b.bundles.size := by
        rintro rfl
        simp [bundleLayer?] at h
      simp only [if_neg hold]
      exact h
  | bundleLayer target new => exact hkeeps.elim
  | _ => exact h

theorem bundleLayer?_run_of_keepsLayers {steps : List Step}
    (hkeeps : ∀ step ∈ steps, step.KeepsLayers) {bundle : Nat} {layer : Layer}
    (h : b.bundleLayer? bundle = some layer) : (b.run steps).bundleLayer? bundle = some layer := by
  induction steps generalizing b with
  | nil => exact h
  | cons step rest ih =>
      rw [run_cons]
      exact ih (fun later hlater => hkeeps later (List.mem_cons_of_mem step hlater))
        (bundleLayer?_perform_of_keepsLayers (hkeeps step List.mem_cons_self) h)

theorem spriteLayer?_perform_of_keepsLayers (hkeeps : step.KeepsLayers) {sprite : Nat}
    {layer : Layer} (h : b.spriteLayer? sprite = some layer)
    (hkept : ∀ bundle, step = .enlist bundle sprite → b.bundleLayer? bundle = some layer) :
    (b.perform step).1.spriteLayer? sprite = some layer := by
  rw [spriteLayer?_perform]
  cases step with
  | sprite figure =>
      have hold : sprite ≠ b.sprites.size := by
        rintro rfl
        simp [spriteLayer?] at h
      simp only [if_neg hold]
      exact h
  | spriteLayer target new => exact hkeeps.elim
  | enlist bundle target =>
      by_cases htarget : target = sprite
      · simp only [if_pos htarget, h, hkept bundle (by rw [htarget])]
        rfl
      · simp only [if_neg htarget]
        exact h
  | _ => exact h

end KeepsLayers

/-! ## The invariant -/

/-- Sections, their bundles and the sprites of these have the same layers. -/
structure Aligned (b : Board) : Prop where
  placed : ∀ layer bundle, (layer, bundle) ∈ b.placed → b.bundleLayer? bundle = some layer
  members : ∀ bundle sprite, sprite ∈ b.bundleSprites bundle →
    ∃ layer, b.bundleLayer? bundle = some layer ∧ b.spriteLayer? sprite = some layer

theorem aligned_empty : empty.Aligned where
  placed := by
    intro layer bundle h
    cases h
  members := by
    intro bundle sprite h
    cases h

theorem Aligned.perform {b : Board} (h : b.Aligned) {step : Step} (hkeeps : step.KeepsLayers)
    (hscope : step.InScope b)
    (hone : ∀ bundle sprite, step = .enlist bundle sprite → ∀ other,
      sprite ∈ b.bundleSprites other → b.bundleLayer? bundle = b.bundleLayer? other) :
    (b.perform step).1.Aligned where
  placed := by
    intro layer bundle hplaced
    rw [placed_perform] at hplaced
    apply bundleLayer?_perform_of_keepsLayers hkeeps
    cases step with
    | place new =>
        rcases List.mem_append.mp hplaced with hplaced | hplaced
        · exact h.placed layer bundle hplaced
        · obtain ⟨new, hnew, heq⟩ := Option.map_eq_some_iff.mp (Option.mem_toList.mp hplaced)
          cases heq
          exact hnew
    | _ => exact h.placed layer bundle hplaced
  members := by
    intro bundle sprite hmember
    rw [bundleSprites_perform] at hmember
    -- A member was one before, or has just been put into the bundle.
    have hcases : sprite ∈ b.bundleSprites bundle ∨ step = .enlist bundle sprite := by
      cases step with
      | enlist target new =>
          dsimp only at hmember
          split at hmember
          next hin =>
            rcases List.mem_append.mp hmember with hmember | hmember
            · exact Or.inl hmember
            · rw [hin.1, List.mem_singleton.mp hmember]
              exact Or.inr rfl
          next => exact Or.inl hmember
      | _ => exact Or.inl hmember
    rcases hcases with hold | hnew
    · obtain ⟨layer, hbundle, hsprite⟩ := h.members bundle sprite hold
      refine ⟨layer, bundleLayer?_perform_of_keepsLayers hkeeps hbundle, ?_⟩
      apply spriteLayer?_perform_of_keepsLayers hkeeps hsprite
      intro other hother
      rw [hone other sprite hother bundle hold]
      exact hbundle
    · subst hnew
      obtain ⟨layer, hbundle⟩ := exists_bundleLayer? hscope.1
      obtain ⟨old, hsprite⟩ := exists_spriteLayer? hscope.2
      refine ⟨layer, bundleLayer?_perform_of_keepsLayers hkeeps hbundle, ?_⟩
      rw [spriteLayer?_perform]
      simp [hsprite, hbundle]

theorem aligned_of_run {front rest : List Step} (hscope : empty.AllInScope (front ++ rest))
    (hkeeps : ∀ step ∈ front ++ rest, step.KeepsLayers) (hone : OneLayerEach (front ++ rest)) :
    (empty.run front).Aligned := by
  -- On the steps so far.  The layers of the bundles at the end are those they have now.
  induction front using List.reverseRecOn generalizing rest with
  | nil => exact aligned_empty
  | append_singleton front step ih =>
      rw [List.append_assoc, List.singleton_append] at hscope hkeeps hone
      have haligned := ih hscope hkeeps hone
      obtain ⟨hfront, hstep, -⟩ := (allInScope_append empty front (step :: rest)).mp hscope
      rw [run_append_singleton]
      refine haligned.perform (hkeeps step (by simp)) hstep ?_
      rintro bundle sprite rfl other hother
      have hafter : ∀ {m layer}, (empty.run front).bundleLayer? m = some layer →
          bundleLayerAfter (front ++ .enlist bundle sprite :: rest) m = some layer := by
        intro m layer hm
        rw [← bundleLayer?_of_run hscope, run_append]
        apply bundleLayer?_run_of_keepsLayers _ hm
        intro later hlater
        exact hkeeps later (List.mem_append_right front hlater)
      obtain ⟨layer, hbundle⟩ := exists_bundleLayer? hstep.1
      obtain ⟨layer', hlayer', -⟩ := haligned.members other sprite hother
      rw [bundleSprites_of_run hfront] at hother
      have hsame := hone sprite bundle other (by simp)
        (List.mem_append_left _ (enlist_mem_of_mem_membersAfter hother))
      rw [hafter hbundle, hafter hlayer'] at hsame
      rw [hbundle, hlayer', hsame]

/-! ## Main result -/

theorem Aligned.layer_of_mem_sectionSprites {b : Board} (h : b.Aligned) {layer : Layer} {s : Sprite}
    (hs : s ∈ b.sectionSprites layer) : s.layer = layer := by
  obtain ⟨sprite, hsprite, hfound⟩ := List.mem_filterMap.mp hs
  obtain ⟨bundle, hbundle, hmember⟩ := List.mem_flatMap.mp hsprite
  obtain ⟨⟨place, number⟩, hplaced, rfl⟩ := List.mem_map.mp hbundle
  obtain ⟨hplaced, hplace⟩ := List.mem_filter.mp hplaced
  obtain ⟨own, hown, hlayer⟩ := h.members number sprite hmember
  rw [h.placed place number hplaced] at hown
  rw [spriteLayer?, hfound] at hlayer
  have hplace : place = layer := of_decide_eq_true hplace
  rw [← hplace, Option.some.inj hown]
  exact Option.some.inj hlayer

/--
At any point of a run that sets no layers by hand and puts each sprite into bundles of one layer,
every header in the section of a layer names that layer.
-/
theorem headers_name_section (steps : List Step) (hscope : empty.AllInScope steps)
    (hkeeps : ∀ step ∈ steps, step.KeepsLayers) (hone : OneLayerEach steps) :
    ∀ front, front <+: steps → ∀ layer,
      (empty.run front).sectionText layer =
          layer.header ++ String.join
            (((empty.run front).sectionSprites layer).map (Sprite.text (empty.run front).depths)) ∧
        ∀ s ∈ (empty.run front).sectionSprites layer, NamesLayer s.header layer := by
  rintro front ⟨rest, rfl⟩ layer
  refine ⟨sectionText_eq_join_sprites _ layer, ?_⟩
  intro s hs
  rw [s.namesLayer_header_iff]
  exact (aligned_of_run hscope hkeeps hone).layer_of_mem_sectionSprites hs

/--
Two bundles of the overlay share a sprite.  The first one is placed before any sprite is in it, is
given the sprite twice and is placed again.
-/
def settled : List Step :=
  [.bundle .overlay, .place 0, .bundle .overlay,
    .sprite ⟨"star.png", .centre, Figure.defaultPosition, none⟩, .enlist 0 0, .enlist 0 0,
    .bundle .fail, .sprite ⟨"moon.png", .centre, Figure.defaultPosition, none⟩, .enlist 2 1,
    .place 2, .issue 0 ⟨⟨0, .linear, .scalar .fade (.change 1000 0 1)⟩, 0⟩, .enlist 1 0, .place 1,
    .place 0]

theorem headers_of_settled :
    (empty.AllInScope settled ∧ (∀ step ∈ settled, step.KeepsLayers) ∧ OneLayerEach settled) ∧
      ((empty.run settled).sectionSprites .overlay).length = 5 ∧
      ((empty.run settled).sectionSprites .fail).length = 1 ∧
      ∀ front, front <+: settled → ∀ layer,
        (empty.run front).sectionText layer =
            layer.header ++ String.join (((empty.run front).sectionSprites layer).map
              (Sprite.text (empty.run front).depths)) ∧
          ∀ s ∈ (empty.run front).sectionSprites layer, NamesLayer s.header layer := by
  have hscope : empty.AllInScope settled := by decide +kernel
  have hkeeps : ∀ step ∈ settled, step.KeepsLayers := by simp [settled, Step.KeepsLayers]
  have hlayer : ∀ bundle sprite, Step.enlist bundle sprite ∈ settled →
      bundleLayerAfter settled bundle = some (if sprite = 1 then .fail else .overlay) := by
    intro bundle sprite h
    simp only [settled, List.mem_cons, List.not_mem_nil, reduceCtorEq, false_or, or_false,
      Step.enlist.injEq] at h
    rcases h with ⟨rfl, rfl⟩ | ⟨rfl, rfl⟩ | ⟨rfl, rfl⟩ | ⟨rfl, rfl⟩ <;> rfl
  have hone : OneLayerEach settled := by
    intro sprite bundle other hbundle hother
    rw [hlayer bundle sprite hbundle, hlayer other sprite hother]
  exact ⟨⟨hscope, hkeeps, hone⟩, by decide +kernel, by decide +kernel,
    headers_name_section settled hscope hkeeps hone⟩

end Board
end Storyboard
