import Mathlib
import Storyboard.Proofs.Board.StepEffects
import Storyboard.Proofs.Sprite.Header

/-!
# The storyboard as its run tells it

Three moments decide what is written where.  A bundle stands in the section of the layer that it had
when it was placed, with all sprites that were ever put into it, and a sprite names the layer that
was given to it last: when it was made, when its layer was set, or when it was put into a bundle.

Here these are read off the steps of a run, without the board.  What a step tells may depend on the
steps before it, so a run is taken apart into its moments.  For each part of the board one lemma
says what a step changes, and one follows it through a run.
-/

namespace Storyboard
namespace Board

/-! ## The moments of a run -/

/-- The steps of a run after some others, each with all the steps before it. -/
def momentsAfter (past : List Step) : List Step → List (List Step × Step)
  | [] => []
  | step :: rest => (past, step) :: momentsAfter (past ++ [step]) rest

/-- The steps of a run, each with the steps before it. -/
def moments (steps : List Step) : List (List Step × Step) :=
  momentsAfter [] steps

theorem momentsAfter_append_singleton (past steps : List Step) (step : Step) :
    momentsAfter past (steps ++ [step]) = momentsAfter past steps ++ [(past ++ steps, step)] := by
  induction steps generalizing past with
  | nil => simp [momentsAfter]
  | cons first rest ih =>
      rw [List.cons_append, momentsAfter, ih, momentsAfter, List.append_assoc]
      rfl

theorem moments_append_singleton (steps : List Step) (step : Step) :
    moments (steps ++ [step]) = moments steps ++ [(steps, step)] :=
  momentsAfter_append_singleton [] steps step

section Telling

variable {α : Type} (tell : List Step → Step → Option α)

/-- All that the steps of a run tell, in order. -/
def told (steps : List Step) : List α :=
  (moments steps).filterMap fun moment => tell moment.1 moment.2

def toldLast (steps : List Step) : Option α :=
  (told tell steps).getLast?

theorem told_append_singleton (steps : List Step) (step : Step) :
    told tell (steps ++ [step]) = told tell steps ++ (tell steps step).toList := by
  rw [told, moments_append_singleton, List.filterMap_append, told]
  cases htell : tell steps step with
  | none => simp [htell]
  | some a => simp [htell]

theorem toldLast_append_singleton (steps : List Step) (step : Step) :
    toldLast tell (steps ++ [step]) = (tell steps step).or (toldLast tell steps) := by
  rw [toldLast, told_append_singleton]
  cases tell steps step with
  | none => simp [toldLast]
  | some a => simp

end Telling

/-! ## What steps tell -/

def bundlesMade (steps : List Step) : Nat :=
  steps.countP fun
    | .bundle _ => true
    | _ => false

/-- The layer that a step gives to a bundle: when it makes it, or when it changes its layer. -/
def bundleLayerGiven (bundle : Nat) (past : List Step) : Step → Option Layer
  | .bundle layer => if bundlesMade past = bundle then some layer else none
  | .bundleLayer target layer => if target = bundle then some layer else none
  | _ => none

def bundleLayerAfter (steps : List Step) (bundle : Nat) : Option Layer :=
  toldLast (bundleLayerGiven bundle) steps

def memberGiven (bundle : Nat) (_past : List Step) : Step → Option Nat
  | .enlist target sprite => if target = bundle then some sprite else none
  | _ => none

/-- The numbers of the sprites that some steps put into a bundle, in order. -/
def membersAfter (steps : List Step) (bundle : Nat) : List Nat :=
  told (memberGiven bundle) steps

theorem size_bundles_of_run (steps : List Step) :
    (empty.run steps).bundles.size = bundlesMade steps := by
  induction steps using List.reverseRecOn with
  | nil => rfl
  | append_singleton steps step ih =>
      rw [run_append_singleton, bundles_perform, bundlesMade, List.countP_append, ← bundlesMade,
        ← ih]
      cases step with
      | bundle layer => simp
      | bundleLayer target layer => simp
      | enlist target sprite => simp
      | _ => rfl

theorem bundleLayer?_perform_inScope {b : Board} {past : List Step} {step : Step}
    (hsize : b.bundles.size = bundlesMade past) (hscope : step.InScope b) (bundle : Nat) :
    (b.perform step).1.bundleLayer? bundle =
      (bundleLayerGiven bundle past step).or (b.bundleLayer? bundle) := by
  rw [bundleLayer?_perform]
  cases step with
  | bundle layer =>
      by_cases hnew : bundlesMade past = bundle
      · simp [bundleLayerGiven, hsize, hnew]
      · simp [bundleLayerGiven, hsize, hnew, Ne.symm hnew]
  | bundleLayer target layer =>
      by_cases htarget : target = bundle
      · obtain ⟨old, hold⟩ := exists_bundleLayer? (htarget ▸ hscope : bundle < b.bundles.size)
        simp [bundleLayerGiven, htarget, hold]
      · simp [bundleLayerGiven, htarget]
  | _ => rfl

theorem bundleLayer?_of_run {steps : List Step} (h : empty.AllInScope steps) (bundle : Nat) :
    (empty.run steps).bundleLayer? bundle = bundleLayerAfter steps bundle := by
  induction steps using List.reverseRecOn with
  | nil => rfl
  | append_singleton steps step ih =>
      obtain ⟨hsteps, hstep⟩ := (allInScope_append_singleton empty steps step).mp h
      rw [run_append_singleton, bundleLayer?_perform_inScope (size_bundles_of_run steps) hstep,
        ih hsteps, bundleLayerAfter, bundleLayerAfter, toldLast_append_singleton]

theorem bundleSprites_perform_inScope {b : Board} (past : List Step) {step : Step}
    (hscope : step.InScope b) (bundle : Nat) :
    (b.perform step).1.bundleSprites bundle =
      b.bundleSprites bundle ++ (memberGiven bundle past step).toList := by
  rw [bundleSprites_perform]
  cases step with
  | enlist target sprite =>
      by_cases htarget : target = bundle
      · have hthere : bundle < b.bundles.size := htarget ▸ hscope.1
        simp [memberGiven, htarget, hthere]
      · simp [memberGiven, htarget]
  | _ => exact (List.append_nil _).symm

theorem bundleSprites_of_run {steps : List Step} (h : empty.AllInScope steps) (bundle : Nat) :
    (empty.run steps).bundleSprites bundle = membersAfter steps bundle := by
  induction steps using List.reverseRecOn with
  | nil => rfl
  | append_singleton steps step ih =>
      obtain ⟨hsteps, hstep⟩ := (allInScope_append_singleton empty steps step).mp h
      rw [run_append_singleton, bundleSprites_perform_inScope steps hstep, ih hsteps, membersAfter,
        membersAfter, told_append_singleton]

end Board
end Storyboard
