import Mathlib
import Storyboard.Proofs.FirstAppearance
import Storyboard.Proofs.IntervalMap.History

/-!
# The order in which a map meets its values

Walking through the breakpoints meets every value once for each breakpoint in its range.  If only
first appearances count, the walk is a stable sort of the pushes by the start of their range: a
value appears first at its own start, next to values that started earlier and were met before.
-/

namespace Storyboard
namespace IntervalMap

variable {κ ν β : Type} [LinearOrder κ] [DecidableEq β]

/-- The values of the pushes whose range starts at a key, in the order of the pushes. -/
def startingAt (pushes : List (Push κ ν)) (key : κ) : List ν :=
  (pushes.filter fun p => p.start = key).map Push.value

/-- Some keys hold the start of every range that does not start after all of them. -/
def ClosedUnderStarts (pushes : List (Push κ ν)) (keys : List κ) : Prop :=
  ∀ p ∈ pushes, ∀ key ∈ keys, p.start ≤ key → p.start ∈ keys

theorem ClosedUnderStarts.of_append_singleton {pushes : List (Push κ ν)} {keys : List κ} {last : κ}
    (h : ClosedUnderStarts pushes (keys ++ [last])) (hkeys : (keys ++ [last]).Pairwise (· < ·)) :
    ClosedUnderStarts pushes keys := by
  intro p hp key hkey hle
  have hlt : key < last :=
    (List.pairwise_append.mp hkeys).2.2 key hkey last (List.mem_singleton_self last)
  rcases List.mem_append.mp (h p hp key (List.mem_append_left _ hkey) hle) with hmem | hlast
  · exact hmem
  · rw [List.mem_singleton.mp hlast] at hle
    exact absurd hlt (not_lt.mpr hle)

/-- Of the values active at a key, those not met at an earlier key start there. -/
theorem filter_activeAt_eq_filter_startingAt {pushes : List (Push κ ν)} {keys : List κ} {last : κ}
    (key : ν → β) (hproper : ∀ p ∈ pushes, p.IsProper)
    (hclosed : ClosedUnderStarts pushes (keys ++ [last])) (met : List β)
    (hmet : ∀ p ∈ pushes, p.start ∈ keys → key p.value ∈ met) :
    (activeAt pushes last).filter (fun v => key v ∉ met) =
      (startingAt pushes last).filter fun v => key v ∉ met := by
  rw [activeAt, startingAt, List.filter_map, List.filter_map, List.filter_filter,
    List.filter_filter]
  congr 1
  apply List.filter_congr
  intro p hp
  by_cases hnew : key p.value ∈ met
  · simp [hnew]
  · have hiff : p.Covers last ↔ p.start = last := by
      constructor
      · intro hcovers
        have hstart := hclosed p hp last (by simp) hcovers.1
        rcases List.mem_append.mp hstart with hearlier | hlast
        · exact absurd (hmet p hp hearlier) hnew
        · exact List.mem_singleton.mp hlast
      · rintro rfl
        exact ⟨le_rfl, hproper p hp⟩
    simp only [Function.comp_apply, hnew, not_false_eq_true, decide_true, Bool.true_and]
    exact decide_eq_decide.mpr hiff

theorem firstsBy_flatMap_activeAt {pushes : List (Push κ ν)} {keys : List κ} (key : ν → β)
    (hproper : ∀ p ∈ pushes, p.IsProper) (hkeys : keys.Pairwise (· < ·))
    (hclosed : ClosedUnderStarts pushes keys) :
    firstsBy key (keys.flatMap (activeAt pushes)) =
      firstsBy key (keys.flatMap (startingAt pushes)) := by
  -- On the breakpoints from the first one on: what is new at the last one depends on all before it.
  induction keys using List.reverseRecOn with
  | nil => rfl
  | append_singleton keys last ih =>
      have hsame := ih (hkeys.sublist (List.sublist_append_left keys [last]))
        (hclosed.of_append_singleton hkeys)
      have hmet : ∀ k, k ∈ (keys.flatMap (activeAt pushes)).map key ↔
          k ∈ (keys.flatMap (startingAt pushes)).map key := by
        intro k
        rw [← mem_map_firstsBy, hsame, mem_map_firstsBy]
      have hseen : ∀ p ∈ pushes, p.start ∈ keys →
          key p.value ∈ (keys.flatMap (startingAt pushes)).map key := by
        intro p hp hstart
        refine List.mem_map_of_mem (List.mem_flatMap.mpr ⟨p.start, hstart, ?_⟩)
        exact List.mem_map_of_mem (List.mem_filter.mpr ⟨hp, by simp⟩)
      have hnew := filter_activeAt_eq_filter_startingAt key hproper hclosed
        ((keys.flatMap (startingAt pushes)).map key) hseen
      simp only [List.flatMap_append, List.flatMap_singleton, firstsBy_append, hsame, hmet]
      congr 1
      rw [← firstsBy_filter fun a b hab => by rw [hab],
        ← firstsBy_filter fun a b hab => by rw [hab], hnew]

theorem firstsBy_values_ofPushes (key : ν → β) (pushes : List (Push κ ν)) :
    firstsBy key (ofPushes pushes).values =
      firstsBy key ((sortedBy Push.start (accepted pushes)).map Push.value) := by
  have h := holds_ofPushes pushes
  have hkeys := ascending_iff_keysOf.mp h.ascending
  have hstart : ∀ p ∈ accepted pushes, p.start ∈ keysOf (ofPushes pushes).breakpoints := by
    intro p hp
    exact (h.mem_keys p.start).mpr ⟨p, hp, Or.inl rfl⟩
  have hproper : ∀ p ∈ accepted pushes, p.IsProper := by
    intro p hp
    exact of_decide_eq_true (List.mem_filter.mp hp).2
  rw [values_ofPushes, sortedBy_eq_flatMap Push.start hkeys hstart, List.map_flatMap]
  exact firstsBy_flatMap_activeAt key hproper hkeys fun p hp _ _ _ => hstart p hp

end IntervalMap
end Storyboard
