import Mathlib
import Storyboard.Proofs.IntervalMap.History

/-!
# Maps with other keys

An interval map only compares its keys.  So if all keys are replaced by others in the same order,
and the values by any others, then pushes and queries with the new keys do to the new map what those
with the old keys do to the old one.
-/

namespace Storyboard
namespace IntervalMap

variable {κ κ' ν ν' : Type}

/-- Breakpoints with other keys and values. -/
def rekeyEntries (f : κ → κ') (g : ν → ν') (entries : List (κ × List ν)) :
    List (κ' × List ν') :=
  entries.map (Prod.map f (List.map g))

def rekey (f : κ → κ') (g : ν → ν') (m : IntervalMap κ ν) : IntervalMap κ' ν' :=
  ⟨rekeyEntries f g m.breakpoints⟩

def Push.rekey (f : κ → κ') (g : ν → ν') (p : Push κ ν) : Push κ' ν' :=
  ⟨f p.start, f p.stop, g p.value⟩

theorem rekey_empty (f : κ → κ') (g : ν → ν') :
    (empty : IntervalMap κ ν).rekey f g = empty :=
  rfl

theorem values_rekey (f : κ → κ') (g : ν → ν') (m : IntervalMap κ ν) :
    (m.rekey f g).values = m.values.map g := by
  rw [values, rekey, rekeyEntries, List.flatMap_map, values, List.map_flatMap]
  rfl

variable [LinearOrder κ] [LinearOrder κ'] {f : κ → κ'}

/-! ## Queries -/

theorem lastAtOrBefore_rekeyEntries (hf : StrictMono f) (g : ν → ν') (key : κ) (carried : List ν)
    (entries : List (κ × List ν)) :
    lastAtOrBefore (f key) (carried.map g) (rekeyEntries f g entries) =
      (lastAtOrBefore key carried entries).map g := by
  induction entries generalizing carried with
  | nil => rfl
  | cons entry rest ih =>
      obtain ⟨k, vs⟩ := entry
      have hrest := ih vs
      unfold rekeyEntries at hrest ⊢
      simp only [List.map_cons, Prod.map_apply, lastAtOrBefore, hf.lt_iff_lt, hrest]
      split
      · rfl
      · rfl

theorem get_rekey (hf : StrictMono f) (g : ν → ν') (m : IntervalMap κ ν) (key : κ) :
    (m.rekey f g).get (f key) = (m.get key).map g :=
  lastAtOrBefore_rekeyEntries hf g key [] m.breakpoints

/-! ## Pushes -/

theorem cut_rekeyEntries (hf : StrictMono f) (g : ν → ν') (key : κ) (carried : List ν)
    (entries : List (κ × List ν)) :
    cut (f key) (carried.map g) (rekeyEntries f g entries) =
      rekeyEntries f g (cut key carried entries) := by
  induction entries generalizing carried with
  | nil => rfl
  | cons entry rest ih =>
      obtain ⟨k, vs⟩ := entry
      have hrest := ih vs
      unfold rekeyEntries at hrest ⊢
      simp only [List.map_cons, Prod.map_apply, cut, hf.lt_iff_lt, hrest]
      split
      · rfl
      · split
        · rfl
        · rfl

theorem appendBetween_rekeyEntries (hf : StrictMono f) (g : ν → ν') (start stop : κ) (v : ν)
    (entries : List (κ × List ν)) :
    appendBetween (f start) (f stop) (g v) (rekeyEntries f g entries) =
      rekeyEntries f g (appendBetween start stop v entries) := by
  unfold appendBetween rekeyEntries
  rw [List.map_map, List.map_map]
  apply List.map_congr_left
  rintro ⟨k, vs⟩ _
  simp only [Function.comp_apply, Prod.map_apply, hf.lt_iff_lt]
  split
  · simp
  · rfl

theorem attempt_rekey (hf : StrictMono f) (g : ν → ν') (m : IntervalMap κ ν) (p : Push κ ν) :
    (m.rekey f g).attempt (p.rekey f g) = (m.attempt p).rekey f g := by
  have hiff : (p.rekey f g).IsProper ↔ p.IsProper := hf.lt_iff_lt
  by_cases hp : p.IsProper
  · have hbreakpoints : ((m.rekey f g).attempt (p.rekey f g)).breakpoints =
        rekeyEntries f g (m.attempt p).breakpoints := by
      have hcut := cut_rekeyEntries hf g p.start [] m.breakpoints
      have hcut' := cut_rekeyEntries hf g p.stop [] (cut p.start [] m.breakpoints)
      rw [breakpoints_attempt_of_isProper (hiff.mpr hp), breakpoints_attempt_of_isProper hp,
        ← appendBetween_rekeyEntries hf, ← hcut', ← hcut]
      rfl
    exact congrArg IntervalMap.mk hbreakpoints
  · rw [attempt_of_not_isProper hp, attempt_of_not_isProper (fun h => hp (hiff.mp h))]

end IntervalMap
end Storyboard
