import Mathlib
import Storyboard.Proofs.IntervalMap.Breakpoints

/-!
# Interval maps and what was pushed into them

A map is compared with the plain list of what was pushed into it.  The values active at a key are
those of the pushes whose range holds the key, in the order of the pushes, and the breakpoints are
the ends of the ranges.  A push of an empty range is refused and leaves no trace.

The invariant behind this is `Holds`; one accepted push preserves it.
-/

namespace Storyboard
namespace IntervalMap

/-- A value to be added, and the first key of its range and the first key after it. -/
structure Push (κ ν : Type) where
  start : κ
  stop : κ
  value : ν

variable {κ ν : Type} [LinearOrder κ]

namespace Push

def IsProper (p : Push κ ν) : Prop := p.start < p.stop

def Covers (p : Push κ ν) (key : κ) : Prop := p.start ≤ key ∧ key < p.stop

instance (p : Push κ ν) : Decidable p.IsProper :=
  inferInstanceAs (Decidable (_ < _))

instance (p : Push κ ν) (key : κ) : Decidable (p.Covers key) :=
  inferInstanceAs (Decidable (_ ∧ _))

end Push

/-- The map after a push; a refused push leaves it as it was. -/
def attempt (m : IntervalMap κ ν) (p : Push κ ν) : IntervalMap κ ν :=
  match m.push p.start p.stop p.value with
  | .ok next => next
  | .error _ => m

def ofPushes (pushes : List (Push κ ν)) : IntervalMap κ ν :=
  pushes.foldl attempt .empty

def accepted (pushes : List (Push κ ν)) : List (Push κ ν) :=
  pushes.filter fun p => p.IsProper

/-- The values of the pushes whose range holds a key, in the order of the pushes. -/
def activeAt (pushes : List (Push κ ν)) (key : κ) : List ν :=
  (pushes.filter fun p => p.Covers key).map Push.value

theorem activeAt_append (first last : List (Push κ ν)) (key : κ) :
    activeAt (first ++ last) key = activeAt first key ++ activeAt last key := by
  simp [activeAt]

theorem activeAt_accepted (pushes : List (Push κ ν)) (key : κ) :
    activeAt (accepted pushes) key =
      (pushes.filter fun p => p.start < p.stop ∧ p.start ≤ key ∧ key < p.stop).map
        Push.value := by
  rw [activeAt, accepted, List.filter_filter]
  congr 2
  funext p
  rw [← Bool.decide_and, decide_eq_decide]
  exact And.comm

theorem activeAt_singleton (p : Push κ ν) (key : κ) :
    activeAt [p] key = if p.start ≤ key ∧ key < p.stop then [p.value] else [] := by
  by_cases h : p.start ≤ key ∧ key < p.stop
  · simp [activeAt, Push.Covers, h]
  · simp [activeAt, Push.Covers, h]

theorem attempt_of_not_isProper {p : Push κ ν} (h : ¬ p.IsProper) (m : IntervalMap κ ν) :
    m.attempt p = m := by
  have herror := (push_eq_error_iff m p.start p.stop p.value).mpr h
  rw [attempt, herror]

theorem breakpoints_attempt_of_isProper {p : Push κ ν} (h : p.IsProper) (m : IntervalMap κ ν) :
    (m.attempt p).breakpoints =
      appendBetween p.start p.stop p.value (cut p.stop [] (cut p.start [] m.breakpoints)) := by
  have hlt : p.start < p.stop := h
  simp [attempt, push, hlt]

theorem ofPushes_append_singleton (pushes : List (Push κ ν)) (p : Push κ ν) :
    ofPushes (pushes ++ [p]) = (ofPushes pushes).attempt p := by
  simp [ofPushes, List.foldl_append]

/-! ## The invariant -/

/-- Some breakpoints represent some accepted pushes. -/
structure Holds (entries : List (κ × List ν)) (pushes : List (Push κ ν)) : Prop where
  ascending : Ascending entries
  mem_keys : ∀ k, k ∈ keysOf entries ↔ ∃ p ∈ pushes, k = p.start ∨ k = p.stop
  answer : ∀ key, lastAtOrBefore key [] entries = activeAt pushes key

theorem holds_nil : Holds ([] : List (κ × List ν)) [] where
  ascending := List.Pairwise.nil
  mem_keys := by simp [keysOf]
  answer := by simp [lastAtOrBefore, activeAt]

theorem Holds.push {entries : List (κ × List ν)} {pushes : List (Push κ ν)}
    (h : Holds entries pushes) (p : Push κ ν) :
    Holds (appendBetween p.start p.stop p.value (cut p.stop [] (cut p.start [] entries)))
      (pushes ++ [p]) where
  ascending := ((h.ascending.cut p.start []).cut p.stop []).appendBetween _ _ _
  mem_keys := by
    intro k
    rw [keysOf_appendBetween, mem_keysOf_cut, mem_keysOf_cut, h.mem_keys]
    simp only [List.mem_append, List.mem_singleton]
    constructor
    · rintro (hstop | hstart | ⟨q, hq, hend⟩)
      · exact ⟨p, Or.inr rfl, Or.inr hstop⟩
      · exact ⟨p, Or.inr rfl, Or.inl hstart⟩
      · exact ⟨q, Or.inl hq, hend⟩
    · rintro ⟨q, hq | rfl, hend⟩
      · exact Or.inr (Or.inr ⟨q, hq, hend⟩)
      · rcases hend with hstart | hstop
        · exact Or.inr (Or.inl hstart)
        · exact Or.inl hstop
  answer := by
    intro key
    have hstart : p.start ∈ keysOf (cut p.stop [] (cut p.start [] entries)) := by
      simp [mem_keysOf_cut]
    have hstop : p.stop ∈ keysOf (cut p.stop [] (cut p.start [] entries)) := by
      simp [mem_keysOf_cut]
    rw [lastAtOrBefore_appendBetween ((h.ascending.cut p.start []).cut p.stop []) hstart hstop,
      lastAtOrBefore_cut, lastAtOrBefore_cut, h.answer, activeAt_append, activeAt_singleton]

theorem holds_ofPushes (pushes : List (Push κ ν)) :
    Holds (ofPushes pushes).breakpoints (accepted pushes) := by
  -- On the pushes from the first one on, as the map is built; `Holds.push` is the step.
  induction pushes using List.reverseRecOn with
  | nil => exact holds_nil
  | append_singleton pushes p ih =>
      rw [ofPushes_append_singleton]
      by_cases hp : p.IsProper
      · have haccepted : accepted (pushes ++ [p]) = accepted pushes ++ [p] := by
          simp [accepted, hp]
        rw [breakpoints_attempt_of_isProper hp, haccepted]
        exact ih.push p
      · have haccepted : accepted (pushes ++ [p]) = accepted pushes := by
          simp [accepted, hp]
        rw [attempt_of_not_isProper hp, haccepted]
        exact ih

/-! ## What the invariant says -/

theorem Holds.bucket {entries : List (κ × List ν)} {pushes : List (Push κ ν)}
    (h : Holds entries pushes) {k : κ} {vs : List ν} (hmem : (k, vs) ∈ entries) :
    vs = activeAt pushes k := by
  rw [← h.answer k]
  exact (lastAtOrBefore_of_isLast [] h.ascending hmem ⟨le_rfl, fun _ _ hle => hle⟩).symm

theorem Holds.eq_map {entries : List (κ × List ν)} {pushes : List (Push κ ν)}
    (h : Holds entries pushes) :
    entries = (keysOf entries).map fun k => (k, activeAt pushes k) := by
  rw [keysOf, List.map_map]
  refine (List.map_id entries).symm.trans (List.map_congr_left ?_)
  rintro ⟨k, vs⟩ hmem
  rw [id_eq, Function.comp_apply, h.bucket hmem]

theorem Holds.le_getLast {entries : List (κ × List ν)} {pushes : List (Push κ ν)}
    (h : Holds entries pushes) {last : κ × List ν} (hlast : entries.getLast? = some last)
    {k : κ} (hk : k ∈ keysOf entries) : k ≤ last.1 := by
  obtain ⟨front, rfl⟩ := List.getLast?_eq_some_iff.mp hlast
  obtain ⟨entry, hentry, rfl⟩ := List.mem_map.mp hk
  rcases List.mem_append.mp hentry with hfront | heq
  · exact ((List.pairwise_append.mp h.ascending).2.2 entry hfront last
      (List.mem_singleton_self last)).le
  · rw [List.mem_singleton.mp heq]

theorem Holds.getLast_bucket {entries : List (κ × List ν)} {pushes : List (Push κ ν)}
    (h : Holds entries pushes) {last : κ × List ν} (hlast : entries.getLast? = some last) :
    last.2 = [] := by
  rw [h.bucket (List.mem_of_getLast? hlast), activeAt, List.map_eq_nil_iff, List.filter_eq_nil_iff]
  intro p hp
  have hstop : p.stop ≤ last.1 := h.le_getLast hlast ((h.mem_keys p.stop).mpr ⟨p, hp, Or.inr rfl⟩)
  rw [decide_eq_true_eq]
  exact fun hcovers => absurd hcovers.2 (not_lt.mpr hstop)

theorem get_ofPushes (pushes : List (Push κ ν)) (key : κ) :
    (ofPushes pushes).get key = activeAt (accepted pushes) key :=
  (holds_ofPushes pushes).answer key

theorem values_ofPushes (pushes : List (Push κ ν)) :
    (ofPushes pushes).values =
      (keysOf (ofPushes pushes).breakpoints).flatMap (activeAt (accepted pushes)) := by
  have hmap := (holds_ofPushes pushes).eq_map
  conv_lhs => rw [values, hmap, List.flatMap_map]

theorem ofPushes_of_not_isProper {p : Push κ ν} (h : ¬ p.IsProper) (first last : List (Push κ ν)) :
    ofPushes (first ++ p :: last) = ofPushes (first ++ last) := by
  simp [ofPushes, List.foldl_append, attempt_of_not_isProper h]

/-! ## Main results -/

/--
Point queries agree with the list of pushes, and a push of an empty range is refused and forgotten.
-/
theorem pointQueries_match_pushes (pushes : List (Push κ ν)) :
    (∀ key, (ofPushes pushes).get key =
      (pushes.filter fun p => p.start < p.stop ∧ p.start ≤ key ∧ key < p.stop).map Push.value) ∧
    (∀ p : Push κ ν, ((ofPushes pushes).push p.start p.stop p.value = .error ⟨p.start, p.stop⟩ ↔
      ¬ p.start < p.stop)) ∧
    (∀ (p : Push κ ν) (later : List (Push κ ν)), ¬ p.start < p.stop →
      ∀ key, (ofPushes (pushes ++ p :: later)).get key = (ofPushes (pushes ++ later)).get key) := by
  refine ⟨?_, ?_, ?_⟩
  · intro key
    rw [get_ofPushes, activeAt_accepted]
  · intro p
    exact push_eq_error_iff (ofPushes pushes) p.start p.stop p.value
  · intro p later hempty key
    rw [ofPushes_of_not_isProper hempty]

/-- The breakpoints are the ends of the accepted ranges, each with the values active from there. -/
theorem breakpoints_match_pushes (pushes : List (Push κ ν)) :
    ((ofPushes pushes).breakpoints.map Prod.fst).Pairwise (· < ·) ∧
    (∀ k, k ∈ (ofPushes pushes).breakpoints.map Prod.fst ↔
      ∃ p ∈ pushes, p.start < p.stop ∧ (k = p.start ∨ k = p.stop)) ∧
    ((ofPushes pushes).breakpoints.map Prod.fst).length = (ofPushes pushes).size ∧
    ((ofPushes pushes).breakpoints.map Prod.snd).length = (ofPushes pushes).size ∧
    (∀ k vs, (k, vs) ∈ (ofPushes pushes).breakpoints →
      vs = (pushes.filter fun p => p.start < p.stop ∧ p.start ≤ k ∧ k < p.stop).map Push.value) ∧
    (∀ last, (ofPushes pushes).breakpoints.getLast? = some last → last.2 = []) := by
  have h := holds_ofPushes pushes
  refine ⟨ascending_iff_keysOf.mp h.ascending, ?_, List.length_map _, List.length_map _, ?_, ?_⟩
  · intro k
    refine (h.mem_keys k).trans ?_
    simp only [accepted, List.mem_filter, decide_eq_true_eq, and_assoc]
    rfl
  · intro k vs hmem
    rw [h.bucket hmem, activeAt_accepted]
  · intro last hlast
    exact h.getLast_bucket hlast

end IntervalMap
end Storyboard
