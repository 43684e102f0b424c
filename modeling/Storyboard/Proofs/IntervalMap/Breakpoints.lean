import Mathlib
import Storyboard.IntervalMap

/-!
# Breakpoints under point queries

A point query answers with the last breakpoint at or before the key.  This module says what a push
does to the answers, one half at a time.  A cut adds a key and changes no answer.  Appending a
value between two keys that are breakpoints changes exactly the answers from the first key on and
before the second.
-/

namespace Storyboard
namespace IntervalMap

variable {κ ν : Type} [LinearOrder κ]

def Ascending (entries : List (κ × List ν)) : Prop :=
  entries.Pairwise fun a b => a.1 < b.1

def keysOf (entries : List (κ × List ν)) : List κ :=
  entries.map Prod.fst

theorem ascending_iff_keysOf {entries : List (κ × List ν)} :
    Ascending entries ↔ (keysOf entries).Pairwise (· < ·) :=
  List.pairwise_map.symm

theorem Ascending.tail {entry : κ × List ν} {rest : List (κ × List ν)}
    (h : Ascending (entry :: rest)) : Ascending rest :=
  List.Pairwise.of_cons h

theorem Ascending.head_lt {entry later : κ × List ν} {rest : List (κ × List ν)}
    (h : Ascending (entry :: rest)) (hmem : later ∈ rest) : entry.1 < later.1 :=
  List.rel_of_pairwise_cons h hmem

/-! ## The answer to a query -/

theorem lastAtOrBefore_of_forall_lt {entries : List (κ × List ν)} {key : κ} (carried : List ν)
    (h : ∀ entry ∈ entries, key < entry.1) :
    lastAtOrBefore key carried entries = carried := by
  cases entries with
  | nil => rfl
  | cons entry rest =>
      have hlt : key < entry.1 := h entry List.mem_cons_self
      simp [lastAtOrBefore, hlt]

/-- The breakpoint at `k` is the last one that does not lie beyond `key`. -/
def IsLast (key k : κ) (entries : List (κ × List ν)) : Prop :=
  k ≤ key ∧ ∀ entry ∈ entries, entry.1 ≤ key → entry.1 ≤ k

theorem lastAtOrBefore_of_isLast {entries : List (κ × List ν)} {key k : κ} {vs : List ν}
    (carried : List ν) (hasc : Ascending entries) (hmem : (k, vs) ∈ entries)
    (hlast : IsLast key k entries) :
    lastAtOrBefore key carried entries = vs := by
  induction entries generalizing carried with
  | nil => cases hmem
  | cons entry rest ih =>
      obtain ⟨k₀, vs₀⟩ := entry
      have hle : ¬ key < k₀ := by
        rcases List.mem_cons.mp hmem with heq | hrest
        · cases heq
          exact not_lt.mpr hlast.1
        · exact not_lt.mpr ((hasc.head_lt hrest).le.trans hlast.1)
      rw [lastAtOrBefore, if_neg hle]
      rcases List.mem_cons.mp hmem with heq | hrest
      · cases heq
        apply lastAtOrBefore_of_forall_lt
        intro later hlater
        by_contra hnot
        have hback := hlast.2 later (List.mem_cons_of_mem _ hlater) (not_lt.mp hnot)
        exact absurd (hasc.head_lt hlater) (not_lt.mpr hback)
      · exact ih vs₀ hasc.tail hrest
          ⟨hlast.1, fun e he => hlast.2 e (List.mem_cons_of_mem _ he)⟩

theorem forall_lt_or_exists_isLast {entries : List (κ × List ν)} (key : κ)
    (hasc : Ascending entries) :
    (∀ entry ∈ entries, key < entry.1) ∨
      ∃ k vs, (k, vs) ∈ entries ∧ IsLast key k entries := by
  induction entries with
  | nil =>
      left
      intro entry hmem
      cases hmem
  | cons entry rest ih =>
      obtain ⟨k₀, vs₀⟩ := entry
      rcases ih hasc.tail with hbefore | ⟨k, vs, hmem, hle, hlast⟩
      · rcases lt_or_ge key k₀ with hlt | hge
        · left
          intro e he
          rcases List.mem_cons.mp he with rfl | he
          · exact hlt
          · exact hbefore e he
        · right
          refine ⟨k₀, vs₀, List.mem_cons_self, hge, ?_⟩
          intro e he hekey
          rcases List.mem_cons.mp he with rfl | he
          · exact le_rfl
          · exact absurd (hbefore e he) (not_lt.mpr hekey)
      · right
        refine ⟨k, vs, List.mem_cons_of_mem _ hmem, hle, ?_⟩
        intro e he hekey
        rcases List.mem_cons.mp he with rfl | he
        · exact (hasc.head_lt hmem).le
        · exact hlast e he hekey

/-! ## Cutting -/

theorem lastAtOrBefore_cut (key point : κ) (carried : List ν) (entries : List (κ × List ν)) :
    lastAtOrBefore key carried (cut point carried entries) =
      lastAtOrBefore key carried entries := by
  induction entries generalizing carried with
  | nil => simp [cut, lastAtOrBefore]
  | cons entry rest ih =>
      obtain ⟨k, vs⟩ := entry
      rcases lt_trichotomy point k with hlt | rfl | hgt
      · rw [cut, if_pos hlt]
        simp only [lastAtOrBefore]
        by_cases hkey : key < point
        · simp [hkey, hkey.trans hlt]
        · simp [hkey]
      · simp [cut]
      · rw [cut, if_neg hgt.not_gt, if_pos hgt]
        simp only [lastAtOrBefore, ih]

theorem mem_keysOf_cut {k point : κ} (carried : List ν) (entries : List (κ × List ν)) :
    k ∈ keysOf (cut point carried entries) ↔ k = point ∨ k ∈ keysOf entries := by
  induction entries generalizing carried with
  | nil => simp [cut, keysOf]
  | cons entry rest ih =>
      obtain ⟨k₀, vs⟩ := entry
      rcases lt_trichotomy point k₀ with hlt | rfl | hgt
      · simp [cut, hlt, keysOf]
      · simp [cut, keysOf]
      · rw [cut, if_neg hgt.not_gt, if_pos hgt]
        simp only [keysOf, List.map_cons, List.mem_cons] at ih ⊢
        rw [ih vs]
        tauto

theorem Ascending.cut {entries : List (κ × List ν)} (hasc : Ascending entries) (point : κ)
    (carried : List ν) : Ascending (cut point carried entries) := by
  induction entries generalizing carried with
  | nil => exact List.pairwise_singleton _ _
  | cons entry rest ih =>
      obtain ⟨k, vs⟩ := entry
      rcases lt_trichotomy point k with hlt | rfl | hgt
      · rw [IntervalMap.cut, if_pos hlt]
        refine List.Pairwise.cons ?_ hasc
        intro e he
        rcases List.mem_cons.mp he with rfl | he
        · exact hlt
        · exact hlt.trans (hasc.head_lt he)
      · simpa [IntervalMap.cut] using hasc
      · rw [IntervalMap.cut, if_neg hgt.not_gt, if_pos hgt]
        refine List.Pairwise.cons ?_ (ih hasc.tail vs)
        intro e he
        have hkey : e.1 = point ∨ e.1 ∈ keysOf rest :=
          (mem_keysOf_cut vs rest).mp (List.mem_map_of_mem he)
        rcases hkey with heq | hold
        · rw [heq]
          exact hgt
        · obtain ⟨old, hmem, heq⟩ := List.mem_map.mp hold
          rw [← heq]
          exact hasc.head_lt hmem

/-! ## Appending between two breakpoints -/

@[simp] theorem keysOf_appendBetween (start stop : κ) (v : ν) (entries : List (κ × List ν)) :
    keysOf (appendBetween start stop v entries) = keysOf entries :=
  keys_appendBetween start stop v entries

theorem Ascending.appendBetween {entries : List (κ × List ν)} (hasc : Ascending entries)
    (start stop : κ) (v : ν) : Ascending (appendBetween start stop v entries) := by
  rw [ascending_iff_keysOf, keysOf_appendBetween]
  exact ascending_iff_keysOf.mp hasc

theorem isLast_congr {key k : κ} {entries others : List (κ × List ν)}
    (hkeys : keysOf entries = keysOf others) (h : IsLast key k entries) :
    IsLast key k others := by
  refine ⟨h.1, ?_⟩
  intro e he hle
  have hmem : e.1 ∈ keysOf entries := by
    rw [hkeys]
    exact List.mem_map_of_mem he
  obtain ⟨e', he', heq⟩ := List.mem_map.mp hmem
  rw [← heq] at hle ⊢
  exact h.2 e' he' hle

theorem isLast_mem_range_iff {key k start stop : κ} {entries : List (κ × List ν)}
    (hlast : IsLast key k entries) (hstart : start ∈ keysOf entries)
    (hstop : stop ∈ keysOf entries) :
    (start ≤ k ∧ k < stop) ↔ (start ≤ key ∧ key < stop) := by
  obtain ⟨first, hfirst, rfl⟩ := List.mem_map.mp hstart
  obtain ⟨last, hlastMem, rfl⟩ := List.mem_map.mp hstop
  constructor
  · rintro ⟨hle, hlt⟩
    refine ⟨hle.trans hlast.1, ?_⟩
    by_contra hnot
    exact absurd hlt (not_lt.mpr (hlast.2 last hlastMem (not_lt.mp hnot)))
  · rintro ⟨hle, hlt⟩
    exact ⟨hlast.2 first hfirst hle, hlast.1.trans_lt hlt⟩

theorem mem_appendBetween {start stop k : κ} {v : ν} {vs : List ν}
    {entries : List (κ × List ν)} (hmem : (k, vs) ∈ entries) :
    (k, vs ++ if start ≤ k ∧ k < stop then [v] else []) ∈
      appendBetween start stop v entries := by
  refine List.mem_map.mpr ⟨(k, vs), hmem, ?_⟩
  by_cases h : start ≤ k ∧ k < stop
  · simp [h]
  · simp only [not_lt, if_neg h, List.append_nil]

theorem lastAtOrBefore_appendBetween {entries : List (κ × List ν)} (hasc : Ascending entries)
    {start stop : κ} (hstart : start ∈ keysOf entries) (hstop : stop ∈ keysOf entries)
    (v : ν) (key : κ) :
    lastAtOrBefore key [] (appendBetween start stop v entries) =
      lastAtOrBefore key [] entries ++ if start ≤ key ∧ key < stop then [v] else [] := by
  rcases forall_lt_or_exists_isLast key hasc with hbefore | ⟨k, vs, hmem, hlast⟩
  · have houtside : ¬ (start ≤ key ∧ key < stop) := by
      obtain ⟨first, hfirst, rfl⟩ := List.mem_map.mp hstart
      exact fun h => absurd (hbefore first hfirst) (not_lt.mpr h.1)
    have hbefore' : ∀ e ∈ appendBetween start stop v entries, key < e.1 := by
      intro e he
      have hkey : e.1 ∈ keysOf entries := by
        rw [← keysOf_appendBetween start stop v entries]
        exact List.mem_map_of_mem he
      obtain ⟨old, hold, heq⟩ := List.mem_map.mp hkey
      exact heq ▸ hbefore old hold
    rw [lastAtOrBefore_of_forall_lt [] hbefore', lastAtOrBefore_of_forall_lt [] hbefore,
      if_neg houtside, List.append_nil]
  · have hlast' : IsLast key k (appendBetween start stop v entries) :=
      isLast_congr (keysOf_appendBetween start stop v entries).symm hlast
    rw [lastAtOrBefore_of_isLast [] (hasc.appendBetween start stop v) (mem_appendBetween hmem)
        hlast',
      lastAtOrBefore_of_isLast [] hasc hmem hlast]
    simp only [isLast_mem_range_iff hlast hstart hstop]

end IntervalMap
end Storyboard
