import Mathlib
import Storyboard.Sprite.Writing

/-!
# First appearances and stable sorting

Two facts about lists carry the text of a sprite.  Keeping the first of all items with one key
commutes with everything that looks at the keys alone.  And a stable sort puts the groups of equal
rank one after the other, each in the order in which it was.  So lists that have the same groups are
sorted in the same way.
-/

namespace Storyboard

/-! ## First appearances -/

section FirstAppearance

variable {α β γ : Type} [DecidableEq β]

theorem firstsBy_map (key : α → β) (g : γ → α) (items : List γ) :
    firstsBy key (items.map g) = (firstsBy (key ∘ g) items).map g := by
  induction items with
  | nil => rfl
  | cons a rest ih =>
      simp only [List.map_cons, firstsBy, ih, List.filter_map]
      rfl

theorem firstsBy_congr {β' : Type} [DecidableEq β'] {key : α → β} {key' : α → β'}
    (h : ∀ a b, key a = key b ↔ key' a = key' b) (items : List α) :
    firstsBy key items = firstsBy key' items := by
  induction items with
  | nil => rfl
  | cons a rest ih => simp only [firstsBy, ih, ne_eq, h]

theorem firstsBy_congr_of_mem {key key' : α → β} {items : List α}
    (h : ∀ a ∈ items, key a = key' a) : firstsBy key items = firstsBy key' items := by
  induction items with
  | nil => rfl
  | cons a rest ih =>
      rw [firstsBy, firstsBy, ih fun b hb => h b (List.mem_cons_of_mem a hb)]
      congr 1
      apply List.filter_congr
      intro b hb
      have hmem : b ∈ a :: rest := List.mem_cons_of_mem a (mem_of_mem_firstsBy hb)
      rw [h a List.mem_cons_self, h b hmem]

theorem firstsBy_filter {key : α → β} {p : α → Bool} (hp : ∀ a b, key a = key b → p a = p b)
    (items : List α) :
    firstsBy key (items.filter p) = (firstsBy key items).filter p := by
  induction items with
  | nil => rfl
  | cons a rest ih =>
      cases ha : p a with
      | true =>
          rw [List.filter_cons_of_pos ha, firstsBy, firstsBy, List.filter_cons_of_pos ha, ih,
            List.filter_filter, List.filter_filter]
          simp only [Bool.and_comm]
      | false =>
          have hne : ∀ b, p b = true → key b ≠ key a := by
            intro b hb heq
            rw [hp b a heq, ha] at hb
            cases hb
          rw [List.filter_cons_of_neg (by simp [ha]), firstsBy,
            List.filter_cons_of_neg (by simp [ha]), ih, List.filter_filter]
          apply List.filter_congr
          intro b _
          cases hb : p b with
          | true => simp [hne b hb]
          | false => simp

/-- Items with equal keys may be left out beforehand if a coarser key leaves them out anyway. -/
theorem firstsBy_firstsBy {γ : Type} [DecidableEq γ] {key : α → β} {coarse : α → γ}
    (h : ∀ a b, key a = key b → coarse a = coarse b) (items : List α) :
    firstsBy coarse (firstsBy key items) = firstsBy coarse items := by
  induction items with
  | nil => rfl
  | cons a rest ih =>
      have hp : ∀ b c, coarse b = coarse c →
          decide (coarse b ≠ coarse a) = decide (coarse c ≠ coarse a) := by
        intro b c hbc
        rw [hbc]
      have hfilter : ((firstsBy key rest).filter fun b => key b ≠ key a).filter
          (fun b => coarse b ≠ coarse a) =
            (firstsBy key rest).filter fun b => coarse b ≠ coarse a := by
        rw [List.filter_filter]
        apply List.filter_congr
        intro b _
        rw [Bool.and_eq_left_iff_imp]
        intro hb
        simp only [ne_eq, decide_eq_true_eq] at hb ⊢
        exact fun hkey => hb (h b a hkey)
      rw [firstsBy, firstsBy, firstsBy, ← firstsBy_filter hp, hfilter, firstsBy_filter hp, ih]

theorem firstsBy_append (key : α → β) (first last : List α) :
    firstsBy key (first ++ last) =
      firstsBy key first ++ (firstsBy key last).filter fun b => key b ∉ first.map key := by
  induction first with
  | nil => simp
  | cons a rest ih =>
      rw [List.cons_append, firstsBy, ih, firstsBy, List.filter_append, List.filter_filter,
        List.cons_append]
      congr 2
      apply List.filter_congr
      intro b _
      simp [not_or]

theorem mem_map_firstsBy (key : α → β) (items : List α) (k : β) :
    k ∈ (firstsBy key items).map key ↔ k ∈ items.map key := by
  constructor
  · intro hk
    obtain ⟨a, ha, rfl⟩ := List.mem_map.mp hk
    exact List.mem_map_of_mem (mem_of_mem_firstsBy ha)
  · intro hk
    obtain ⟨a, ha, rfl⟩ := List.mem_map.mp hk
    obtain ⟨b, hb, hkey⟩ := exists_mem_firstsBy key ha
    rw [← hkey]
    exact List.mem_map_of_mem hb

theorem nodup_map_firstsBy (key : α → β) (items : List α) :
    ((firstsBy key items).map key).Nodup := by
  induction items with
  | nil => exact List.nodup_nil
  | cons a rest ih =>
      rw [firstsBy, List.map_cons, List.nodup_cons]
      constructor
      · intro hmem
        obtain ⟨b, hb, hkey⟩ := List.mem_map.mp hmem
        simp only [List.mem_filter, decide_eq_true_eq] at hb
        exact hb.2 hkey
      · exact ih.sublist (List.filter_sublist.map key)

theorem map_firstsBy (key : α → β) :
    ∀ items : List α, (firstsBy key items).map key = (items.map key).eraseDups
  | [] => rfl
  | a :: rest => by
      have hfirsts : (firstsBy key rest).filter (fun b => key b ≠ key a) =
          firstsBy key (rest.filter fun b => key b ≠ key a) :=
        (firstsBy_filter (fun b c hbc => by rw [hbc]) rest).symm
      have hkeys : (rest.map key).filter (fun k => !k == key a) =
          (rest.filter fun b => key b ≠ key a).map key := by
        rw [List.filter_map]
        congr 1
        apply List.filter_congr
        intro b _
        by_cases hb : key b = key a
        · simp [hb]
        · simp [hb]
      rw [firstsBy, List.map_cons, List.map_cons, List.eraseDups_cons, hkeys, hfirsts,
        map_firstsBy key (rest.filter fun b => key b ≠ key a)]
  termination_by items => items.length
  decreasing_by
    simpa using Nat.lt_succ_of_le (List.length_filter_le _ rest)

theorem firstsBy_sublist (key : α → β) (items : List α) : (firstsBy key items).Sublist items := by
  induction items with
  | nil => exact List.Sublist.slnil
  | cons a rest ih => exact (List.filter_sublist.trans ih).cons_cons a

theorem firstsBy_eq_self {key : α → β} {items : List α} (h : (items.map key).Nodup) :
    firstsBy key items = items := by
  induction items with
  | nil => rfl
  | cons a rest ih =>
      rw [List.map_cons, List.nodup_cons] at h
      rw [firstsBy, ih h.2]
      congr 1
      apply List.filter_eq_self.mpr
      intro b hb
      apply decide_eq_true
      rintro heq
      exact h.1 (heq ▸ List.mem_map_of_mem hb)

/-- No key comes back after another one. -/
def NoReturn (key : α → β) (items : List α) : Prop :=
  ∀ a b c, [a, b, c].Sublist items → key a = key c → key b = key a

omit [DecidableEq β] in
theorem NoReturn.sublist {key : α → β} {items others : List α} (h : NoReturn key items)
    (hsub : others.Sublist items) : NoReturn key others :=
  fun a b c habc => h a b c (habc.trans hsub)

theorem NoReturn.getLast?_firstsBy {key : α → β} {items : List α} (h : NoReturn key items) :
    (firstsBy key items).getLast?.map key = items.getLast?.map key := by
  induction items using List.reverseRecOn with
  | nil => rfl
  | append_singleton items c ih =>
      rw [firstsBy_append]
      by_cases hnew : key c ∈ items.map key
      · obtain ⟨a, ha, hac⟩ := List.mem_map.mp hnew
        have hlast : (firstsBy key [c]).filter (fun b => key b ∉ items.map key) = [] := by
          simpa [firstsBy] using hnew
        rw [hlast, List.append_nil, ih (h.sublist (List.sublist_append_left items [c])),
          List.getLast?_concat, Option.map_some]
        cases items using List.reverseRecOn with
        | nil => cases ha
        | append_singleton front b =>
            rw [List.getLast?_concat, Option.map_some]
            congr 1
            -- `c` repeats `a`; if `b` stands between them, it has their key too.
            rcases List.mem_append.mp ha with hfront | heq
            · have hsub : [a, b, c].Sublist (front ++ [b] ++ [c]) :=
                ((List.singleton_sublist.mpr hfront).append (List.Sublist.refl [b])).append
                  (List.Sublist.refl [c])
              exact (h a b c hsub hac).trans hac
            · rw [← List.mem_singleton.mp heq, hac]
      · have hlast : (firstsBy key [c]).filter (fun b => key b ∉ items.map key) = [c] := by
          simpa [firstsBy] using hnew
        rw [hlast, List.getLast?_concat, List.getLast?_concat]

end FirstAppearance

/-! ## Stable sorting -/

section StableSort

variable {α κ : Type} [LinearOrder κ]

/-- The items in the order of their ranks, those of one rank in the order in which they were. -/
def sortedBy (rank : α → κ) (items : List α) : List α :=
  items.mergeSort fun a b => rank a ≤ rank b

theorem pairwise_sortedBy (rank : α → κ) (items : List α) :
    (sortedBy rank items).Pairwise fun a b => rank a ≤ rank b := by
  have h := @List.pairwise_mergeSort α (fun a b => decide (rank a ≤ rank b))
    (fun a b c hab hbc => by simpa using (of_decide_eq_true hab).trans (of_decide_eq_true hbc))
    (fun a b => by simpa using le_total (rank a) (rank b)) items
  exact h.imp fun hab => of_decide_eq_true hab

theorem mem_sortedBy {rank : α → κ} {items : List α} {a : α} :
    a ∈ sortedBy rank items ↔ a ∈ items :=
  List.mem_mergeSort

theorem sortedBy_eq_self {rank : α → κ} {items : List α}
    (h : items.Pairwise fun a b => rank a ≤ rank b) : sortedBy rank items = items :=
  List.mergeSort_of_pairwise (h.imp fun hab => decide_eq_true hab)

theorem sortedBy_map {γ : Type} (rank : α → κ) (g : γ → α) (items : List γ) :
    sortedBy rank (items.map g) = (sortedBy (rank ∘ g) items).map g := by
  rw [sortedBy, sortedBy]
  symm
  apply List.map_mergeSort
  intro a _ b _
  rfl

theorem filter_sortedBy (rank : α → κ) (items : List α) (k : κ) :
    ((sortedBy rank items).filter fun a => rank a = k) = items.filter fun a => rank a = k := by
  have hsub : (items.filter fun a => rank a = k).Sublist (sortedBy rank items) := by
    apply List.sublist_mergeSort
    · intro a b c hab hbc
      simpa using (of_decide_eq_true hab).trans (of_decide_eq_true hbc)
    · intro a b
      simpa using le_total (rank a) (rank b)
    · apply List.pairwise_of_forall_mem_list
      intro a ha b hb
      have hra : rank a = k := by simpa using (List.mem_filter.mp ha).2
      have hrb : rank b = k := by simpa using (List.mem_filter.mp hb).2
      simp [hra, hrb]
    · exact List.filter_sublist
  have hfiltered := hsub.filter fun a => rank a = k
  simp only [List.filter_filter, Bool.and_self] at hfiltered
  refine (hfiltered.eq_of_length ?_).symm
  exact ((List.mergeSort_perm items _).filter _).length_eq.symm

theorem eq_filter_append_filter {rank : α → κ} {items : List α} {k : κ}
    (hsorted : items.Pairwise fun a b => rank a ≤ rank b) (hle : ∀ a ∈ items, k ≤ rank a) :
    items = (items.filter fun a => rank a = k) ++ items.filter fun a => rank a ≠ k := by
  induction items with
  | nil => rfl
  | cons a later ih =>
      have hlater := ih (List.Pairwise.of_cons hsorted) fun b hb =>
        hle b (List.mem_cons_of_mem a hb)
      by_cases ha : rank a = k
      · simpa [ha] using hlater
      · have hnone : (later.filter fun b => rank b = k) = [] := by
          rw [List.filter_eq_nil_iff]
          intro b hb
          have hlt : k < rank a := lt_of_le_of_ne (hle a List.mem_cons_self) (Ne.symm ha)
          have hab : rank a ≤ rank b := List.rel_of_pairwise_cons hsorted hb
          simpa using (hlt.trans_le hab).ne'
        rw [hnone, List.nil_append] at hlater
        simpa [ha, hnone] using hlater

theorem eq_flatMap_of_pairwise {rank : α → κ} {items : List α} {ranks : List κ}
    (hsorted : items.Pairwise fun a b => rank a ≤ rank b) (hranks : ranks.Pairwise (· < ·))
    (hmem : ∀ a ∈ items, rank a ∈ ranks) :
    items = ranks.flatMap fun k => items.filter fun a => rank a = k := by
  induction ranks generalizing items with
  | nil =>
      have hempty : items = [] := List.eq_nil_iff_forall_not_mem.mpr fun a ha => by
        cases hmem a ha
      rw [hempty]
      rfl
  | cons k rest ih =>
      have hle : ∀ a ∈ items, k ≤ rank a := by
        intro a ha
        rcases List.mem_cons.mp (hmem a ha) with heq | hrest
        · exact heq.ge
        · exact (List.rel_of_pairwise_cons hranks hrest).le
      have hsplit := eq_filter_append_filter hsorted hle
      have hrest : (items.filter fun a => rank a ≠ k) =
          rest.flatMap fun j => (items.filter fun a => rank a ≠ k).filter fun a => rank a = j := by
        apply ih (hsorted.sublist List.filter_sublist) (List.Pairwise.of_cons hranks)
        intro a ha
        have hne : rank a ≠ k := by simpa using (List.mem_filter.mp ha).2
        exact (List.mem_cons.mp (hmem a (List.mem_filter.mp ha).1)).resolve_left hne
      have hgroups : ∀ j ∈ rest, ((items.filter fun a => rank a ≠ k).filter fun a => rank a = j) =
          items.filter fun a => rank a = j := by
        intro j hj
        rw [List.filter_filter]
        apply List.filter_congr
        intro a _
        have hne : k ≠ j := (List.rel_of_pairwise_cons hranks hj).ne
        by_cases ha : rank a = j
        · simp [ha, hne.symm]
        · simp [ha]
      rw [List.flatMap_cons]
      conv_lhs => rw [hsplit, hrest]
      rw [List.flatMap_congr hgroups]

theorem sortedBy_eq_flatMap (rank : α → κ) {items : List α} {ranks : List κ}
    (hranks : ranks.Pairwise (· < ·)) (hmem : ∀ a ∈ items, rank a ∈ ranks) :
    sortedBy rank items = ranks.flatMap fun k => items.filter fun a => rank a = k := by
  have hgroups := eq_flatMap_of_pairwise (pairwise_sortedBy rank items) hranks
    fun a ha => hmem a (mem_sortedBy.mp ha)
  rw [hgroups]
  simp only [filter_sortedBy]

end StableSort

/-! ## Lists with the same groups -/

section Groups

variable {α κ : Type} {items others : List α}

theorem mem_of_filter_eq [DecidableEq κ] {rank : α → κ}
    (h : ∀ k, (items.filter fun a => rank a = k) = others.filter fun a => rank a = k) {a : α}
    (ha : a ∈ items) : a ∈ others := by
  have hgroup : a ∈ items.filter fun b => rank b = rank a := by simp [ha]
  rw [h] at hgroup
  exact List.mem_of_mem_filter hgroup

theorem sortedBy_eq_of_filter_eq [LinearOrder κ] {rank : α → κ}
    (h : ∀ k, (items.filter fun a => rank a = k) = others.filter fun a => rank a = k) :
    sortedBy rank items = sortedBy rank others := by
  have hranks := ((items.map rank).toFinset.sortedLT_sort).pairwise
  have hmem : ∀ a ∈ items, rank a ∈ (items.map rank).toFinset.sort := by
    intro a ha
    simpa using ⟨a, ha, rfl⟩
  rw [sortedBy_eq_flatMap rank hranks hmem,
    sortedBy_eq_flatMap rank hranks fun a ha => hmem a (mem_of_filter_eq (fun k => (h k).symm) ha)]
  simp only [h]

theorem eq_of_pair_sublist {a b : α} (hnodup : items.Nodup) (hab : [a, b].Sublist items)
    (hba : [b, a].Sublist items) : a = b := by
  induction items with
  | nil => cases hab
  | cons c rest ih =>
      obtain ⟨hnew, hrest⟩ := List.nodup_cons.mp hnodup
      cases hab with
      | cons _ hab =>
          cases hba with
          | cons _ hba => exact ih hrest hab hba
          | cons_cons _ hba => exact absurd (hab.subset (by simp)) hnew
      | cons_cons _ hab =>
          cases hba with
          | cons _ hba => exact absurd (hba.subset (by simp)) hnew
          | cons_cons _ hba => rfl

/-- Two orders of some items have a group in common if they agree on every two items of it. -/
theorem filter_eq_filter_of_perm {p : α → Bool} (hnodup : items.Nodup) (hperm : items.Perm others)
    (hagree : ∀ a b, p a → p b → [a, b].Sublist items → [a, b].Sublist others) :
    items.filter p = others.filter p := by
  -- Both are in the order in which `others` has them, and only one list of these items is.
  have hfirst : (items.filter p).Pairwise fun a b => [a, b].Sublist others := by
    rw [List.pairwise_iff_forall_sublist]
    intro a b hab
    have hp : ∀ c ∈ [a, b], p c := fun c hc => (List.mem_filter.mp (hab.subset hc)).2
    exact hagree a b (hp a (by simp)) (hp b (by simp)) (hab.trans List.filter_sublist)
  have hsecond : (others.filter p).Pairwise fun a b => [a, b].Sublist others := by
    rw [List.pairwise_iff_forall_sublist]
    exact fun hab => hab.trans List.filter_sublist
  apply List.Perm.eq_of_pairwise _ hfirst hsecond (hperm.filter p)
  intro a b _ _ hab hba
  exact eq_of_pair_sublist (hperm.nodup_iff.mp hnodup) hab hba

end Groups
end Storyboard
