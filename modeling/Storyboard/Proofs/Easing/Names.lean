import Mathlib
import Storyboard.Easing.Lookup

/-!
# Names of easings

A name finds its easing however it is spelled: in capitals or not, with separators or without.  What
is found for a text is decided by the key of the text alone, and since no two easings have one key,
the search never stops early at another name of the same curve.
-/

namespace Storyboard

/-! ## Lower case of ASCII texts -/

namespace Text

/-- The capital ASCII letters are the first run, and the others begin behind ASCII. -/
theorem lowercaseCode_of_ascii {n : Nat} (h : n < 128) :
    lowercaseCode n = if 0x41 ≤ n ∧ n ≤ 0x5A then n + 32 else n := by
  have hruns : lowercaseRuns = ⟨0x41, 0x5A, 1, 32⟩ :: lowercaseRuns.tail := rfl
  have hlate : ∀ run ∈ lowercaseRuns.tail, 128 ≤ run.first := by decide +kernel
  have hrest : lowercaseRuns.tail.find? (·.covers n) = none := by
    apply List.find?_eq_none.mpr
    intro run hrun hcovers
    simp only [CaseRun.covers, Bool.and_eq_true, decide_eq_true_eq] at hcovers
    have hfirst := hlate run hrun
    omega
  have hcovers : CaseRun.covers ⟨0x41, 0x5A, 1, 32⟩ n = decide (0x41 ≤ n ∧ n ≤ 0x5A) := by
    simp [CaseRun.covers, Nat.mod_one]
  rw [lowercaseCode, hruns, List.find?_cons, hcovers]
  by_cases hcapital : 0x41 ≤ n ∧ n ≤ 0x5A
  · rw [if_pos hcapital, decide_eq_true hcapital]
    rfl
  · rw [if_neg hcapital, decide_eq_false hcapital, hrest]

theorem lowercaseChar_of_ascii {c : Char} (h : c.toNat < 128) (before after : List Char) :
    lowercaseChar before c after = [c.toLower] := by
  have hdotted : c ≠ 'İ' := by
    rintro rfl
    exact absurd h (by decide)
  have hsigma : c ≠ 'Σ' := by
    rintro rfl
    exact absurd h (by decide)
  have hupper : (0x41 ≤ c.toNat ∧ c.toNat ≤ 0x5A) ↔ c.isUpper := by
    simp [Char.isUpper, UInt32.le_iff_toNat_le]
  rw [lowercaseChar, if_neg hdotted, if_neg hsigma, lowercaseCode_of_ascii h]
  by_cases hcapital : c.isUpper
  · rw [if_pos (hupper.mpr hcapital), Char.toLower_eq_of_isUpper hcapital]
  · rw [if_neg (mt hupper.mp hcapital), Char.toLower_eq_of_not_isUpper hcapital, Char.ofNat_toNat]

theorem lowercase_of_ascii {cs : List Char} (h : ∀ c ∈ cs, c.toNat < 128) :
    lowercase cs = cs.map Char.toLower := by
  have hafter : ∀ before, lowercaseAfter before cs = cs.map Char.toLower := by
    induction cs with
    | nil =>
        intro before
        rfl
    | cons c cs ih =>
        intro before
        rw [List.forall_mem_cons] at h
        rw [lowercaseAfter, lowercaseChar_of_ascii h.1, ih h.2]
        rfl
  exact hafter []

end Text

namespace Easing

/-! ## Spellings -/

/-- A character that may stand anywhere in a name. -/
def IsSeparator (c : Char) : Prop :=
  c = '_' ∨ c = '-'

/-- One change of a spelling. -/
inductive Respelling : List Char → List Char → Prop where
  /-- The case of an ASCII letter is changed. -/
  | recase (before after : List Char) {c d : Char} (h : c.toLower = d.toLower) :
      Respelling (before ++ c :: after) (before ++ d :: after)
  | insert (before after : List Char) {c : Char} (h : IsSeparator c) :
      Respelling (before ++ after) (before ++ c :: after)
  | delete (before after : List Char) {c : Char} (h : IsSeparator c) :
      Respelling (before ++ c :: after) (before ++ after)

def Spells (s name : String) : Prop :=
  Relation.ReflTransGen Respelling name.toList s.toList

/-- A name without its separators. -/
def bare (cs : List Char) : List Char :=
  cs.filter fun c => c ≠ '_' ∧ c ≠ '-'

/-- A name in small letters without its separators, where only ASCII letters have a case. -/
def folded (cs : List Char) : List Char :=
  bare (cs.map Char.toLower)

theorem isSeparator_toLower (c : Char) : IsSeparator c.toLower ↔ IsSeparator c := by
  by_cases hupper : c.isUpper
  · have halpha : c.isAlpha := by
      rw [Char.isAlpha, hupper, Bool.true_or]
    have hlower : c.toLower.isAlpha := by rwa [Char.isAlpha_toLower_eq_isAlpha]
    have hother : ∀ d : Char, d.isAlpha → ¬ IsSeparator d := by
      rintro d hd (rfl | rfl)
      · cases hd
      · cases hd
    exact iff_of_false (hother _ hlower) (hother _ halpha)
  · rw [Char.toLower_eq_of_not_isUpper hupper]

theorem folded_eq_map_bare (cs : List Char) : folded cs = (bare cs).map Char.toLower := by
  have htest : ∀ c : Char, (c.toLower ≠ '_' ∧ c.toLower ≠ '-') ↔ (c ≠ '_' ∧ c ≠ '-') := by
    intro c
    rw [← not_or, ← not_or]
    exact not_congr (isSeparator_toLower c)
  rw [folded, bare, bare, List.filter_map]
  congr 1
  apply List.filter_congr
  intro c _
  exact decide_eq_decide.mpr (htest c)

theorem bare_cons_of_isSeparator {c : Char} (h : IsSeparator c) (cs : List Char) :
    bare (c :: cs) = bare cs := by
  apply List.filter_cons_of_neg
  rw [decide_eq_true_eq, ← not_or, not_not]
  exact h

theorem bare_append (cs ds : List Char) : bare (cs ++ ds) = bare cs ++ bare ds :=
  List.filter_append cs ds

theorem Respelling.folded_eq {cs ds : List Char} (h : Respelling cs ds) :
    folded ds = folded cs := by
  cases h with
  | recase before after h =>
      rw [folded, folded, List.map_append, List.map_append, List.map_cons, List.map_cons, h]
  | insert before after h =>
      rw [folded_eq_map_bare, folded_eq_map_bare, bare_append, bare_append,
        bare_cons_of_isSeparator h]
  | delete before after h =>
      rw [folded_eq_map_bare, folded_eq_map_bare, bare_append, bare_append,
        bare_cons_of_isSeparator h]

theorem Spells.folded_eq {s name : String} (h : Spells s name) :
    folded s.toList = folded name.toList := by
  unfold Spells at h
  generalize s.toList = cs at h
  induction h with
  | refl => rfl
  | tail _ hchange ih => exact hchange.folded_eq.trans ih

/-! ## Keys -/

theorem folded_names (e : Easing) :
    folded e.name.toList = e.key ∧ folded e.osuName.toList = e.key := by
  have hall : ∀ e ∈ all,
      folded (List.intercalate ['_'] (e.words.map (·.map Char.toUpper))) = e.key ∧
        folded (e.words.map capitalized).flatten = e.key := by
    decide +kernel
  rw [name, osuName, String.toList_ofList, String.toList_ofList]
  exact hall e (mem_all e)

theorem bare_name (e : Easing) : bare e.name.toList = e.name.toList.filter (· ≠ '_') := by
  have hall : ∀ e ∈ all, bare (List.intercalate ['_'] (e.words.map (·.map Char.toUpper))) =
      (List.intercalate ['_'] (e.words.map (·.map Char.toUpper))).filter (· ≠ '_') := by
    decide +kernel
  rw [name, String.toList_ofList]
  exact hall e (mem_all e)

theorem isLower_of_mem_key {e : Easing} {c : Char} (h : c ∈ e.key) : c.isLower := by
  have hall : ∀ e ∈ all, e.key.all Char.isLower := by
    decide +kernel
  exact List.all_eq_true.mp (hall e (mem_all e)) c h

theorem ascii_of_isAlpha {c : Char} (h : c.isAlpha) : c.toNat < 128 := by
  have hcode : c.val.toNat = c.toNat := rfl
  simp only [Char.isAlpha, Char.isUpper, Char.isLower, Bool.or_eq_true, Bool.and_eq_true,
    decide_eq_true_eq, UInt32.le_iff_toNat_le, ge_iff_le, Char.reduceVal, UInt32.reduceToNat] at h
  omega

theorem nameKey_of_folded {cs : List Char} {e : Easing} (h : folded cs = e.key) :
    nameKey cs = e.key := by
  have hascii : ∀ c ∈ bare cs, c.toNat < 128 := by
    intro c hc
    have hmem : c.toLower ∈ e.key := by
      rw [← h, folded_eq_map_bare]
      exact List.mem_map_of_mem hc
    have hlower := isLower_of_mem_key hmem
    rw [Char.isLower_toLower_eq_isAlpha] at hlower
    exact ascii_of_isAlpha hlower
  calc nameKey cs = (bare cs).map Char.toLower := Text.lowercase_of_ascii hascii
    _ = e.key := by rw [← folded_eq_map_bare, h]

theorem lowercase_name (e : Easing) :
    Text.lowercase (e.name.toList.filter (· ≠ '_')) = e.key := by
  rw [← bare_name]
  exact nameKey_of_folded (folded_names e).1

/-! ## The search -/

theorem key_of_ofName? {s : String} {e : Easing} (h : ofName? s = some e) :
    e.key = nameKey s.toList := by
  unfold ofName? at h
  have hfound := List.find?_some h
  exact of_decide_eq_true hfound

theorem ofName?_eq_some_iff (s : String) (e : Easing) :
    ofName? s = some e ↔ nameKey s.toList = e.key := by
  constructor
  · intro h
    exact (key_of_ofName? h).symm
  · intro h
    cases hfound : ofName? s with
    | none =>
        have hnone := List.find?_eq_none.mp hfound e (mem_all e)
        exact absurd (decide_eq_true h.symm) hnone
    | some found => rw [key_injective ((key_of_ofName? hfound).trans h)]

theorem ofName?_eq_none_iff (s : String) :
    ofName? s = none ↔ ∀ e : Easing, nameKey s.toList ≠ e.key := by
  rw [Option.eq_none_iff_forall_ne_some]
  exact forall_congr' fun e => not_congr (ofName?_eq_some_iff s e)

/--
A text finds the easing of which it spells a name.  Whatever the text, it finds an easing exactly if
it has the same lower case as the name, separators not counted, and otherwise it finds none.
-/
theorem ofName?_inverts_names (e : Easing) (s : String) :
    (Spells s e.osuName ∨ Spells s e.name → ofName? s = some e) ∧
      (ofName? s = some e ↔
        Text.lowercase (s.toList.filter fun c => c ≠ '_' ∧ c ≠ '-') =
          Text.lowercase (e.name.toList.filter (· ≠ '_'))) ∧
      (ofName? s = none ↔ ∀ other : Easing,
        Text.lowercase (s.toList.filter fun c => c ≠ '_' ∧ c ≠ '-') ≠
          Text.lowercase (other.name.toList.filter (· ≠ '_'))) := by
  refine ⟨?_, ?_, ?_⟩
  · intro h
    rw [ofName?_eq_some_iff]
    apply nameKey_of_folded
    rcases h with hosu | hname
    · rw [hosu.folded_eq, (folded_names e).2]
    · rw [hname.folded_eq, (folded_names e).1]
  · rw [lowercase_name]
    exact ofName?_eq_some_iff s e
  · simp only [lowercase_name]
    exact ofName?_eq_none_iff s

/-- A hyphen does not matter, nor does a letter from elsewhere that has an ASCII lower case. -/
theorem ofName?_backIn :
    Spells "back-In" backIn.osuName ∧ ofName? "back-In" = some backIn ∧
      ofName? "BAC\u212A_IN" = some backIn := by
  have hspells : Spells "back-In" backIn.osuName := by
    have hname : backIn.osuName.toList = ['B', 'a', 'c', 'k', 'I', 'n'] := by decide +kernel
    have htext : "back-In".toList = ['b', 'a', 'c', 'k', '-', 'I', 'n'] := by decide +kernel
    have hrecase : Respelling ['B', 'a', 'c', 'k', 'I', 'n'] ['b', 'a', 'c', 'k', 'I', 'n'] :=
      .recase [] ['a', 'c', 'k', 'I', 'n'] rfl
    have hinsert : Respelling ['b', 'a', 'c', 'k', 'I', 'n'] ['b', 'a', 'c', 'k', '-', 'I', 'n'] :=
      .insert ['b', 'a', 'c', 'k'] ['I', 'n'] (Or.inr rfl)
    rw [Spells, hname, htext]
    exact (Relation.ReflTransGen.single hrecase).tail hinsert
  exact ⟨hspells, (ofName?_inverts_names backIn _).1 (Or.inl hspells),
    (ofName?_inverts_names backIn _).2.1.mpr (by decide +kernel)⟩

end Easing
end Storyboard
