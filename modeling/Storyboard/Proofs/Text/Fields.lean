import Mathlib
import Storyboard.Number

/-!
# Texts that may stand in a field

Lines are fields with commas in between, and texts are lines with newlines at their ends.  They can
be taken apart again because no number is written with a comma, a blank, a newline or a quote.
-/

namespace Storyboard
namespace Text

/-- The character neither ends a field or a line nor begins a line or closes a path. -/
def IsFieldChar (c : Char) : Prop :=
  c ≠ ',' ∧ c ≠ ' ' ∧ c ≠ '\n' ∧ c ≠ '"'

instance (c : Char) : Decidable (IsFieldChar c) :=
  inferInstanceAs (Decidable (_ ∧ _))

/-- A text all of whose characters may stand in a field. -/
def IsField (text : String) : Prop :=
  ∀ c ∈ text.toList, IsFieldChar c

theorem isFieldChar_of_isDigit {c : Char} (h : c.isDigit = true) : IsFieldChar c := by
  refine ⟨?_, ?_, ?_, ?_⟩
  all_goals
    rintro rfl
    revert h
    decide

theorem isField_of_toList {text : String} (cs : List Char) (htext : text.toList = cs)
    (hcs : ∀ c ∈ cs, IsFieldChar c) : IsField text := by
  intro c hc
  rw [htext] at hc
  exact hcs c hc

theorem isField_append {first last : String} (hfirst : IsField first) (hlast : IsField last) :
    IsField (first ++ last) := by
  intro c hc
  rw [String.toList_append] at hc
  rcases List.mem_append.mp hc with hc | hc
  · exact hfirst c hc
  · exact hlast c hc

/-! ## Joining and splitting -/

theorem IsField.comma_not_mem {text : String} (h : IsField text) : ',' ∉ text.toList :=
  fun hc => (h ',' hc).1 rfl

theorem splitOn_comma_intercalate {fields : List String} (hne : fields ≠ [])
    (hfields : ∀ field ∈ fields, IsField field) :
    (String.intercalate "," fields).toList.splitOn ',' = fields.map String.toList := by
  rw [String.toList_intercalate]
  apply List.splitOn_intercalate
  · intro cs hcs
    obtain ⟨field, hfield, rfl⟩ := List.mem_map.mp hcs
    exact (hfields field hfield).comma_not_mem
  · simpa using hne

theorem intercalate_comma_injective {fields others : List String} (hne : fields ≠ [])
    (hne' : others ≠ []) (hfields : ∀ field ∈ fields, IsField field)
    (hothers : ∀ field ∈ others, IsField field)
    (h : String.intercalate "," fields = String.intercalate "," others) : fields = others := by
  have hsplit : fields.map String.toList = others.map String.toList := by
    rw [← splitOn_comma_intercalate hne hfields, ← splitOn_comma_intercalate hne' hothers, h]
  exact List.map_injective_iff.mpr (fun _ _ => String.toList_inj.mp) hsplit

theorem mem_toList_intercalate_comma {fields : List String} {c : Char}
    (h : c ∈ (String.intercalate "," fields).toList) :
    c = ',' ∨ ∃ field ∈ fields, c ∈ field.toList := by
  induction fields with
  | nil => simp at h
  | cons first rest ih =>
      cases rest with
      | nil =>
          rw [String.intercalate_singleton] at h
          exact Or.inr ⟨first, List.mem_cons_self, h⟩
      | cons second later =>
          rw [String.intercalate_cons_cons, String.toList_append, String.toList_append] at h
          rcases List.mem_append.mp h with h | h
          · rcases List.mem_append.mp h with h | h
            · exact Or.inr ⟨first, List.mem_cons_self, h⟩
            · exact Or.inl (by simpa using h)
          · rcases ih h with hcomma | ⟨field, hfield, hmem⟩
            · exact Or.inl hcomma
            · exact Or.inr ⟨field, List.mem_cons_of_mem _ hfield, hmem⟩

/-- Some lines, each with a newline at its end. -/
def joinLines (lines : List String) : String :=
  String.join (lines.map (· ++ "\n"))

theorem toList_joinLines (lines : List String) :
    (joinLines lines).toList = lines.flatMap fun line => line.toList ++ ['\n'] := by
  rw [joinLines, String.toList_join, List.flatMap_map]
  simp

theorem splitOn_newline_joinLines {lines : List String}
    (hlines : ∀ line ∈ lines, '\n' ∉ line.toList) :
    (joinLines lines).toList.splitOn '\n' = lines.map String.toList ++ [[]] := by
  rw [toList_joinLines]
  induction lines with
  | nil => rfl
  | cons line rest ih =>
      have hrest := ih fun other hother => hlines other (List.mem_cons_of_mem line hother)
      rw [List.flatMap_cons, List.append_assoc, List.singleton_append,
        List.splitOn_append_cons_self_of_not_mem (hlines line List.mem_cons_self), hrest]
      rfl

theorem joinLines_injective {lines others : List String}
    (hlines : ∀ line ∈ lines, '\n' ∉ line.toList)
    (hothers : ∀ line ∈ others, '\n' ∉ line.toList)
    (h : joinLines lines = joinLines others) : lines = others := by
  have hsplit : lines.map String.toList ++ [[]] = others.map String.toList ++ [[]] := by
    rw [← splitOn_newline_joinLines hlines, ← splitOn_newline_joinLines hothers, h]
  exact List.map_injective_iff.mpr (fun _ _ => String.toList_inj.mp)
    (List.append_cancel_right hsplit)

theorem eq_of_append_cons_eq {α : Type} {a : α} {xs ys zs ws : List α} (hys : a ∉ ys)
    (hws : a ∉ ws) (h : xs ++ a :: ys = zs ++ a :: ws) : ys = ws := by
  rcases List.append_eq_append_iff.mp h with ⟨cs, -, hcs⟩ | ⟨cs, -, hcs⟩
  · cases cs with
    | nil => exact (List.cons.inj hcs).2
    | cons c rest =>
        rw [(List.cons.inj hcs).2] at hys
        exact absurd (by simp) hys
  · cases cs with
    | nil => exact (List.cons.inj hcs).2.symm
    | cons c rest =>
        rw [(List.cons.inj hcs).2] at hws
        exact absurd (by simp) hws

theorem eq_and_eq_of_append_cons_eq {α : Type} {a : α} {xs ys zs ws : List α} (hxs : a ∉ xs)
    (hzs : a ∉ zs) (h : xs ++ a :: ys = zs ++ a :: ws) : xs = zs ∧ ys = ws := by
  have hreversed : ys.reverse ++ a :: xs.reverse = ws.reverse ++ a :: zs.reverse := by
    simpa using congrArg List.reverse h
  have hfront := eq_of_append_cons_eq (by simpa using hxs) (by simpa using hzs) hreversed
  obtain rfl := List.reverse_injective hfront
  exact ⟨rfl, (List.cons.inj (List.append_cancel_left h)).2⟩

theorem joinLines_cons (line : String) (lines : List String) :
    (joinLines (line :: lines)).toList = line.toList ++ '\n' :: (joinLines lines).toList := by
  simp [toList_joinLines]

theorem joinLines_append (lines others : List String) :
    joinLines (lines ++ others) = joinLines lines ++ joinLines others := by
  apply String.toList_inj.mp
  simp [toList_joinLines]

theorem joinLines_flatMap {α : Type} (items : List α) (lines : α → List String) :
    joinLines (items.flatMap lines) =
      String.join (items.map fun item => joinLines (lines item)) := by
  apply String.toList_inj.mp
  simp [toList_joinLines, String.toList_join, List.flatMap_assoc, List.flatMap_map]

theorem mem_toList_joinLines {lines : List String} {c : Char} (h : c ∈ (joinLines lines).toList) :
    c = '\n' ∨ ∃ line ∈ lines, c ∈ line.toList := by
  rw [toList_joinLines] at h
  obtain ⟨line, hline, hc⟩ := List.mem_flatMap.mp h
  rcases List.mem_append.mp hc with hc | hc
  · exact Or.inr ⟨line, hline, hc⟩
  · exact Or.inl (List.mem_singleton.mp hc)

/-! ## Integers -/

theorem isDigit_of_mem_digits {n : Nat} {c : Char} (h : c ∈ Nat.toDigits 10 n) :
    c.isDigit = true :=
  Nat.isDigit_of_mem_toDigits (by decide) (by decide) h

theorem isField_nat (n : Nat) : IsField (toString n) := by
  intro c hc
  rw [Nat.toString_eq_ofList_toDigits, String.toList_ofList] at hc
  exact isFieldChar_of_isDigit (isDigit_of_mem_digits hc)

theorem isField_int (n : Int) : IsField (toString n) := by
  cases n with
  | ofNat m => exact isField_nat m
  | negSucc m =>
      have hminus : IsField "-" := isField_of_toList ['-'] rfl (by simp [IsFieldChar])
      exact isField_append hminus (isField_nat (m + 1))

theorem toString_int_injective {m n : Int} (h : toString m = toString n) : m = n :=
  Int.repr_injective h

theorem toString_nat_injective {m n : Nat} (h : toString m = toString n) : m = n :=
  Nat.repr_injective h

theorem toString_int_ne_empty (n : Int) : toString n ≠ "" := by
  intro h
  cases n with
  | ofNat m =>
      have hdigits : (toString m).toList = [] := congrArg String.toList h
      rw [Nat.toString_eq_ofList_toDigits, String.toList_ofList] at hdigits
      exact Nat.toDigits_ne_nil hdigits
  | negSucc m =>
      have hchars : ("-" ++ toString (m + 1)).toList = [] := congrArg String.toList h
      simp at hchars

end Text

/-! ## Numbers with a fraction -/

namespace Decimal

open Text

theorem isFieldChar_of_mem_digits {n : Nat} {c : Char} (h : c ∈ digits n) : IsFieldChar c :=
  isFieldChar_of_isDigit (isDigit_of_mem_digits h)

theorem isFieldChar_of_mem_zeros {n : Nat} {c : Char} (h : c ∈ zeros n) : IsFieldChar c := by
  rw [List.eq_of_mem_replicate h]
  decide

theorem isFieldChar_of_mem_positionalChars {pointZero : Bool} {coefficient : Nat} {exponent : Int}
    {c : Char} (h : c ∈ positionalChars pointZero coefficient exponent) : IsFieldChar c := by
  have hpadded : ∀ {n : Nat} {c : Char}, c ∈ zeros n ++ digits coefficient → IsFieldChar c := by
    intro n c hc
    rcases List.mem_append.mp hc with hc | hc
    · exact isFieldChar_of_mem_zeros hc
    · exact isFieldChar_of_mem_digits hc
  unfold positionalChars at h
  split at h
  · rcases List.mem_append.mp h with h | h
    · rcases List.mem_append.mp h with h | h
      · exact isFieldChar_of_mem_digits h
      · exact isFieldChar_of_mem_zeros h
    · cases pointZero with
      | false => cases h
      | true =>
          rcases List.mem_pair.mp h with rfl | rfl
          · decide
          · decide
  · rcases List.mem_append.mp h with h | h
    · exact hpadded (List.mem_of_mem_take h)
    · rcases List.mem_cons.mp h with rfl | h
      · decide
      · exact hpadded (List.mem_of_mem_drop h)

theorem isFieldChar_of_mem_chars {d : Decimal} {c : Char} (h : c ∈ chars Style.command d) :
    IsFieldChar c := by
  unfold chars at h
  split at h
  · rcases List.mem_cons.mp h with rfl | h
    · decide
    · exact isFieldChar_of_mem_positionalChars h
  · exact isFieldChar_of_mem_positionalChars h

end Decimal

theorem Binary.isField_text {f : Binary.Format} (x : Binary f) :
    Text.IsField (x.text .command) := by
  cases x with
  | nan =>
      show Text.IsField "nan"
      exact Text.isField_of_toList ['n', 'a', 'n'] rfl (by simp [Text.IsFieldChar])
  | infinite negative =>
      cases negative with
      | false =>
          show Text.IsField "inf"
          exact Text.isField_of_toList ['i', 'n', 'f'] rfl (by simp [Text.IsFieldChar])
      | true =>
          show Text.IsField "-inf"
          exact Text.isField_of_toList ['-', 'i', 'n', 'f'] rfl (by simp [Text.IsFieldChar])
  | finite negative significand exponent canonical =>
      intro c hc
      rw [Binary.text, String.toList_ofList] at hc
      exact Decimal.isFieldChar_of_mem_chars hc

theorem Number.isField_text (n : Number) : Text.IsField n.text := by
  cases n with
  | int n => exact Text.isField_int n
  | float x => exact x.isField_text

end Storyboard
