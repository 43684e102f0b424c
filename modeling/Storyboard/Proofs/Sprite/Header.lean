import Mathlib
import Storyboard.Proofs.Text.Fields
import Storyboard.Sprite.Writing

/-!
# What a header says of its sprite

A header has three parts: the class, the layer and the origin in front of the first quote, the path,
and the position and what an animation adds behind the last quote.  Only the path may be any text.
It may hold commas and quotes of its own, but no other part is written with a quote, so that the
first and the last quote of a header are the ones around the path.
-/

namespace Storyboard

open Text

namespace Sprite

/-! ## Behind the path -/

/-- The fields of a header after the path. -/
def placing (s : Sprite) : List String :=
  s.position.x.text :: s.position.y.text ::
    match s.animation with
    | none => []
    | some a =>
        toString a.frameCount :: a.frameDelay.text ::
          match a.loopType with
          | .once => [LoopType.once.text]
          | .forever => []

theorem isField_of_mem_placing {s : Sprite} {field : String} (h : field ∈ s.placing) :
    IsField field := by
  have honce : IsField LoopType.once.text :=
    isField_of_toList ['L', 'o', 'o', 'p', 'O', 'n', 'c', 'e'] rfl (by simp [IsFieldChar])
  unfold placing at h
  rcases List.mem_cons.mp h with rfl | h
  · exact s.position.x.isField_text
  · rcases List.mem_cons.mp h with rfl | h
    · exact s.position.y.isField_text
    · split at h
      · cases h
      · rcases List.mem_cons.mp h with rfl | h
        · exact isField_nat _
        · rcases List.mem_cons.mp h with rfl | h
          · exact Number.isField_text _
          · split at h
            · rw [List.mem_singleton.mp h]
              exact honce
            · cases h

/-- The header from the quote that closes the path on. -/
def ending (s : Sprite) : String :=
  String.intercalate "," ("" :: s.placing)

theorem isField_of_mem_ending {s : Sprite} {field : String} (h : field ∈ "" :: s.placing) :
    IsField field := by
  rcases List.mem_cons.mp h with rfl | h
  · exact isField_of_toList [] rfl (by simp)
  · exact isField_of_mem_placing h

theorem mem_toList_ending {s : Sprite} {c : Char} (h : c ∈ s.ending.toList) :
    c = ',' ∨ IsFieldChar c := by
  rcases mem_toList_intercalate_comma h with hcomma | ⟨field, hfield, hc⟩
  · exact Or.inl hcomma
  · exact Or.inr (isField_of_mem_ending hfield c hc)

theorem not_mem_ending {c : Char} (hcomma : c ≠ ',') (hfield : ¬ IsFieldChar c) (s : Sprite) :
    c ∉ s.ending.toList := by
  intro h
  rcases mem_toList_ending h with heq | hc
  · exact hcomma heq
  · exact hfield hc

theorem placing_eq_of_ending_eq {s s' : Sprite} (h : s.ending = s'.ending) :
    s.placing = s'.placing := by
  have hfields := intercalate_comma_injective (List.cons_ne_nil _ _) (List.cons_ne_nil _ _)
    (fun _ => isField_of_mem_ending) (fun _ => isField_of_mem_ending) h
  exact (List.cons.inj hfields).2

/-! ## In front of the path -/

def className (s : Sprite) : String :=
  match s.animation with
  | none => "Sprite"
  | some _ => "Animation"

/-- The fields of a header before the path. -/
def naming (s : Sprite) : List String :=
  [s.className, s.layer.text, s.origin.text]

/-- The header up to the quote that opens the path. -/
def opening (s : Sprite) : String :=
  String.intercalate "," (s.naming ++ [""])

theorem isField_className (s : Sprite) : IsField s.className := by
  unfold className
  cases s.animation with
  | none => simp [Text.IsField, IsFieldChar]
  | some a => simp [Text.IsField, IsFieldChar]

end Sprite

theorem Layer.isField_text (l : Layer) : IsField l.text := by
  cases l <;> simp [Text.IsField, IsFieldChar, Layer.text]

theorem Layer.text_injective {l l' : Layer} (h : l.text = l'.text) : l = l' := by
  cases l <;> cases l' <;> simp_all [Layer.text]

theorem Origin.isField_text (o : Origin) : IsField o.text := by
  cases o <;> simp [Text.IsField, IsFieldChar, Origin.text]

theorem Origin.text_injective {o o' : Origin} (h : o.text = o'.text) : o = o' := by
  cases o <;> cases o' <;> simp_all [Origin.text]

namespace Sprite

theorem isField_of_mem_opening {s : Sprite} {field : String} (h : field ∈ s.naming ++ [""]) :
    IsField field := by
  rcases List.mem_append.mp h with h | h
  · simp only [naming, List.mem_cons, List.not_mem_nil, or_false] at h
    rcases h with rfl | rfl | rfl
    · exact s.isField_className
    · exact s.layer.isField_text
    · exact s.origin.isField_text
  · rw [List.mem_singleton.mp h]
    exact isField_of_toList [] rfl (by simp)

theorem not_mem_opening {c : Char} (hcomma : c ≠ ',') (hfield : ¬ IsFieldChar c) (s : Sprite) :
    c ∉ s.opening.toList := by
  intro h
  rcases mem_toList_intercalate_comma h with heq | ⟨field, hmem, hc⟩
  · exact hcomma heq
  · exact hfield (isField_of_mem_opening hmem c hc)

theorem naming_eq_of_opening_eq {s s' : Sprite} (h : s.opening = s'.opening) :
    s.naming = s'.naming := by
  have hfields := intercalate_comma_injective (by simp) (by simp)
    (fun _ => isField_of_mem_opening) (fun _ => isField_of_mem_opening) h
  exact List.append_cancel_right hfields

/-! ## The whole header -/

theorem toList_header (s : Sprite) :
    s.header.toList =
      s.opening.toList ++ '"' :: (s.path.toList ++ '"' :: s.ending.toList) := by
  have hself : ∀ t : String, toString t = t := fun _ => rfl
  unfold header placeFields opening naming className ending placing
  cases hanimation : s.animation with
  | none => simp [hself]
  | some a =>
      cases hloop : a.loopType with
      | once => simp [hself, Animation.fields, hloop]
      | forever => simp [hself, Animation.fields, hloop]

theorem parts_eq_of_header_eq {s s' : Sprite} (h : s.header = s'.header) :
    s.naming = s'.naming ∧ s.path = s'.path ∧ s.placing = s'.placing := by
  have hchars := congrArg String.toList h
  rw [toList_header, toList_header] at hchars
  -- The first quote ends what stands before the path, and the last one the path itself.
  obtain ⟨hopening, hrest⟩ := eq_and_eq_of_append_cons_eq
    (not_mem_opening (by decide) (by decide) s) (not_mem_opening (by decide) (by decide) s') hchars
  have hending := eq_of_append_cons_eq (not_mem_ending (by decide) (by decide) s)
    (not_mem_ending (by decide) (by decide) s') hrest
  rw [hending] at hrest
  exact ⟨naming_eq_of_opening_eq (String.toList_inj.mp hopening),
    String.toList_inj.mp (List.append_cancel_right hrest),
    placing_eq_of_ending_eq (String.toList_inj.mp hending)⟩

end Sprite

/-! ## The layer that a header names -/

/-- What stands between the first two commas of a line is the text of a layer. -/
def NamesLayer (line : String) (layer : Layer) : Prop :=
  ∃ first rest : String, ',' ∉ first.toList ∧ line = first ++ "," ++ layer.text ++ "," ++ rest

theorem NamesLayer.unique {line : String} {layer layer' : Layer} (h : NamesLayer line layer)
    (h' : NamesLayer line layer') : layer = layer' := by
  obtain ⟨first, rest, hfirst, hline⟩ := h
  obtain ⟨first', rest', hfirst', hline'⟩ := h'
  have hchars := congrArg String.toList (hline.symm.trans hline')
  simp only [String.toList_append, List.append_assoc] at hchars
  obtain ⟨-, hrest⟩ := eq_and_eq_of_append_cons_eq hfirst hfirst' hchars
  obtain ⟨htext, -⟩ := eq_and_eq_of_append_cons_eq layer.isField_text.comma_not_mem
    layer'.isField_text.comma_not_mem hrest
  exact Layer.text_injective (String.toList_inj.mp htext)

namespace Sprite

theorem namesLayer_header (s : Sprite) : NamesLayer s.header s.layer := by
  refine ⟨s.className, s.origin.text ++ ",\"" ++ s.path ++ "\"" ++ s.ending,
    s.isField_className.comma_not_mem, ?_⟩
  apply String.toList_inj.mp
  rw [toList_header]
  simp [opening, naming]

theorem namesLayer_header_iff (s : Sprite) (layer : Layer) :
    NamesLayer s.header layer ↔ s.layer = layer := by
  constructor
  · intro h
    exact s.namesLayer_header.unique h
  · rintro rfl
    exact s.namesLayer_header

end Sprite
end Storyboard
