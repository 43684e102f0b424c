import Mathlib
import Storyboard.Proofs.Sprite.Header
import Storyboard.Proofs.Sprite.Text

/-!
# What a text says of its sprite

The last quote of a text closes the path of the sprite: no line of a command and nothing behind the
path is written with a quote.  Behind it stand the position and, line by line, the commands.  So
sprites with one text have positions that are written alike, and the same lines of each kind.
-/

namespace Storyboard

open Text

namespace Sprite

/-! ## The text -/

theorem Records.exists_toList_text {s : Sprite} {added : List Cue} (h : s.Records added)
    (depths : Depths) :
    ∃ front, (s.text depths).toList =
      front ++ '"' :: (joinLines (s.ending :: bodyLines depths added)).toList := by
  refine ⟨s.opening.toList ++ '"' :: s.path.toList, ?_⟩
  rw [h.text_eq depths, joinLines_cons, joinLines_cons, toList_header]
  simp

theorem not_mem_lines {c : Char} (hspace : c ≠ ' ') (hcomma : c ≠ ',') (hfield : ¬ IsFieldChar c)
    (s : Sprite) (depths : Depths) (added : List Cue) :
    ∀ line ∈ s.ending :: bodyLines depths added, c ∉ line.toList := by
  intro line hmem
  rcases List.mem_cons.mp hmem with rfl | hmem
  · exact not_mem_ending hcomma hfield s
  · obtain ⟨cue, -, rfl⟩ := mem_bodyLines.mp hmem
    exact Command.not_mem_line hspace hcomma hfield (depths.get cue.id) cue.command

theorem newline_not_mem (s : Sprite) (depths : Depths) (added : List Cue) :
    ∀ line ∈ s.ending :: bodyLines depths added, '\n' ∉ line.toList :=
  not_mem_lines (by decide) (by decide) (by decide) s depths added

theorem quote_not_mem_joinLines (s : Sprite) (depths : Depths) (added : List Cue) :
    '"' ∉ (joinLines (s.ending :: bodyLines depths added)).toList := by
  intro h
  rcases mem_toList_joinLines h with hnewline | ⟨line, hline, hquote⟩
  · cases hnewline
  · exact not_mem_lines (by decide) (by decide) (by decide) s depths added line hline hquote

theorem Records.eq_of_text_eq {s s' : Sprite} {added added' : List Cue} {depths depths' : Depths}
    (h : s.Records added) (h' : s'.Records added') (htext : s.text depths = s'.text depths') :
    s.placing = s'.placing ∧ bodyLines depths added = bodyLines depths' added' := by
  -- Paths may hold quotes, commas and newlines, so the text is cut at its last quote.
  obtain ⟨front, hfront⟩ := h.exists_toList_text depths
  obtain ⟨front', hfront'⟩ := h'.exists_toList_text depths'
  rw [htext, hfront'] at hfront
  have hbehind := eq_of_append_cons_eq (s'.quote_not_mem_joinLines depths' added')
    (s.quote_not_mem_joinLines depths added) hfront
  have hlines := joinLines_injective (s.newline_not_mem depths added)
    (s'.newline_not_mem depths' added') (String.toList_inj.mp hbehind.symm)
  obtain ⟨hending, hbody⟩ := List.cons.inj hlines
  exact ⟨placing_eq_of_ending_eq hending, hbody⟩

/-! ## The lines of one kind -/

def IsLineOf (kind : Kind) (text : String) : Prop :=
  ∃ (depth : Nat) (c : Command), c.kind = kind ∧ c.line depth = text

open Classical in
theorem filter_isLineOf_linesInOrder (depths : Depths) (added : List Cue) (kind other : Kind) :
    (linesInOrder depths other added).filter (fun line => IsLineOf kind line) =
      if other = kind then linesInOrder depths other added else [] := by
  by_cases heq : other = kind
  · rw [if_pos heq, List.filter_eq_self]
    intro line hline
    obtain ⟨cue, -, hkind, rfl⟩ := mem_linesInOrder.mp hline
    exact decide_eq_true ⟨depths.get cue.id, cue.command, hkind.trans heq, rfl⟩
  · rw [if_neg heq, List.filter_eq_nil_iff]
    intro line hline hkind
    obtain ⟨cue, -, hother, rfl⟩ := mem_linesInOrder.mp hline
    obtain ⟨depth, c, hc, hsame⟩ := of_decide_eq_true hkind
    have halike := (Command.line_eq_line_iff.mp hsame).2
    exact heq (hother.symm.trans (halike.kind.symm.trans hc))

open Classical in
theorem linesInOrder_eq_filter (depths : Depths) (added : List Cue) (kind : Kind) :
    linesInOrder depths kind added =
      (bodyLines depths added).filter fun line => IsLineOf kind line := by
  rw [bodyLines, List.filter_flatMap]
  simp only [filter_isLineOf_linesInOrder]
  rcases kind with (_ | _ | _ | _ | _) | (_ | _) | _ | (_ | _ | _) <;> simp [Kind.all]

theorem linesInOrder_eq_of_bodyLines_eq {added added' : List Cue} {depths depths' : Depths}
    (h : bodyLines depths added = bodyLines depths' added') (kind : Kind) :
    linesInOrder depths kind added = linesInOrder depths' kind added' := by
  rw [linesInOrder_eq_filter, linesInOrder_eq_filter, h]

end Sprite
end Storyboard
