import Mathlib
import Storyboard.Cue
import Storyboard.Proofs.Text.Fields

/-!
# What a line says of its command

A line can be read back: its leading spaces give the depth and its fields give the kind, the times,
the easing and the texts of the values.  `Command.Alike` collects what two commands with one line
have in common, and `Command.line_eq_line_iff` says that this is exactly what a line shows.
-/

namespace Storyboard

open Text

/-! ## The fields -/

theorem Kind.isField_code (k : Kind) : IsField k.code := by
  intro c hc
  rcases k with (_ | _ | _ | _ | _) | (_ | _) | _ | _ <;>
    simp only [Kind.code] at hc <;>
    simp at hc <;>
    rcases hc with rfl | rfl <;>
    decide

/-- The code tells all kinds apart but the flags. -/
theorem Kind.eq_or_flags_of_code_eq {j k : Kind} (h : j.code = k.code) :
    j = k ∨ ∃ f g, j = .flag f ∧ k = .flag g := by
  rcases j with (_ | _ | _ | _ | _) | (_ | _) | _ | f <;>
    rcases k with (_ | _ | _ | _ | _) | (_ | _) | _ | g <;>
    simp_all [Kind.code]

theorem Flag.letter_injective {f g : Flag} (h : f.letter = g.letter) : f = g := by
  cases f <;> cases g <;> simp_all [Flag.letter]

theorem Flag.isField_letter (flag : Flag) : IsField flag.letter := by
  intro c hc
  cases flag <;> simp [Flag.letter] at hc <;> subst hc <;> decide

namespace Command

theorem isField_of_mem_timeFields {c : Command} {field : String} (h : field ∈ c.timeFields) :
    IsField field := by
  unfold timeFields at h
  split at h
  · simp only [List.mem_cons, List.not_mem_nil, or_false] at h
    rcases h with rfl | rfl | rfl
    · exact isField_nat _
    · exact isField_int _
    · exact isField_of_toList [] rfl (by simp)
  · simp only [List.mem_cons, List.not_mem_nil, or_false] at h
    rcases h with rfl | rfl | rfl
    · exact isField_nat _
    · exact isField_int _
    · exact isField_int _

theorem isField_of_mem_valueFields {c : Command} {field : String} (h : field ∈ c.valueFields) :
    IsField field := by
  unfold valueFields at h
  split at h
  · obtain ⟨n, _, rfl⟩ := List.mem_map.mp h
    exact n.isField_text
  · obtain ⟨v, _, hv⟩ := List.mem_flatMap.mp h
    rcases List.mem_pair.mp hv with rfl | rfl
    · exact v.x.isField_text
    · exact v.y.isField_text
  · obtain ⟨color, _, hcolor⟩ := List.mem_flatMap.mp h
    obtain ⟨channel, _, rfl⟩ := List.mem_map.mp hcolor
    exact isField_nat channel
  · rw [List.mem_singleton.mp h]
    exact Flag.isField_letter _

theorem isField_of_mem_fields {c : Command} {field : String} (h : field ∈ c.fields) :
    IsField field := by
  rcases List.mem_append.mp h with h | h
  · rcases List.mem_cons.mp h with rfl | h
    · exact c.kind.isField_code
    · exact isField_of_mem_timeFields h
  · exact isField_of_mem_valueFields h

theorem fields_ne_nil (c : Command) : c.fields ≠ [] := by
  simp [fields]

theorem length_timeFields (c : Command) : c.timeFields.length = 3 := by
  unfold timeFields
  split <;> rfl

/-! ## The depth and the fields of a line -/

theorem toList_line (depth : Nat) (c : Command) :
    (c.line depth).toList =
      List.replicate (depth + 1) ' ' ++ (String.intercalate "," c.fields).toList := by
  rw [line, String.toList_append, String.toList_ofList]

theorem mem_toList_fields {c : Command} {ch : Char}
    (h : ch ∈ (String.intercalate "," c.fields).toList) : ch = ',' ∨ IsFieldChar ch := by
  rcases mem_toList_intercalate_comma h with hcomma | ⟨field, hfield, hmem⟩
  · exact Or.inl hcomma
  · exact Or.inr (isField_of_mem_fields hfield ch hmem)

theorem filter_toList_line (depth : Nat) (c : Command) :
    ((c.line depth).toList.filter fun ch => ch ≠ ' ') =
      (String.intercalate "," c.fields).toList := by
  have hspaces : ((List.replicate (depth + 1) ' ').filter fun ch => ch ≠ ' ') = [] := by
    simp
  rw [toList_line, List.filter_append, hspaces, List.nil_append, List.filter_eq_self]
  intro ch hch
  rcases mem_toList_fields hch with rfl | hfield
  · decide
  · simpa using hfield.2.1

theorem line_injective {depth depth' : Nat} {c c' : Command}
    (h : c.line depth = c'.line depth') : depth = depth' ∧ c.fields = c'.fields := by
  have hjoined : String.intercalate "," c.fields = String.intercalate "," c'.fields := by
    apply String.toList_inj.mp
    rw [← filter_toList_line depth c, ← filter_toList_line depth' c', h]
  constructor
  · have hlength := congrArg (fun text => text.toList.length) h
    simp only [toList_line, hjoined, List.length_append, List.length_replicate] at hlength
    omega
  · exact intercalate_comma_injective c.fields_ne_nil c'.fields_ne_nil
      (fun _ => isField_of_mem_fields) (fun _ => isField_of_mem_fields) hjoined

theorem mem_toList_line {depth : Nat} {c : Command} {ch : Char}
    (h : ch ∈ (c.line depth).toList) : ch = ' ' ∨ ch = ',' ∨ IsFieldChar ch := by
  rw [toList_line] at h
  rcases List.mem_append.mp h with h | h
  · exact Or.inl (List.eq_of_mem_replicate h)
  · exact Or.inr (mem_toList_fields h)

theorem not_mem_line {ch : Char} (hspace : ch ≠ ' ') (hcomma : ch ≠ ',')
    (hfield : ¬ IsFieldChar ch) (depth : Nat) (c : Command) : ch ∉ (c.line depth).toList := by
  intro h
  rcases mem_toList_line h with heq | heq | hch
  · exact hspace heq
  · exact hcomma heq
  · exact hfield hch

/-! ## The command behind a line -/

/-- Two commands that are shown in the same way. -/
structure Alike (c c' : Command) : Prop where
  kind : c.kind = c'.kind
  start : c.start = c'.start
  finish : c.effect.finish? = c'.effect.finish?
  easing : c.effect.finish? ≠ none → c.easing = c'.easing
  values : c.valueFields = c'.valueFields

theorem Alike.low {c c' : Command} (h : c.Alike c') : c.low = c'.low := by
  rw [Command.low, Command.low, Command.finish, Command.finish, h.start, h.finish]

theorem Alike.high {c c' : Command} (h : c.Alike c') : c.high = c'.high := by
  rw [Command.high, Command.high, Command.finish, Command.finish, h.start, h.finish]

theorem Alike.stop {c c' : Command} (h : c.Alike c') : c.stop = c'.stop := by
  rw [Command.stop, Command.stop, h.low, h.high]

theorem timeFields_eq_iff (c c' : Command) :
    c.timeFields = c'.timeFields ↔
      c.start = c'.start ∧ c.effect.finish? = c'.effect.finish? ∧
        (c.effect.finish? ≠ none → c.easing = c'.easing) := by
  unfold timeFields
  cases hfinish : c.effect.finish? with
  | none =>
      cases hfinish' : c'.effect.finish? with
      | none =>
          constructor
          · intro h
            simp only [List.cons.injEq, and_true, true_and] at h
            exact ⟨toString_int_injective h, rfl, fun hne => absurd rfl hne⟩
          · rintro ⟨hstart, -, -⟩
            rw [hstart]
      | some finish' =>
          constructor
          · intro h
            simp only [List.cons.injEq, and_true] at h
            exact absurd h.2.2.symm (toString_int_ne_empty finish')
          · rintro ⟨-, hcontra, -⟩
            cases hcontra
  | some finish =>
      cases hfinish' : c'.effect.finish? with
      | none =>
          constructor
          · intro h
            simp only [List.cons.injEq, and_true] at h
            exact absurd h.2.2 (toString_int_ne_empty finish)
          · rintro ⟨-, hcontra, -⟩
            cases hcontra
      | some finish' =>
          constructor
          · intro h
            simp only [List.cons.injEq, and_true] at h
            obtain ⟨heasing, hstart, hend⟩ := h
            exact ⟨toString_int_injective hstart, congrArg some (toString_int_injective hend),
              fun _ => Easing.number_injective (toString_nat_injective heasing)⟩
          · rintro ⟨hstart, hend, heasing⟩
            rw [hstart, heasing (by simp), Option.some.inj hend]

theorem kind_eq_of_code_eq {c c' : Command} (hcode : c.kind.code = c'.kind.code)
    (hvalues : c.valueFields = c'.valueFields) : c.kind = c'.kind := by
  rcases Kind.eq_or_flags_of_code_eq hcode with heq | ⟨f, g, hf, hg⟩
  · exact heq
  · have hletter : ∀ {d : Command} {flag : Flag}, d.kind = .flag flag →
        d.valueFields = [flag.letter] := by
      intro d flag hflag
      unfold Command.kind Effect.kind at hflag
      unfold valueFields
      split at hflag <;> cases hflag
      simp [*]
    rw [hletter hf, hletter hg] at hvalues
    rw [hf, hg, Flag.letter_injective (List.singleton_inj.mp hvalues)]

/-- Two lines are equal exactly if depths are and the commands are shown in the same way. -/
theorem line_eq_line_iff {depth depth' : Nat} {c c' : Command} :
    c.line depth = c'.line depth' ↔ depth = depth' ∧ c.Alike c' := by
  constructor
  · intro h
    obtain ⟨hdepth, hfields⟩ := line_injective h
    simp only [fields, List.cons_append, List.cons.injEq] at hfields
    obtain ⟨hcode, hrest⟩ := hfields
    have hlength : c.timeFields.length = c'.timeFields.length := by
      rw [length_timeFields, length_timeFields]
    obtain ⟨htimes, hvalues⟩ := List.append_inj hrest hlength
    obtain ⟨hstart, hfinish, heasing⟩ := (timeFields_eq_iff c c').mp htimes
    exact ⟨hdepth, kind_eq_of_code_eq hcode hvalues, hstart, hfinish, heasing, hvalues⟩
  · rintro ⟨rfl, h⟩
    have htimes := (timeFields_eq_iff c c').mpr ⟨h.start, h.finish, h.easing⟩
    rw [line, line, fields, fields, h.kind, htimes, h.values]

end Command

/-! ## Cues -/

theorem Cue.alike_of_line_eq {depths depths' : Depths} {cue cue' : Cue}
    (h : cue.line depths = cue'.line depths') : cue.command.Alike cue'.command :=
  (Command.line_eq_line_iff.mp h).2

end Storyboard
