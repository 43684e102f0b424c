import Mathlib

/-!
# Computations that may fail

A chain of computations leads to a result exactly if each of them does, and the results in between
can be named.
-/

namespace Storyboard

variable {ε α β : Type}

@[simp] theorem ok_bind (a : α) (g : α → Except ε β) : (Except.ok a >>= g) = g a :=
  rfl

@[simp] theorem error_bind (e : ε) (g : α → Except ε β) : (Except.error e >>= g) = .error e :=
  rfl

theorem exists_of_isOk {x : Except ε α} (h : x.isOk = true) : ∃ a, x = .ok a := by
  cases x with
  | error e => cases h
  | ok a => exact ⟨a, rfl⟩

theorem exists_of_isSome {x : Except ε (Option α)} (h : x.toOption.join.isSome = true) :
    ∃ a, x = .ok (some a) := by
  rcases x with e | (- | a)
  · cases h
  · cases h
  · exact ⟨a, rfl⟩

theorem toOption_eq_some_iff {x : Except ε α} {a : α} : x.toOption = some a ↔ x = .ok a := by
  cases x with
  | error e => exact iff_of_false nofun nofun
  | ok b =>
      constructor
      · intro h
        cases h
        rfl
      · intro h
        cases h
        rfl

theorem exists_of_bind_eq_ok {x : Except ε α} {g : α → Except ε β} {b : β}
    (h : x >>= g = .ok b) : ∃ a, x = .ok a ∧ g a = .ok b := by
  cases x with
  | error e => cases h
  | ok a => exact ⟨a, rfl, h⟩

theorem eq_of_eq_ok {x y : Except ε α} {a b : α} (hxy : x = y) (hx : x = .ok a)
    (hy : y = .ok b) : a = b :=
  Except.ok.inj (hx.symm.trans (hxy.trans hy))

/-- If every item leads to a result in some relation to it, the list of results is there. -/
theorem exists_mapM_of_forall {g : α → Except ε β} {R : α → β → Prop} {items : List α}
    (h : ∀ a ∈ items, ∃ b, g a = .ok b ∧ R a b) :
    ∃ results, items.mapM g = .ok results ∧ List.Forall₂ R items results := by
  induction items with
  | nil => exact ⟨[], rfl, .nil⟩
  | cons a rest ih =>
      obtain ⟨b, hb, hab⟩ := h a List.mem_cons_self
      obtain ⟨results, hresults, hrest⟩ := ih fun c hc => h c (List.mem_cons_of_mem a hc)
      refine ⟨b :: results, ?_, .cons hab hrest⟩
      rw [List.mapM_cons, hb, hresults]
      rfl

end Storyboard
