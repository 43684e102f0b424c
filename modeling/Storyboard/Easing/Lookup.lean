import Storyboard.Easing.Basic
import Storyboard.Text.Lowercase

/-!
# Finding an easing

An easing is found by its number, where the numbers of some names lead to another name of the same
curve, or by its name, where case, underscores and hyphens do not matter.
-/

namespace Storyboard
namespace Easing

/-- The easing that a number written in a command line leads to. -/
def resolved : Easing → Easing
  | .easeOut => .quadOut
  | .easeIn => .quadIn
  | .elasticHalfOut | .elasticQuarterOut => .elasticOut
  | e => e

def ofNumber? (n : Int) : Option Easing :=
  if n < 0 then none else all[n.toNat]?.map resolved

/-- What is compared of a name: its characters in lower case without the separators. -/
def nameKey (name : List Char) : List Char :=
  Text.lowercase (name.filter fun c => c ≠ '_' ∧ c ≠ '-')

def key (e : Easing) : List Char :=
  e.words.flatten

/-- The first easing whose name has the same key. -/
def ofName? (name : String) : Option Easing :=
  all.find? (·.key = nameKey name.toList)

/-- No two easings have the same key, not even those that share a curve. -/
theorem key_injective {a b : Easing} (h : a.key = b.key) : a = b := by
  have distinct : ∀ a ∈ all, ∀ b ∈ all, a.key = b.key → a = b := by decide +kernel
  exact distinct a (mem_all a) b (mem_all b) h

theorem ofNumber?_number (e : Easing) : ofNumber? e.number = some e.resolved := by
  cases e <;> rfl

end Easing
end Storyboard
