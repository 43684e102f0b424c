import Storyboard.Command.Basic
import Storyboard.Error

/-!
# Cues

The same command may appear in several sprites, and several times in one.  Its depth is a property
of the command and not of the place where it appears: changing the depth changes every line that the
command yields.  So timelines hold cues, commands that carry a number, and the depths are kept in
one place under those numbers.
-/

namespace Storyboard

structure Cue where
  id : Nat
  command : Command
deriving DecidableEq

/-- The depths of all cues, by number. -/
structure Depths where
  byCue : Array Nat

namespace Depths

def empty : Depths := ⟨#[]⟩

def get (d : Depths) (id : Nat) : Nat :=
  d.byCue[id]?.getD 0

def push (d : Depths) (depth : Nat) : Depths :=
  ⟨d.byCue.push depth⟩

/-- The depths with another one for a cue, which must not be negative. -/
def set (d : Depths) (id : Nat) (depth : Int) : Except Error Depths :=
  if depth < 0 then .error (.negativeDepth depth)
  else .ok ⟨d.byCue.setIfInBounds id depth.toNat⟩

theorem set_eq_ok {d : Depths} {id : Nat} {depth : Int} (h : 0 ≤ depth) :
    d.set id depth = .ok ⟨d.byCue.setIfInBounds id depth.toNat⟩ := by
  simp [set, Int.not_lt.mpr h]

end Depths

def Cue.line (depths : Depths) (cue : Cue) : String :=
  cue.command.line (depths.get cue.id)

end Storyboard
