/-!
# Kinds of commands

There are eleven kinds of commands.  Five set a single number, two set a vector, one sets the color,
and three switch something on for as long as they last.  A sprite writes its commands kind by kind,
in the order of `Kind.all`.
-/

namespace Storyboard

inductive ScalarProperty where
  | moveX | moveY | fade | rotate | scale
deriving DecidableEq, Repr

inductive VectorProperty where
  | move | scaleVec
deriving DecidableEq, Repr

inductive Flag where
  | hflip | vflip | additive
deriving DecidableEq, Repr

inductive Kind where
  | scalar (property : ScalarProperty)
  | vector (property : VectorProperty)
  | color
  | flag (switch : Flag)
deriving DecidableEq, Repr

namespace Kind

/-- The kinds in the order in which their commands are written. -/
def all : List Kind :=
  [.vector .move, .scalar .moveX, .scalar .moveY, .scalar .fade, .scalar .rotate, .scalar .scale,
    .vector .scaleVec, .color, .flag .hflip, .flag .vflip, .flag .additive]

def index : Kind → Fin 11
  | .vector .move => 0
  | .scalar .moveX => 1
  | .scalar .moveY => 2
  | .scalar .fade => 3
  | .scalar .rotate => 4
  | .scalar .scale => 5
  | .vector .scaleVec => 6
  | .color => 7
  | .flag .hflip => 8
  | .flag .vflip => 9
  | .flag .additive => 10

theorem all_getElem?_index (k : Kind) : all[(k.index : Nat)]? = some k := by
  rcases k with (_ | _ | _ | _ | _) | (_ | _) | _ | (_ | _ | _) <;> rfl

theorem index_injective {j k : Kind} (h : j.index = k.index) : j = k := by
  have hj := all_getElem?_index j
  rw [h, all_getElem?_index k] at hj
  exact (Option.some.inj hj).symm

theorem mem_all (k : Kind) : k ∈ all :=
  List.mem_of_getElem? (all_getElem?_index k)

def name : Kind → String
  | .vector .move => "Move"
  | .scalar .moveX => "MoveX"
  | .scalar .moveY => "MoveY"
  | .scalar .fade => "Fade"
  | .scalar .rotate => "Rotate"
  | .scalar .scale => "Scale"
  | .vector .scaleVec => "ScaleVec"
  | .color => "Color"
  | .flag .hflip => "HFlip"
  | .flag .vflip => "VFlip"
  | .flag .additive => "Additive"

def ofName? (s : String) : Option Kind :=
  all.find? (·.name = s)

/-- The code that opens a command line; the three flags share one. -/
def code : Kind → String
  | .vector .move => "M"
  | .scalar .moveX => "MX"
  | .scalar .moveY => "MY"
  | .scalar .fade => "F"
  | .scalar .rotate => "R"
  | .scalar .scale => "S"
  | .vector .scaleVec => "V"
  | .color => "C"
  | .flag _ => "P"

/-- How many numbers make up a value of the kind. -/
def arity : Kind → Nat
  | .scalar _ => 1
  | .vector _ => 2
  | .color => 3
  | .flag _ => 0

def hasStaticForm : Kind → Bool
  | .flag _ => false
  | _ => true

/-!
## Tables

A sprite keeps one timeline for each kind, also for those of which it has no command yet.
-/

/-- One entry for each kind. -/
structure Table (α : Type) where
  entries : Vector α 11

namespace Table

variable {α : Type}

def fill (a : α) : Table α := ⟨Vector.replicate 11 a⟩

def get (t : Table α) (k : Kind) : α :=
  t.entries[k.index]

def set (t : Table α) (k : Kind) (a : α) : Table α :=
  ⟨t.entries.set k.index a⟩

@[simp] theorem get_fill (a : α) (k : Kind) : (fill a).get k = a := by
  simp [get, fill]

@[simp] theorem get_set_self (t : Table α) (k : Kind) (a : α) : (t.set k a).get k = a := by
  simp [get, set]

theorem get_set_of_ne (t : Table α) {j k : Kind} (a : α) (h : j ≠ k) :
    (t.set j a).get k = t.get k := by
  have hne : (j.index : Nat) ≠ k.index := fun e => h (index_injective (Fin.ext e))
  simp [get, set, hne]

end Table
end Kind

def Flag.letter : Flag → String
  | .hflip => "H"
  | .vflip => "V"
  | .additive => "A"

end Storyboard
