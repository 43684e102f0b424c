/-!
# Interval maps

An interval map remembers which values are active at which keys.  Every value is active over a
half-open range of keys.  The key axis is split at breakpoints, and each breakpoint carries the
values active from there up to the next one, in the order in which they were added.

A range is added in three steps: the axis is cut at its start and at its end, and the value is
appended at all breakpoints in between.  A cut changes nothing for any key, because the new
breakpoint carries what was active just before it.
-/

namespace Storyboard

/-- Breakpoints in ascending order, each with the values active from there on. -/
structure IntervalMap (κ ν : Type) where
  breakpoints : List (κ × List ν)

/-- A range that holds no key. -/
structure EmptyInterval (κ : Type) where
  start : κ
  stop : κ

namespace IntervalMap

variable {κ ν : Type}

def empty : IntervalMap κ ν := ⟨[]⟩

instance : EmptyCollection (IntervalMap κ ν) := ⟨empty⟩

def size (m : IntervalMap κ ν) : Nat :=
  m.breakpoints.length

/-- The values of all breakpoints, one breakpoint after the other. -/
def values (m : IntervalMap κ ν) : List ν :=
  m.breakpoints.flatMap Prod.snd

section Order

variable [LT κ] [DecidableLT κ]

/-- Breakpoints with one at `key`; `carried` are the values active before the first of them. -/
def cut (key : κ) (carried : List ν) : List (κ × List ν) → List (κ × List ν)
  | [] => [(key, carried)]
  | (k, vs) :: rest =>
      if key < k then (key, carried) :: (k, vs) :: rest
      else if k < key then (k, vs) :: cut key vs rest
      else (k, vs) :: rest

/-- Appends a value at every breakpoint from `start` on that lies before `stop`. -/
def appendBetween (start stop : κ) (v : ν) (entries : List (κ × List ν)) : List (κ × List ν) :=
  entries.map fun (k, vs) => if ¬ k < start ∧ k < stop then (k, vs ++ [v]) else (k, vs)

def push (m : IntervalMap κ ν) (start stop : κ) (v : ν) :
    Except (EmptyInterval κ) (IntervalMap κ ν) :=
  if start < stop then
    .ok ⟨appendBetween start stop v (cut stop [] (cut start [] m.breakpoints))⟩
  else .error ⟨start, stop⟩

/-- The values of the last breakpoint at or before a key; `carried` if there is none. -/
def lastAtOrBefore (key : κ) (carried : List ν) : List (κ × List ν) → List ν
  | [] => carried
  | (k, vs) :: rest => if key < k then carried else lastAtOrBefore key vs rest

/-- The values active at a key, in the order in which they were added. -/
def get (m : IntervalMap κ ν) (key : κ) : List ν :=
  lastAtOrBefore key [] m.breakpoints

theorem push_eq_error_iff (m : IntervalMap κ ν) (start stop : κ) (v : ν) :
    m.push start stop v = .error ⟨start, stop⟩ ↔ ¬ start < stop := by
  unfold push
  split <;> simp_all

@[simp] theorem keys_appendBetween (start stop : κ) (v : ν) (entries : List (κ × List ν)) :
    (appendBetween start stop v entries).map Prod.fst = entries.map Prod.fst := by
  simp only [appendBetween, List.map_map]
  apply List.map_congr_left
  intro entry _
  simp only [Function.comp_apply]
  split <;> rfl

end Order
end IntervalMap
end Storyboard
