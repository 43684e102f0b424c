/-!
# Easings

An easing says how a value moves from the start of a command to its end.  Each has a number, by
which command lines refer to it, and a name made of words.  Some easings are different names for
the same curve; these count as equal.
-/

namespace Storyboard

/-- The easings in the order of their numbers. -/
inductive Easing where
  | linear | easeOut | easeIn
  | quadIn | quadOut | quadInOut
  | cubicIn | cubicOut | cubicInOut
  | quartIn | quartOut | quartInOut
  | quintIn | quintOut | quintInOut
  | sineIn | sineOut | sineInOut
  | expoIn | expoOut | expoInOut
  | circIn | circOut | circInOut
  | elasticIn | elasticOut | elasticHalfOut | elasticQuarterOut | elasticInOut
  | backIn | backOut | backInOut
  | bounceIn | bounceOut | bounceInOut
deriving DecidableEq, Repr

namespace Easing

def all : List Easing :=
  [.linear, .easeOut, .easeIn,
    .quadIn, .quadOut, .quadInOut,
    .cubicIn, .cubicOut, .cubicInOut,
    .quartIn, .quartOut, .quartInOut,
    .quintIn, .quintOut, .quintInOut,
    .sineIn, .sineOut, .sineInOut,
    .expoIn, .expoOut, .expoInOut,
    .circIn, .circOut, .circInOut,
    .elasticIn, .elasticOut, .elasticHalfOut, .elasticQuarterOut, .elasticInOut,
    .backIn, .backOut, .backInOut,
    .bounceIn, .bounceOut, .bounceInOut]

theorem mem_all (e : Easing) : e ∈ all := by
  cases e <;> decide

def number (e : Easing) : Nat :=
  e.ctorIdx

theorem all_getElem?_number (e : Easing) : all[e.number]? = some e := by
  cases e <;> rfl

theorem number_injective {a b : Easing} (h : a.number = b.number) : a = b := by
  have ha := all_getElem?_number a
  rw [h, all_getElem?_number b] at ha
  exact (Option.some.inj ha).symm

/-!
## Names

There are two ways to write the words of a name: in capitals with underscores between them, and run
together with a capital at the start of each.
-/

def words : Easing → List (List Char)
  | .linear => ["linear".toList]
  | .easeOut => ["out".toList]
  | .easeIn => ["in".toList]
  | .quadIn => ["quad".toList, "in".toList]
  | .quadOut => ["quad".toList, "out".toList]
  | .quadInOut => ["quad".toList, "in".toList, "out".toList]
  | .cubicIn => ["cubic".toList, "in".toList]
  | .cubicOut => ["cubic".toList, "out".toList]
  | .cubicInOut => ["cubic".toList, "in".toList, "out".toList]
  | .quartIn => ["quart".toList, "in".toList]
  | .quartOut => ["quart".toList, "out".toList]
  | .quartInOut => ["quart".toList, "in".toList, "out".toList]
  | .quintIn => ["quint".toList, "in".toList]
  | .quintOut => ["quint".toList, "out".toList]
  | .quintInOut => ["quint".toList, "in".toList, "out".toList]
  | .sineIn => ["sine".toList, "in".toList]
  | .sineOut => ["sine".toList, "out".toList]
  | .sineInOut => ["sine".toList, "in".toList, "out".toList]
  | .expoIn => ["expo".toList, "in".toList]
  | .expoOut => ["expo".toList, "out".toList]
  | .expoInOut => ["expo".toList, "in".toList, "out".toList]
  | .circIn => ["circ".toList, "in".toList]
  | .circOut => ["circ".toList, "out".toList]
  | .circInOut => ["circ".toList, "in".toList, "out".toList]
  | .elasticIn => ["elastic".toList, "in".toList]
  | .elasticOut => ["elastic".toList, "out".toList]
  | .elasticHalfOut => ["elastic".toList, "half".toList, "out".toList]
  | .elasticQuarterOut => ["elastic".toList, "quarter".toList, "out".toList]
  | .elasticInOut => ["elastic".toList, "in".toList, "out".toList]
  | .backIn => ["back".toList, "in".toList]
  | .backOut => ["back".toList, "out".toList]
  | .backInOut => ["back".toList, "in".toList, "out".toList]
  | .bounceIn => ["bounce".toList, "in".toList]
  | .bounceOut => ["bounce".toList, "out".toList]
  | .bounceInOut => ["bounce".toList, "in".toList, "out".toList]

/-- A word with a capital at its start. -/
def capitalized : List Char → List Char
  | [] => []
  | c :: cs => c.toUpper :: cs

def name (e : Easing) : String :=
  String.ofList (List.intercalate ['_'] (e.words.map (·.map Char.toUpper)))

/-- The name with its words run together, each with a capital. -/
def osuName (e : Easing) : String :=
  String.ofList (e.words.map capitalized).flatten

def ofExactName? (s : String) : Option Easing :=
  all.find? (·.name = s)

/-- The easing that stands for all easings with the same curve. -/
def canonical : Easing → Easing
  | .easeOut => .quadOut
  | .easeIn => .quadIn
  | .elasticHalfOut | .elasticQuarterOut => .elasticOut
  | e => e

def equals (a b : Easing) : Bool :=
  a.canonical = b.canonical

def display (e : Easing) : String :=
  s!"<Easing.{e.name}: {e.number}>"

@[simp] theorem canonical_canonical (e : Easing) : e.canonical.canonical = e.canonical := by
  cases e <;> rfl

end Easing
end Storyboard
