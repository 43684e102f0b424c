import Storyboard.Sprite.Basic

/-!
# The text of a sprite

A sprite is written as a header line and the lines of its commands, kind after kind.  Within a kind,
commands come in the order in which the timeline meets them, and of those with the same line only
the first is written.
-/

namespace Storyboard

/-- The items without those that have the same key as an earlier one. -/
def firstsBy {α β : Type} [DecidableEq β] (key : α → β) : List α → List α
  | [] => []
  | a :: rest => a :: (firstsBy key rest).filter fun b => key b ≠ key a

@[simp] theorem firstsBy_nil {α β : Type} [DecidableEq β] (key : α → β) :
    firstsBy key [] = [] :=
  rfl

theorem mem_of_mem_firstsBy {α β : Type} [DecidableEq β] {key : α → β} {a : α} {items : List α}
    (h : a ∈ firstsBy key items) : a ∈ items := by
  induction items with
  | nil => exact h
  | cons b rest ih =>
      rcases List.mem_cons.mp h with rfl | h
      · exact List.mem_cons_self
      · exact List.mem_cons_of_mem b (ih (List.mem_filter.mp h).1)

theorem exists_mem_firstsBy {α β : Type} [DecidableEq β] (key : α → β) {a : α} {items : List α}
    (h : a ∈ items) : ∃ b ∈ firstsBy key items, key b = key a := by
  induction items with
  | nil => cases h
  | cons c rest ih =>
      rcases List.mem_cons.mp h with rfl | h
      · exact ⟨a, List.mem_cons_self, rfl⟩
      · obtain ⟨b, hb, hkey⟩ := ih h
        by_cases hc : key b = key c
        · exact ⟨c, List.mem_cons_self, hc ▸ hkey⟩
        · exact ⟨b, List.mem_cons_of_mem c (List.mem_filter.mpr ⟨hb, by simpa using hc⟩), hkey⟩

def Animation.fields (a : Animation) : String :=
  let ending :=
    match a.loopType with
    | .once => "," ++ LoopType.once.text
    | .forever => ""
  s!"{a.frameCount},{a.frameDelay.text}" ++ ending

namespace Sprite

/-- The commands of a kind that are written, each with its line. -/
def written (depths : Depths) (s : Sprite) (kind : Kind) : List (String × Cue) :=
  firstsBy Prod.fst ((s.timeline kind).values.map fun cue => (cue.line depths, cue))

def events (depths : Depths) (s : Sprite) (kind : Kind) : List Cue :=
  (s.written depths kind).map Prod.snd

def lines (depths : Depths) (s : Sprite) (kind : Kind) : List String :=
  (s.written depths kind).map Prod.fst

/-- The fields that sprites and animations have in common, after the word that tells them apart. -/
def placeFields (s : Sprite) : String :=
  s!"{s.layer.text},{s.origin.text},\"{s.path}\",{s.position.x.text},{s.position.y.text}"

def header (s : Sprite) : String :=
  match s.animation with
  | none => s!"Sprite,{s.placeFields}"
  | some a => s!"Animation,{s.placeFields},{a.fields}"

def allLines (depths : Depths) (s : Sprite) : List String :=
  s.header :: Kind.all.flatMap (s.lines depths)

def text (depths : Depths) (s : Sprite) : String :=
  String.join ((s.allLines depths).map (· ++ "\n"))

end Sprite
end Storyboard
