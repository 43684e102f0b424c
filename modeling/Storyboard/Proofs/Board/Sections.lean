import Mathlib
import Storyboard.Board.Step
import Storyboard.Proofs.Command.Line
import Storyboard.Proofs.Sprite.Header
import Storyboard.Proofs.Text.Blocks

/-!
# Reading a storyboard back

The text of a storyboard is a list of lines.  The first character of a line tells what it is: a
slash opens a section, a blank a command, and a letter the header of a sprite.  So the text can be
cut into its sections and a section into its sprites, and what is written of every sprite can be
read off its header and its command lines.  A path may hold any characters but newlines, since the
first character of a header is not one of the path.
-/

namespace Storyboard

open Text

/-! ## First characters -/

/-- The first character of a line. -/
def Text.opensWith (c : Char) (line : String) : Bool :=
  line.toList.head? = some c

namespace Sprite

def commandLines (depths : Depths) (s : Sprite) : List String :=
  Kind.all.flatMap (s.lines depths)

theorem exists_of_mem_commandLines {depths : Depths} {s : Sprite} {line : String}
    (h : line ∈ s.commandLines depths) :
    ∃ (depth : Nat) (c : Command), line = c.line depth := by
  obtain ⟨kind, -, hline⟩ := List.mem_flatMap.mp h
  obtain ⟨pair, hpair, rfl⟩ := List.mem_map.mp hline
  obtain ⟨cue, -, rfl⟩ := List.mem_map.mp (mem_of_mem_firstsBy hpair)
  exact ⟨depths.get cue.id, cue.command, rfl⟩

theorem head?_toList_header (s : Sprite) :
    s.header.toList.head? = some 'S' ∨ s.header.toList.head? = some 'A' := by
  have hself : ∀ t : String, toString t = t := fun _ => rfl
  unfold header
  cases s.animation with
  | none => exact Or.inl (by simp [hself])
  | some a => exact Or.inr (by simp [hself])

end Sprite

theorem Command.head?_toList_line (depth : Nat) (c : Command) :
    (c.line depth).toList.head? = some ' ' := by
  rw [toList_line, List.replicate_succ]
  rfl

/-! ## The lines of a sprite -/

namespace Sprite

theorem opensWith_blank_header (s : Sprite) : opensWith ' ' s.header = false := by
  unfold opensWith
  rcases s.head?_toList_header with h | h
  · rw [h]
    decide
  · rw [h]
    decide

theorem opensWith_blank_of_mem {depths : Depths} {s : Sprite} {line : String}
    (h : line ∈ s.commandLines depths) : opensWith ' ' line = true := by
  obtain ⟨depth, c, rfl⟩ := exists_of_mem_commandLines h
  simp [opensWith, c.head?_toList_line depth]

theorem opensWith_slash_of_mem {depths : Depths} {s : Sprite} {line : String}
    (h : line ∈ s.allLines depths) : opensWith '/' line = false := by
  unfold opensWith
  rcases List.mem_cons.mp h with rfl | h
  · rcases s.head?_toList_header with h | h
    · rw [h]
      decide
    · rw [h]
      decide
  · obtain ⟨depth, c, rfl⟩ := exists_of_mem_commandLines h
    rw [c.head?_toList_line depth]
    decide

theorem newline_not_mem_header {s : Sprite} (hpath : '\n' ∉ s.path.toList) :
    '\n' ∉ s.header.toList := by
  intro h
  rw [toList_header] at h
  rcases List.mem_append.mp h with h | h
  · exact not_mem_opening (by decide) (by decide) s h
  · rcases List.mem_cons.mp h with h | h
    · cases h
    · rcases List.mem_append.mp h with h | h
      · exact hpath h
      · rcases List.mem_cons.mp h with h | h
        · cases h
        · exact not_mem_ending (by decide) (by decide) s h

theorem newline_not_mem_of_mem {depths : Depths} {s : Sprite} (hpath : '\n' ∉ s.path.toList)
    {line : String} (h : line ∈ s.allLines depths) : '\n' ∉ line.toList := by
  rcases List.mem_cons.mp h with rfl | h
  · exact newline_not_mem_header hpath
  · obtain ⟨depth, c, rfl⟩ := exists_of_mem_commandLines h
    exact Command.not_mem_line (by decide) (by decide) (by decide) depth c

end Sprite

/-! ## What is written of a sprite -/

/-- What animations add to an image is written in the same way. -/
structure Animation.ShownAlike (a a' : Animation) : Prop where
  frameCount : a.frameCount = a'.frameCount
  frameDelay : a.frameDelay.text = a'.frameDelay.text
  loopType : a.loopType = a'.loopType

/--
Two sprites, or two animations, are written in the same way: on the same layer, with the same
origin, path and command lines, and with numbers that are displayed alike.
-/
structure Sprite.ShownAlike (depths depths' : Depths) (s s' : Sprite) : Prop where
  layer : s.layer = s'.layer
  origin : s.origin = s'.origin
  path : s.path = s'.path
  x : s.position.x.text = s'.position.x.text
  y : s.position.y.text = s'.position.y.text
  animation : Option.Rel Animation.ShownAlike s.animation s'.animation
  commandLines : s.commandLines depths = s'.commandLines depths'

namespace Sprite

theorem rel_animation_of_placing_eq {s s' : Sprite} (h : s.placing = s'.placing) :
    Option.Rel Animation.ShownAlike s.animation s'.animation := by
  simp only [placing, List.cons.injEq] at h
  obtain ⟨-, -, hfields⟩ := h
  cases ha : s.animation with
  | none =>
      cases ha' : s'.animation with
      | none => exact .none
      | some a' => simp [ha, ha'] at hfields
  | some a =>
      cases ha' : s'.animation with
      | none => simp [ha, ha'] at hfields
      | some a' =>
          simp only [ha, ha', List.cons.injEq] at hfields
          obtain ⟨hcount, hdelay, hloop⟩ := hfields
          refine .some ⟨toString_nat_injective hcount, hdelay, ?_⟩
          cases hl : a.loopType with
          | forever =>
              cases hl' : a'.loopType with
              | forever => rfl
              | once => simp [hl, hl'] at hloop
          | once =>
              cases hl' : a'.loopType with
              | forever => simp [hl, hl'] at hloop
              | once => rfl

theorem shownAlike_of_eq {depths depths' : Depths} {s s' : Sprite} (hheader : s.header = s'.header)
    (hlines : s.commandLines depths = s'.commandLines depths') :
    ShownAlike depths depths' s s' := by
  obtain ⟨hnaming, hpath, hplacing⟩ := parts_eq_of_header_eq hheader
  have hanimation := rel_animation_of_placing_eq hplacing
  simp only [naming, List.cons.injEq, and_true] at hnaming
  simp only [placing, List.cons.injEq] at hplacing
  exact
    { layer := Layer.text_injective hnaming.2.1
      origin := Origin.text_injective hnaming.2.2
      path := hpath
      x := hplacing.1
      y := hplacing.2.1
      animation := hanimation
      commandLines := hlines }

end Sprite

/-! ## The lines of a storyboard -/

def Layer.heading (l : Layer) : String :=
  s!"//Storyboard Layer {l.index} ({l.text})"

theorem Layer.header_eq (l : Layer) : l.header = l.heading ++ "\n" := by
  have hself : ∀ t : String, toString t = t := fun _ => rfl
  have hlast : ")\n" = ")" ++ "\n" := by decide
  unfold header heading
  simp only [hself, String.append_assoc]
  rw [← hlast]

theorem Layer.toList_heading (l : Layer) :
    l.heading.toList = "//Storyboard Layer ".toList ++ (toString l.index).toList ++ " (".toList ++
      l.text.toList ++ ")".toList := by
  have hself : ∀ t : String, toString t = t := fun _ => rfl
  unfold heading
  simp only [hself, String.toList_append]

theorem Layer.opensWith_slash_heading (l : Layer) : opensWith '/' l.heading = true := by
  simp [opensWith, toList_heading]

theorem Layer.newline_not_mem_heading (l : Layer) : '\n' ∉ l.heading.toList := by
  intro h
  simp only [toList_heading, List.mem_append] at h
  rcases h with (((h | h) | h) | h) | h
  · simp at h
  · exact (isField_nat l.index '\n' h).2.2.1 rfl
  · simp at h
  · exact (l.isField_text '\n' h).2.2.1 rfl
  · simp at h

namespace Board

/-- The sprites in the section of a layer, in the order in which they are written. -/
def sectionSprites (b : Board) (layer : Layer) : List Sprite :=
  ((b.sectionBundles layer).flatMap b.bundleSprites).filterMap fun i => b.sprites[i]?

def sectionLines (b : Board) (layer : Layer) : List String :=
  (b.sectionSprites layer).flatMap (Sprite.allLines b.depths)

def closingLine : String := "//Storyboard Sound Samples"

/-- The sections as blocks of lines; the line after the last one opens a block of its own. -/
def sections (b : Board) : List (String × List String) :=
  Layer.all.map (fun layer => (layer.heading, b.sectionLines layer)) ++ [(closingLine, [])]

theorem spriteText_eq (b : Board) (i : Nat) :
    b.spriteText i = joinLines (b.sprites[i]?.toList.flatMap (Sprite.allLines b.depths)) := by
  unfold spriteText
  cases b.sprites[i]? with
  | none => rfl
  | some s => simp [Sprite.text, joinLines]

theorem bundleText_eq (b : Board) (bundle : Nat) :
    b.bundleText bundle =
      joinLines (((b.bundleSprites bundle).filterMap fun i => b.sprites[i]?).flatMap
        (Sprite.allLines b.depths)) := by
  rw [List.filterMap_eq_flatMap_toList, List.flatMap_assoc, joinLines_flatMap]
  simp only [bundleText, ← spriteText_eq]

theorem sectionText_eq (b : Board) (layer : Layer) :
    b.sectionText layer = joinLines (layer.heading :: b.sectionLines layer) := by
  have hbundles : String.join ((b.sectionBundles layer).map b.bundleText) =
      joinLines (b.sectionLines layer) := by
    rw [sectionLines, sectionSprites, List.filterMap_flatMap, List.flatMap_assoc,
      joinLines_flatMap]
    simp only [← bundleText_eq]
  have hlines : joinLines (layer.heading :: b.sectionLines layer) =
      joinLines [layer.heading] ++ joinLines (b.sectionLines layer) :=
    joinLines_append [layer.heading] (b.sectionLines layer)
  rw [sectionText, hbundles, hlines, Layer.header_eq]
  simp [joinLines]

theorem sectionText_eq_join_sprites (b : Board) (layer : Layer) :
    b.sectionText layer =
      layer.header ++ String.join ((b.sectionSprites layer).map (Sprite.text b.depths)) := by
  have hlines : joinLines (b.sectionLines layer) =
      String.join ((b.sectionSprites layer).map (Sprite.text b.depths)) :=
    joinLines_flatMap _ _
  have hheading : joinLines [layer.heading] = layer.header := by
    rw [Layer.header_eq]
    simp [joinLines]
  rw [sectionText_eq, ← List.singleton_append, joinLines_append, hlines, hheading]

theorem text_eq (b : Board) :
    b.text = openingText ++ joinLines (joinBlocks b.sections) := by
  have hsections : joinLines (Layer.all.flatMap fun layer =>
      layer.heading :: b.sectionLines layer) = String.join (Layer.all.map b.sectionText) := by
    rw [joinLines_flatMap]
    simp only [← sectionText_eq]
  have hjoin : joinBlocks b.sections =
      (Layer.all.flatMap fun layer => layer.heading :: b.sectionLines layer) ++ [closingLine] := by
    simp [joinBlocks, sections, List.flatMap_append, List.flatMap_map]
  rw [hjoin, joinLines_append, hsections, text, String.append_assoc]
  rfl

/-! ## Cutting a storyboard -/

section Cutting

variable {b b' : Board}

theorem mem_of_mem_sectionSprites {layer : Layer} {s : Sprite} (h : s ∈ b.sectionSprites layer) :
    s ∈ b.sprites := by
  obtain ⟨i, -, hi⟩ := List.mem_filterMap.mp h
  exact Array.mem_of_getElem? hi

theorem areBlocks_sections (b : Board) : AreBlocks (opensWith '/') b.sections := by
  intro block hblock
  rcases List.mem_append.mp hblock with hblock | hblock
  · obtain ⟨layer, -, rfl⟩ := List.mem_map.mp hblock
    refine ⟨layer.opensWith_slash_heading, ?_⟩
    intro line hline
    obtain ⟨s, -, hs⟩ := List.mem_flatMap.mp hline
    exact Sprite.opensWith_slash_of_mem hs
  · rw [List.mem_singleton.mp hblock]
    refine ⟨by simp [opensWith, closingLine], ?_⟩
    intro line hline
    cases hline

theorem newline_not_mem_sections (hpaths : ∀ s ∈ b.sprites, '\n' ∉ s.path.toList) :
    ∀ line ∈ joinBlocks b.sections, '\n' ∉ line.toList := by
  intro line hline
  obtain ⟨block, hblock, hline⟩ := List.mem_flatMap.mp hline
  rcases List.mem_append.mp hblock with hblock | hblock
  · obtain ⟨layer, -, rfl⟩ := List.mem_map.mp hblock
    rcases List.mem_cons.mp hline with rfl | hline
    · exact layer.newline_not_mem_heading
    · obtain ⟨s, hs, hline⟩ := List.mem_flatMap.mp hline
      exact Sprite.newline_not_mem_of_mem (hpaths s (mem_of_mem_sectionSprites hs)) hline
  · rw [List.mem_singleton.mp hblock] at hline
    rw [List.mem_singleton.mp hline]
    simp [closingLine]

theorem sectionLines_eq_of_text_eq (hpaths : ∀ s ∈ b.sprites, '\n' ∉ s.path.toList)
    (hpaths' : ∀ s ∈ b'.sprites, '\n' ∉ s.path.toList) (h : b.text = b'.text) (layer : Layer) :
    b.sectionLines layer = b'.sectionLines layer := by
  have hjoined : joinLines (joinBlocks b.sections) = joinLines (joinBlocks b'.sections) := by
    have hchars := congrArg String.toList h
    rw [text_eq, text_eq, String.toList_append, String.toList_append] at hchars
    exact String.toList_inj.mp (List.append_cancel_left hchars)
  have hlines := joinLines_injective (newline_not_mem_sections hpaths)
    (newline_not_mem_sections hpaths') hjoined
  have hsections := joinBlocks_injective (areBlocks_sections b) (areBlocks_sections b') hlines
  have hlayers := List.append_cancel_right hsections
  exact (Prod.mk.inj (List.map_inj_left.mp hlayers layer layer.mem_all)).2

def spriteBlocks (b : Board) (layer : Layer) : List (String × List String) :=
  (b.sectionSprites layer).map fun s => (s.header, s.commandLines b.depths)

theorem joinBlocks_spriteBlocks (b : Board) (layer : Layer) :
    joinBlocks (b.spriteBlocks layer) = b.sectionLines layer := by
  rw [joinBlocks, spriteBlocks, List.flatMap_map]
  rfl

theorem areBlocks_spriteBlocks (b : Board) (layer : Layer) :
    AreBlocks (fun line => !opensWith ' ' line) (b.spriteBlocks layer) := by
  intro block hblock
  obtain ⟨s, -, rfl⟩ := List.mem_map.mp hblock
  constructor
  · simp [s.opensWith_blank_header]
  · intro line hline
    simp [Sprite.opensWith_blank_of_mem hline]

theorem spriteBlocks_eq_of_text_eq (hpaths : ∀ s ∈ b.sprites, '\n' ∉ s.path.toList)
    (hpaths' : ∀ s ∈ b'.sprites, '\n' ∉ s.path.toList) (h : b.text = b'.text) (layer : Layer) :
    b.spriteBlocks layer = b'.spriteBlocks layer := by
  apply joinBlocks_injective (areBlocks_spriteBlocks b layer) (areBlocks_spriteBlocks b' layer)
  rw [joinBlocks_spriteBlocks, joinBlocks_spriteBlocks]
  exact sectionLines_eq_of_text_eq hpaths hpaths' h layer

end Cutting

/-! ## Main result -/

/--
Storyboards with one text, whose paths hold no newline, have in every section as many sprites, which
are written in the same way one by one.
-/
theorem sections_shownAlike_of_text_eq (b b' : Board)
    (hpaths : ∀ s ∈ b.sprites, '\n' ∉ s.path.toList)
    (hpaths' : ∀ s ∈ b'.sprites, '\n' ∉ s.path.toList) (h : b.text = b'.text) (layer : Layer) :
    List.Forall₂ (Sprite.ShownAlike b.depths b'.depths) (b.sectionSprites layer)
      (b'.sectionSprites layer) := by
  have hblocks := spriteBlocks_eq_of_text_eq hpaths hpaths' h layer
  unfold spriteBlocks at hblocks
  rw [← List.forall₂_eq_eq_eq, List.forall₂_map_left_iff, List.forall₂_map_right_iff] at hblocks
  refine hblocks.imp fun s s' hs => ?_
  obtain ⟨hheader, hlines⟩ := Prod.mk.inj hs
  exact Sprite.shownAlike_of_eq hheader hlines

/-- An image whose path has quotes and commas of its own. -/
def quotedPath (x y : Number) : Figure :=
  { path := "a.png\",1,2", origin := .topLeft, position := ⟨x, y⟩, animation := none }

/-- An animation whose path looks like a header. -/
def headerPath : Figure :=
  { path := "Sprite,Pass,Centre,\"b.png\",0,0"
    origin := .centre
    position := Figure.defaultPosition
    animation := some
      { frameCount := 2, frameDelay := 50, loopType := .once, frameCount_pos := by decide } }

/-- Both figures in one bundle of the overlay; the image fades in. -/
def oneBundle : List Step :=
  [.sprite (quotedPath 1 2), .sprite headerPath, .bundle .overlay, .place 0, .enlist 0 0,
    .enlist 0 1, .issue 0 ⟨⟨0, .linear, .scalar .fade (.change 1000 0 1)⟩, 0⟩]

/-- Each figure in a bundle of its own, with numbers that are no integers. -/
def twoBundles : List Step :=
  [.bundle .overlay, .bundle .overlay, .place 1, .place 0, .sprite headerPath,
    .sprite (quotedPath (.ofDouble 1) (.ofDouble 2)), .enlist 0 0, .enlist 1 1,
    .issue 1 ⟨⟨0, .linear, .scalar .fade (.change 1000 (.ofDouble 0) 1)⟩, 0⟩]

theorem sections_of_quotedPaths :
    (∀ s ∈ (empty.run oneBundle).sprites, '\n' ∉ s.path.toList) ∧
      (∀ s ∈ (empty.run twoBundles).sprites, '\n' ∉ s.path.toList) ∧
      (empty.run oneBundle).text = (empty.run twoBundles).text ∧
      ((empty.run oneBundle).sectionSprites .overlay).length = 2 ∧
      List.Forall₂
        (Sprite.ShownAlike (empty.run oneBundle).depths (empty.run twoBundles).depths)
        ((empty.run oneBundle).sectionSprites .overlay)
        ((empty.run twoBundles).sectionSprites .overlay) := by
  have hpaths : ∀ s ∈ (empty.run oneBundle).sprites, '\n' ∉ s.path.toList := by decide +kernel
  have hpaths' : ∀ s ∈ (empty.run twoBundles).sprites, '\n' ∉ s.path.toList := by decide +kernel
  have htext : (empty.run oneBundle).text = (empty.run twoBundles).text := by decide +kernel
  exact ⟨hpaths, hpaths', htext, rfl,
    sections_shownAlike_of_text_eq _ _ hpaths hpaths' htext .overlay⟩

end Board
end Storyboard
