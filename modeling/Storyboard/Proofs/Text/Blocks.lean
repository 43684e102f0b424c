import Mathlib

/-!
# Blocks of lines

A list of blocks, each a head and the items below it, can be written one block after the other.  It
can be read back as long as no item below a head could be a head itself, however many blocks there
are and however long they are.
-/

namespace Storyboard
namespace Text

variable {α : Type}

def joinBlocks (blocks : List (α × List α)) : List α :=
  blocks.flatMap fun block => block.1 :: block.2

/-- Heads are told apart from the items below them. -/
def AreBlocks (isHead : α → Bool) (blocks : List (α × List α)) : Prop :=
  ∀ block ∈ blocks, isHead block.1 = true ∧ ∀ item ∈ block.2, isHead item = false

/-- The items in front of the first head, and the blocks from there on. -/
def readBlocks (isHead : α → Bool) : List α → List α × List (α × List α)
  | [] => ([], [])
  | item :: rest =>
      let (front, blocks) := readBlocks isHead rest
      if isHead item then ([], (item, front) :: blocks) else (item :: front, blocks)

theorem readBlocks_append {isHead : α → Bool} {front : List α}
    (hfront : ∀ item ∈ front, isHead item = false) (rest : List α) :
    readBlocks isHead (front ++ rest) =
      (front ++ (readBlocks isHead rest).1, (readBlocks isHead rest).2) := by
  induction front with
  | nil => rfl
  | cons item later ih =>
      have hitem : isHead item = false := hfront item List.mem_cons_self
      have hlater := ih fun other hother => hfront other (List.mem_cons_of_mem item hother)
      simp [readBlocks, hlater, hitem]

theorem readBlocks_joinBlocks {isHead : α → Bool} {blocks : List (α × List α)}
    (h : AreBlocks isHead blocks) : readBlocks isHead (joinBlocks blocks) = ([], blocks) := by
  induction blocks with
  | nil => rfl
  | cons block rest ih =>
      obtain ⟨hhead, hbody⟩ := h block List.mem_cons_self
      have hrest := ih fun other hother => h other (List.mem_cons_of_mem block hother)
      have hjoin : joinBlocks (block :: rest) = block.1 :: (block.2 ++ joinBlocks rest) := rfl
      rw [hjoin, readBlocks, readBlocks_append hbody, hrest, List.append_nil]
      simp [hhead]

theorem joinBlocks_injective {isHead : α → Bool} {blocks others : List (α × List α)}
    (hblocks : AreBlocks isHead blocks) (hothers : AreBlocks isHead others)
    (h : joinBlocks blocks = joinBlocks others) : blocks = others := by
  have hread : readBlocks isHead (joinBlocks blocks) = readBlocks isHead (joinBlocks others) := by
    rw [h]
  rw [readBlocks_joinBlocks hblocks, readBlocks_joinBlocks hothers] at hread
  exact (Prod.mk.inj hread).2

end Text
end Storyboard
