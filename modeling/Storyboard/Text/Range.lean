/-!
# Ranges of code points
-/

namespace Storyboard
namespace Text

/-- The code points from `first` to `last`. -/
structure Range where
  first : Nat
  last : Nat

def inRanges (ranges : List Range) (c : Char) : Bool :=
  ranges.any fun range => range.first ≤ c.toNat && c.toNat ≤ range.last

end Text
end Storyboard
