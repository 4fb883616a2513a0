/-! Sets of characters, given as ranges of code points. -/
namespace PiecewiseLang.Text

/-- Code points from the first to the second, both included. -/
abbrev Range := Nat × Nat

def inRanges (ranges : List Range) (c : Char) : Bool :=
  ranges.any fun range => range.1 ≤ c.toNat && c.toNat ≤ range.2

end PiecewiseLang.Text
