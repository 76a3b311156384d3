/-!
Sets of characters given by closed ranges of code points.
-/

namespace LanguageClient.Text

/-- The code points from `first` to `last`, both included. -/
structure CodeRange where
  first : Nat
  last : Nat
deriving DecidableEq, Repr

def CodeRange.contains (range : CodeRange) (code : Nat) : Bool :=
  range.first ≤ code && code ≤ range.last

/-- Whether one of the ranges has a character. -/
def inRanges (ranges : List CodeRange) (char : Char) : Bool :=
  ranges.any (·.contains char.toNat)

end LanguageClient.Text
