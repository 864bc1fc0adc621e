/-!
# Ranges of characters

A property of characters is given as a list of closed ranges of code points in ascending order.
-/
namespace KeyGadget.Text

/-- The first and the last code point of a run of characters. -/
abbrev CharRange := Nat × Nat

def inRanges (ranges : List CharRange) (c : Char) : Bool :=
  ranges.any fun range => range.1 ≤ c.toNat && c.toNat ≤ range.2

end KeyGadget.Text
