/-! Sets of characters given as sorted, disjoint ranges of code points, ends included. -/

namespace MessageExchange.Text

def inRanges (ranges : Array (Nat × Nat)) (c : Char) : Bool :=
  ranges.any fun r => r.1 ≤ c.toNat && c.toNat ≤ r.2

end MessageExchange.Text
