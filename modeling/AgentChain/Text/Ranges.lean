/-!
# Character classes

A character class is given by closed ranges of character codes.
-/

namespace AgentChain.Text

/-- The code `n` lies in one of the closed ranges. -/
def inRanges (ranges : List (Nat × Nat)) (n : Nat) : Bool :=
  ranges.any fun r => r.1 ≤ n && n ≤ r.2

end AgentChain.Text
