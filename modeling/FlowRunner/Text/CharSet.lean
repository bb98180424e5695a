/-!
This module contains sets of characters given by an ascending list of code point ranges.
-/

namespace FlowRunner.Text

def inRanges : List (Nat × Nat) → Nat → Bool
  | [], _ => false
  | (first, last) :: rest, c =>
    if c < first then false else c ≤ last || inRanges rest c

end FlowRunner.Text
