/-! # Classes of characters given by ranges

Large classes of characters are tables of ranges in ascending order. A character is looked up by
halving the part of the table in which it may be.
-/

namespace SqlppBench.Text

/-- Whether one of the ranges from position `low` up to but without `high` holds `n`: a search by
halving, as the ranges are in ascending order. -/
def inRanges (ranges : Array (Nat × Nat)) (n : Nat) : Nat → Nat → Nat → Bool
  | 0, _, _ => false
  | steps + 1, low, high =>
    if high ≤ low then false
    else
      let middle := (low + high) / 2
      match ranges[middle]? with
      | none => false
      | some (first, last) =>
        if n < first then inRanges ranges n steps low middle
        else if last < n then inRanges ranges n steps (middle + 1) high
        else true

end SqlppBench.Text
