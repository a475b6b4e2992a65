/-
  LintServer.Text.Ranges — sets of code points.

  A set is a table of closed ranges in increasing order.
-/

namespace LintServer.Text

/-- Whether `n` lies in one of the ranges `lo` to `hi`, found by halving. -/
def inRangesBetween (table : Array (Nat × Nat)) (n : Nat) : (fuel lo hi : Nat) → Bool
  | 0, _, _ => false
  | fuel + 1, lo, hi =>
    if hi ≤ lo then false
    else
      let mid := (lo + hi) / 2
      match table[mid]? with
      | none => false
      | some (first, last) =>
        if n < first then inRangesBetween table n fuel lo mid
        else if last < n then inRangesBetween table n fuel (mid + 1) hi
        else true

def inRanges (table : Array (Nat × Nat)) (n : Nat) : Bool :=
  inRangesBetween table n 16 0 table.size

end LintServer.Text
