/-
Sets of characters given by ranges of code points.

A character class of a writing system is a few hundred runs of neighbouring code
points.  A class is stored as the array of its runs in increasing order, and membership
is decided by bisection: the half that cannot hold the code point is dropped at every
step, so the search ends when no run is left.
-/

namespace SlideDeck.Text

/-- Whether `n` lies in one of the runs at positions `lo` up to, but not including, `hi`. -/
def inRangesBetween (table : Array (Nat × Nat)) (n lo hi : Nat) : Bool :=
  if lo < hi then
    let mid := (lo + hi) / 2
    let run := table.getD mid (0, 0)
    if n < run.1 then inRangesBetween table n lo mid
    else if n ≤ run.2 then true
    else inRangesBetween table n (mid + 1) hi
  else false
termination_by hi - lo

/-- Whether `n` lies in one of the runs of an increasing table. -/
def inRanges (table : Array (Nat × Nat)) (n : Nat) : Bool :=
  inRangesBetween table n 0 table.size

end SlideDeck.Text
