/-!
# Sets of code points as sorted ranges

The character classes that listings are read with (word characters, decimal digits,
printable characters) are unions of a few hundred intervals of code points.  A
`CodeRanges` holds them as closed intervals, sorted and disjoint, and answers membership by
binary search.

## Main definitions

* `CodeRanges` — closed intervals `(lo, hi)` of code points.
* `CodeRanges.find?` — the interval holding a code point, by binary search.
* `CodeRanges.contains` — membership.
-/

namespace LuaListing

/-- A set of code points given by closed intervals `(lo, hi)`, sorted and disjoint. -/
structure CodeRanges where
  /-- The intervals, in increasing order. -/
  bounds : Array (Nat × Nat)

namespace CodeRanges

/-- Binary search among the intervals with index in `[lo, hi)` for the one holding `n`. -/
def search (bs : Array (Nat × Nat)) (n lo hi : Nat) : Option (Nat × Nat) :=
  if lo < hi then
    let mid := (lo + hi) / 2
    let r := bs.getD mid (0, 0)
    if n < r.1 then search bs n lo mid
    else if r.2 < n then search bs n (mid + 1) hi
    else some r
  else none
  termination_by hi - lo

/-- The interval that holds the code point, if any. -/
def find? (t : CodeRanges) (n : Nat) : Option (Nat × Nat) := search t.bounds n 0 t.bounds.size

/-- Whether the code point lies in one of the intervals. -/
def contains (t : CodeRanges) (n : Nat) : Bool := (t.find? n).isSome

end CodeRanges

end LuaListing
