/-!
# Sets of code points

A `CodeSet` is a set of natural numbers (code points or bytes) written as inclusive ranges
that are sorted, disjoint and never adjacent.
-/

namespace IncrementalLR

/-- A set of code points as sorted, disjoint, non-adjacent inclusive ranges. -/
structure CodeSet where
  ranges : List (Nat × Nat)
deriving Repr, DecidableEq, Inhabited, BEq

namespace CodeSet

/-- The empty set. -/
def empty : CodeSet := ⟨[]⟩

/-- Merges a list of ranges sorted by start into the normal form. -/
def mergeSorted : List (Nat × Nat) → List (Nat × Nat)
  | [] => []
  | [r] => [r]
  | (a, b) :: (c, d) :: rest =>
    if c ≤ b + 1 then mergeSorted ((a, Nat.max b d) :: rest)
    else (a, b) :: mergeSorted ((c, d) :: rest)
termination_by rs => rs.length

/-- The set covered by any list of ranges; ranges with start after end are dropped. -/
def ofRanges (rs : List (Nat × Nat)) : CodeSet :=
  ⟨mergeSorted ((rs.filter fun r => r.1 ≤ r.2).mergeSort fun x y => x.1 ≤ y.1)⟩

/-- The set of one code point. -/
def single (c : Nat) : CodeSet := ⟨[(c, c)]⟩

/-- The set of code points from `lo` to `hi`. -/
def range (lo hi : Nat) : CodeSet := ofRanges [(lo, hi)]

/-- Whether the set has no member. -/
def isEmpty (s : CodeSet) : Bool := s.ranges.isEmpty

/-- Whether `c` lies in the set. -/
def contains (s : CodeSet) (c : Nat) : Bool := s.ranges.any fun r => r.1 ≤ c && c ≤ r.2

/-- The members of both sets together. -/
def union (s t : CodeSet) : CodeSet := ofRanges (s.ranges ++ t.ranges)

/-- The gaps of a normal range list between `next` and `top`. -/
def gaps (top : Nat) : Nat → List (Nat × Nat) → List (Nat × Nat)
  | next, [] => if next ≤ top then [(next, top)] else []
  | next, (a, b) :: rest =>
    let tail := gaps top (b + 1) rest
    if next < a then (next, a - 1) :: tail else tail

/-- The code points up to `top` that are not in the set. -/
def complement (top : Nat) (s : CodeSet) : CodeSet := ⟨gaps top 0 s.ranges⟩

/-- The common members of two sets, below `top`. -/
def inter (top : Nat) (s t : CodeSet) : CodeSet :=
  complement top ((complement top s).union (complement top t))

/-- The members of `s` that are not in `t`, below `top`. -/
def diff (top : Nat) (s t : CodeSet) : CodeSet := inter top s (complement top t)

/-- The members of exactly one of the two sets, below `top`. -/
def symmDiff (top : Nat) (s t : CodeSet) : CodeSet := diff top (s.union t) (inter top s t)

/-- The smallest member, if any. -/
def least (s : CodeSet) : Option Nat := s.ranges.head?.map (·.1)

/-- The largest member, if any. -/
def greatest (s : CodeSet) : Option Nat := s.ranges.getLast?.map (·.2)

/-- Whether every member is below 128. -/
def isAscii (s : CodeSet) : Bool := s.ranges.all fun r => r.2 < 128

/-- Binary search in an array of sorted disjoint ranges: whether `c` is covered by one
    of the ranges at indices `lo ..< hi`. -/
def searchRanges (table : Array (Nat × Nat)) (c : Nat) (lo hi : Nat) : Bool :=
  if _h : lo < hi then
    let mid := (lo + hi) / 2
    match table[mid]? with
    | none => false
    | some (a, b) =>
      if c < a then searchRanges table c lo mid
      else if b < c then searchRanges table c (mid + 1) hi
      else true
  else false
termination_by hi - lo

end CodeSet

/-- A code point set stored as an array for fast membership tests. -/
structure CodeTable where
  ranges : Array (Nat × Nat)

namespace CodeTable

/-- The table of a set. -/
def ofSet (s : CodeSet) : CodeTable := ⟨s.ranges.toArray⟩

/-- Whether `c` is in the table. -/
def contains (t : CodeTable) (c : Nat) : Bool := CodeSet.searchRanges t.ranges c 0 t.ranges.size

end CodeTable

end IncrementalLR
