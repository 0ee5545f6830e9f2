/-!
# Points

A point is a row and a column in a text.
-/

namespace IncrementalLR

/-- A position in a text: the row and the byte column within that row. -/
structure Point where
  row : Nat
  column : Nat
deriving Repr, DecidableEq, Inhabited, BEq

namespace Point

/-- The start of a text. -/
def zero : Point := ⟨0, 0⟩

/-- The point reached after reading a text of extent `q` from `p`: a text that spans
    lines lands in its own last column. -/
def add (p q : Point) : Point :=
  if q.row > 0 then ⟨p.row + q.row, q.column⟩ else ⟨p.row, p.column + q.column⟩

/-- The extent from `q` to `p`. When both lie on one row the column difference stops at
    zero; when `p` lies on a later row its own column is kept. -/
def sub (p q : Point) : Point :=
  if p.row > q.row then ⟨p.row - q.row, p.column⟩ else ⟨0, p.column - q.column⟩

/-- One byte of text moves to the next row on a line feed, else one column on. -/
def advanceByte (p : Point) (b : UInt8) : Point :=
  if b = 10 then ⟨p.row + 1, 0⟩ else ⟨p.row, p.column + 1⟩

/-- The point reached from `p` by reading `bytes`. -/
def advance (p : Point) (bytes : List UInt8) : Point :=
  bytes.foldl advanceByte p

/-- Points are ordered by row, then by column. -/
def compareLex (p q : Point) : Ordering :=
  (compare p.row q.row).then (compare p.column q.column)

instance : Ord Point := ⟨compareLex⟩

instance : LT Point := ⟨fun p q => compareLex p q = .lt⟩

instance : LE Point := ⟨fun p q => compareLex p q ≠ .gt⟩

instance (p q : Point) : Decidable (p < q) :=
  inferInstanceAs (Decidable (compareLex p q = .lt))

instance (p q : Point) : Decidable (p ≤ q) :=
  inferInstanceAs (Decidable (compareLex p q ≠ .gt))

/-- The larger of two points in the row-then-column order. -/
def max (p q : Point) : Point := if p ≤ q then q else p

/-- The smaller of two points in the row-then-column order. -/
def min (p q : Point) : Point := if p ≤ q then p else q

/-- The text form `(row, column)`. -/
def render (p : Point) : String :=
  "(" ++ toString p.row ++ ", " ++ toString p.column ++ ")"

@[simp] theorem advance_nil (p : Point) : p.advance [] = p := rfl

@[simp] theorem advance_cons (p : Point) (b : UInt8) (bs : List UInt8) :
    p.advance (b :: bs) = (p.advanceByte b).advance bs := rfl

theorem advance_append (p : Point) (a b : List UInt8) :
    p.advance (a ++ b) = (p.advance a).advance b := by
  simp [advance, List.foldl_append]

end Point

end IncrementalLR
