import IncrementalLR.Text.Point

/-!
# Lengths

A length is a byte count together with the extent it covers.
-/

namespace IncrementalLR

/-- The size of a piece of text: its bytes and the extent it spans. -/
structure Length where
  bytes : Nat
  extent : Point
deriving Repr, DecidableEq, Inhabited, BEq

namespace Length

/-- The empty length. -/
def zero : Length := ⟨0, Point.zero⟩

/-- The length of a text. -/
def of (text : List UInt8) : Length := ⟨text.length, Point.zero.advance text⟩

/-- The length of two texts read one after the other. -/
def add (a b : Length) : Length := ⟨a.bytes + b.bytes, a.extent.add b.extent⟩

/-- The length from the end of `b` to the end of `a`; bytes stop at zero. -/
def sub (a b : Length) : Length := ⟨a.bytes - b.bytes, a.extent.sub b.extent⟩

/-- Subtraction that gives the empty length unless `a` has more bytes than `b`. -/
def saturatingSub (a b : Length) : Length := if a.bytes > b.bytes then a.sub b else zero

/-- The shorter of two lengths by bytes; on a tie, the second. -/
def min (a b : Length) : Length := if a.bytes < b.bytes then a else b

/-- The longer of two lengths by bytes; on a tie, the first. -/
def max (a b : Length) : Length := if a.bytes < b.bytes then b else a

/-- Whether the length covers no bytes. -/
def isZero (a : Length) : Bool := a.bytes == 0

/-- Step back over `b` from `a`. A `b` that spans lines leaves the start of a row, so
    adding `b` again gives the same end as before. -/
def retreat (a b : Length) : Length :=
  let extent :=
    if b.extent.row > 0 then ⟨a.extent.row - b.extent.row, 0⟩
    else ⟨a.extent.row, a.extent.column - b.extent.column⟩
  ⟨a.bytes - b.bytes, extent⟩

@[simp] theorem bytes_add (a b : Length) : (a.add b).bytes = a.bytes + b.bytes := rfl

@[simp] theorem bytes_of (text : List UInt8) : (of text).bytes = text.length := rfl

end Length

end IncrementalLR
