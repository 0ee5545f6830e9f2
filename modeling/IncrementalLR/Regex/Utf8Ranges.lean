import IncrementalLR.Text.Utf8

/-!
# UTF-8 sequences of code point ranges

`utf8Sequences lo hi` splits the scalar values from `lo` to `hi` into sequences of byte
ranges: a text matches one of the sequences exactly when it is the UTF-8 encoding of a
scalar value in the range.
-/

namespace IncrementalLR.Regex

/-- The largest scalar value that takes `width` bytes. -/
def widthLimit (width : Nat) : Nat :=
  if width = 1 then 0x7F else if width = 2 then 0x7FF else if width = 3 then 0xFFFF else 0x10FFFF

/-- The UTF-8 bytes of a scalar value. -/
def encodeScalar (c : Nat) : List Nat := (Utf8.encodeChar (Char.ofNat c)).map UInt8.toNat

/-- The first width in `1, 2, 3` whose limit falls inside `lo .. hi`, strictly below
    `hi`. -/
def widthSplit (lo hi : Nat) : Option Nat :=
  [1, 2, 3].find? fun w => lo ≤ widthLimit w ∧ widthLimit w < hi

/-- The first block size `64 ^ i` for `i` in `1, 2, 3` at which `lo` and `hi` lie in
    different blocks and one of them is not aligned to the block; the answer is the
    split point and whether it cuts off the start. -/
def blockSplit (lo hi : Nat) : Option (Nat × Nat) :=
  let rec go : List Nat → Option (Nat × Nat)
    | [] => none
    | i :: rest =>
      let size := 64 ^ i
      if lo / size ≠ hi / size then
        if lo % size ≠ 0 then some (lo - lo % size + size - 1, 0)
        else if hi % size ≠ size - 1 then some (hi - hi % size - 1, 1)
        else go rest
      else go rest
  go [1, 2, 3]

/-- Works through a stack of ranges, emitting sequences in ascending order. -/
def sequencesLoop : Nat → List (Nat × Nat) → List (List (Nat × Nat)) → List (List (Nat × Nat))
  | 0, _, out => out.reverse
  | _, [], out => out.reverse
  | fuel + 1, (lo, hi) :: rest, out =>
    if lo < 0xE000 ∧ hi > 0xD7FF then
      sequencesLoop fuel ((lo, 0xD7FF) :: (0xE000, hi) :: rest) out
    else if lo > hi then sequencesLoop fuel rest out
    else
      match widthSplit lo hi with
      | some w => sequencesLoop fuel ((lo, widthLimit w) :: (widthLimit w + 1, hi) :: rest) out
      | none =>
        if hi ≤ 0x7F then sequencesLoop fuel rest ([(lo, hi)] :: out)
        else
          match blockSplit lo hi with
          | some (cut, _) => sequencesLoop fuel ((lo, cut) :: (cut + 1, hi) :: rest) out
          | none =>
            sequencesLoop fuel rest ((List.zip (encodeScalar lo) (encodeScalar hi)) :: out)

/-- The byte range sequences that encode the scalar values from `lo` to `hi`. -/
def utf8Sequences (lo hi : Nat) : List (List (Nat × Nat)) :=
  sequencesLoop 4096 [(lo, hi)] []

end IncrementalLR.Regex
