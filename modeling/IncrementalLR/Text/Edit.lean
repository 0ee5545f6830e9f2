import IncrementalLR.Text.Length

/-!
# Edits

An edit replaces one range of a text by new text.
-/

namespace IncrementalLR

/-- A change to a text: bytes `startByte .. oldEndByte` were replaced by text that ends
    at `newEndByte`, with the matching points. -/
structure Edit where
  startByte : Nat
  oldEndByte : Nat
  newEndByte : Nat
  startPoint : Point
  oldEndPoint : Point
  newEndPoint : Point
deriving Repr, DecidableEq, Inhabited

namespace Edit

/-- The edit that replaces `old[start .. oldEnd]` by `replacement`. The end is first
    clamped to the text and the start then to the end, so every edit it builds lies
    inside `old`. -/
def replacing (old : ByteArray) (start oldEnd : Nat) (replacement : ByteArray) : Edit :=
  let oldEnd := min oldEnd old.size
  let start := min start oldEnd
  let startPoint := (Length.of (old.extract 0 start).toList).extent
  let oldEndPoint := startPoint.advance (old.extract start oldEnd).toList
  let newEndPoint := startPoint.advance replacement.toList
  { startByte := start, oldEndByte := oldEnd, newEndByte := start + replacement.size,
    startPoint, oldEndPoint, newEndPoint }

/-- The text that results from applying `replacing old start oldEnd replacement`. -/
def applyReplacing (old : ByteArray) (start oldEnd : Nat) (replacement : ByteArray) :
    ByteArray :=
  let oldEnd := min oldEnd old.size
  let start := min start oldEnd
  old.extract 0 start ++ replacement ++ old.extract oldEnd old.size

end Edit

end IncrementalLR
