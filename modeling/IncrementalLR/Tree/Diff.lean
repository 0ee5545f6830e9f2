import IncrementalLR.Tree.Edit

/-!
# Changed ranges

After a reparse, the ranges of text whose visible structure differs between the edited old
tree and the new one.
-/

namespace IncrementalLR

/-- A range of text, in bytes and in points. -/
structure TextRange where
  startByte : Nat
  endByte : Nat
  startPoint : Point
  endPoint : Point
deriving DecidableEq, Repr

/-- The range from one length to another. -/
def TextRange.ofLengths (start stop : Length) : TextRange :=
  ⟨start.bytes, stop.bytes, start.extent, stop.extent⟩

/-- Appends the range from `start` to `stop`: when it starts within the last range, the
    last range is made to end at `stop` instead; otherwise it is added unless it is
    empty. -/
def addRange (ranges : Array TextRange) (start stop : Length) : Array TextRange :=
  match ranges.back? with
  | some last =>
    if start.bytes ≤ last.endByte then
      ranges.pop.push { last with endByte := stop.bytes, endPoint := stop.extent }
    else if start.bytes < stop.bytes then ranges.push (TextRange.ofLengths start stop)
    else ranges
  | none => if start.bytes < stop.bytes then ranges.push (TextRange.ofLengths start stop) else ranges

/-- A subtree on a walk's path, where its padding starts, its index among its parent's
    children, its later siblings, and the innermost visible subtree on the path down to
    it, itself included, with where that one's padding starts. -/
structure DiffEntry where
  tree : Subtree
  position : Length
  childIndex : Nat
  later : List Subtree
  nearestVisible : Option (Subtree × Nat)

/-- The entry for `tree` pushed on the path `below`. -/
def DiffEntry.onto (tree : Subtree) (position : Length) (childIndex : Nat)
    (later : List Subtree) (below : List DiffEntry) : DiffEntry :=
  ⟨tree, position, childIndex, later,
    if tree.isVisible then some (tree, position.bytes)
    else below.head?.bind (·.nearestVisible)⟩

/-- A walk through a tree for comparison: its path, top first; how many visible
    subtrees it is inside; whether it stands in the padding of the top subtree; and the
    last token a scanner produced before it. -/
structure DiffWalk where
  stack : List DiffEntry
  visibleDepth : Nat
  inPadding : Bool
  lastExternal : Option Subtree

/-- How two walks' current visible subtrees compare. -/
inductive Comparison where
  | differs
  | mayDiffer
  | matches
deriving DecidableEq, Repr

namespace DiffWalk

/-- A walk at the root of a tree. -/
def new (t : Subtree) : DiffWalk := ⟨[DiffEntry.onto t Length.zero 0 [] []], 1, false, none⟩

/-- Whether the walk has left the tree. -/
def done (w : DiffWalk) : Bool := w.stack.isEmpty

/-- Where the walk's current piece of text starts: the padding or the content. -/
def startPosition (w : DiffWalk) : Length :=
  match w.stack with
  | [] => Length.zero
  | e :: _ => if w.inPadding then e.position else e.position.add e.tree.padding

/-- Where the walk's current piece of text ends. -/
def endPosition (w : DiffWalk) : Length :=
  match w.stack with
  | [] => Length.zero
  | e :: _ =>
    let afterPadding := e.position.add e.tree.padding
    if w.inPadding then afterPadding else afterPadding.add e.tree.size

/-- Whether the top subtree is visible. -/
def topVisible (w : DiffWalk) : Bool :=
  match w.stack with
  | e :: _ => e.tree.isVisible
  | [] => false

/-- The innermost visible subtree the walk is inside, with where its padding starts;
    in padding, the top subtree does not count. -/
def visibleState (w : DiffWalk) : Option (Subtree × Nat) :=
  let entries := if w.inPadding then w.stack.tail else w.stack
  entries.head?.bind (·.nearestVisible)

/-- Remembers the last scanner token of a subtree the walk passes. -/
def note (w : DiffWalk) (t : Subtree) : DiffWalk :=
  match t.lastExternalToken with
  | some token => { w with lastExternal := some token }
  | none => w

/-- Climbs out of the top subtree. -/
def ascend (w : DiffWalk) : DiffWalk :=
  match w.stack with
  | [] => w
  | e :: rest =>
    let depth := if e.tree.isVisible && !w.inPadding then w.visibleDepth - 1 else w.visibleDepth
    { w with
      stack := rest
      visibleDepth := depth
      inPadding := if e.childIndex > 0 then false else w.inPadding }

end DiffWalk

mutual
/-- Descends from subtree `t`, whose padding starts at `position` and whose entry is on
    top of the walk, to the first child ending after `goal`, through hidden children;
    whether a visible child was reached. The walk passes the scanner tokens of the
    children it steps over. -/
def diffDescendInto (goal : Nat) (w : DiffWalk) : Subtree → Length → Bool × DiffWalk
  | .mk _ cs, position => diffDescendAmong goal w position 0 cs

/-- Descends into the first of the subtrees `cs` that ends after `goal`, their padding
    starting at `position`, numbered from `index`. -/
def diffDescendAmong (goal : Nat) (w : DiffWalk) (position : Length) (index : Nat) :
    List Subtree → Bool × DiffWalk
  | [] => (false, w)
  | c :: rest =>
    let left := position.add c.padding
    let right := left.add c.size
    if right.bytes > goal then
      let w := { w with stack := DiffEntry.onto c position index rest w.stack :: w.stack }
      if c.isVisible then
        (true, if left.bytes > goal then { w with inPadding := true }
          else { w with visibleDepth := w.visibleDepth + 1 })
      else diffDescendInto goal w c position
    else diffDescendAmong goal (w.note c) right (index + 1) rest
end

namespace DiffWalk

/-- Descends to the first child ending after `goal`; never from padding. -/
def descend (w : DiffWalk) (goal : Nat) : Bool × DiffWalk :=
  if w.inPadding then (false, w)
  else
    match w.stack with
    | e :: _ => diffDescendInto goal w e.tree e.position
    | [] => (false, w)

/-- Moves to the next sibling of the nearest subtree on the path that has one, at most
    `fuel` levels up. -/
def climb : Nat → DiffWalk → DiffWalk
  | 0, w => w
  | fuel + 1, w =>
    let w := if w.topVisible then { w with visibleDepth := w.visibleDepth - 1 } else w
    match w.stack with
    | [] => w
    | e :: rest =>
      let w := { w with stack := rest }
      match rest with
      | [] => w
      | _ :: _ =>
        let w := w.note e.tree
        match e.later with
        | next :: later =>
          let w := { w with
            stack :=
              DiffEntry.onto next (e.position.add e.tree.totalSize) (e.childIndex + 1) later rest ::
                rest }
          if next.isVisible then
            if next.padding.bytes > 0 then { w with inPadding := true }
            else { w with visibleDepth := w.visibleDepth + 1 }
          else (w.descend 0).2
        | [] => climb fuel w

/-- Moves past the current piece of text: out of padding into its subtree, or on to
    the next subtree; `bound` exceeds the walk's depth. -/
def advance (bound : Nat) (w : DiffWalk) : DiffWalk :=
  if w.inPadding then
    let w := { w with inPadding := false }
    if w.topVisible then { w with visibleDepth := w.visibleDepth + 1 } else (w.descend 0).2
  else climb bound w

/-- Advances while the current piece ends at or before `goal`, at most `fuel` times. -/
def advanceTo (goal : Nat) (fuel : Nat) (w : DiffWalk) : DiffWalk :=
  let rec go : Nat → DiffWalk → DiffWalk
    | 0, w => w
    | k + 1, w => if !w.done && w.endPosition.bytes ≤ goal then go k (w.advance fuel) else w
  go fuel w

/-- Climbs out of subtrees until the walk is inside no more visible subtrees than
    `depth`, at most `fuel` times. -/
def ascendTo (depth : Nat) : Nat → DiffWalk → DiffWalk
  | 0, w => w
  | fuel + 1, w => if w.visibleDepth > depth then ascendTo depth fuel w.ascend else w

end DiffWalk

/-- Compares the visible subtrees two walks are inside: different kinds differ; the
    same node at the same place without changes matches; a moved, resized, erroneous
    or changed one, or one after a different scanner state, may differ. -/
def compareWalks (old new : DiffWalk) : Comparison :=
  match old.visibleState, new.visibleState with
  | none, none => .matches
  | some (a, aStart), some (b, bStart) =>
    if a.symbol != b.symbol then .differs
    else if aStart == bStart && a.id == b.id && !a.hasChanges then .matches
    else
      let scannerDiffers :=
        (old.lastExternal.bind (·.scannerState)) != (new.lastExternal.bind (·.scannerState))
      if aStart != bStart || a.isError || a.size.bytes != b.size.bytes ||
          (a.parseState == errorState) != (b.parseState == errorState) ||
          a.errorCost != b.errorCost || a.hasExternalTokens != b.hasExternalTokens ||
          a.hasChanges || (a.hasExternalTokens && scannerDiffers) then .mayDiffer
      else .matches
  | _, _ => .differs

/-- The state of a comparison: both walks, the position reached, the end of the piece
    last compared, and the ranges found. -/
structure DiffState where
  old : DiffWalk
  new : DiffWalk
  position : Length
  next : Length
  ranges : Array TextRange

/-- One comparison step: compare, descend where the trees may differ, advance both walks
    past the piece compared, bring them to the same visible depth, and record the
    piece if it changed. -/
def DiffState.step (s : DiffState) (budget : Nat) : DiffState :=
  let (changed, next, old, new) : Bool × Length × DiffWalk × DiffWalk :=
    match compareWalks s.old s.new with
    | .matches => (false, s.old.endPosition, s.old, s.new)
    | .mayDiffer =>
      match s.old.descend s.position.bytes with
      | (true, old) =>
        match s.new.descend s.position.bytes with
        | (true, new) => (false, s.next, old, new)
        | (false, new) => (true, old.endPosition, old, new)
      | (false, old) =>
        match s.new.descend s.position.bytes with
        | (true, new) => (true, new.endPosition, old, new)
        | (false, new) => (false, old.endPosition.min new.endPosition, old, new)
    | .differs => (true, s.old.endPosition.min s.new.endPosition, s.old, s.new)
  let old := old.advanceTo next.bytes budget
  let new := new.advanceTo next.bytes budget
  let old := old.ascendTo new.visibleDepth budget
  let new := new.ascendTo old.visibleDepth budget
  { old, new, next, position := next
    ranges := if changed then addRange s.ranges s.position next else s.ranges }

/-- Compares until either walk leaves its tree, at most `fuel` steps. -/
def DiffState.run (budget : Nat) : Nat → DiffState → DiffState
  | 0, s => s
  | fuel + 1, s =>
    let s := s.step budget
    if s.old.done || s.new.done then s else DiffState.run budget fuel s

/-- The ranges of text whose visible structure differs between `old` and `new`, sorted,
    without overlaps or empty ranges. Text added or removed at the end counts as
    changed. -/
def changedRanges (old new : Subtree) : List TextRange :=
  let budget := 2 * (old.nodeCount + new.nodeCount) + 4
  let oldWalk := DiffWalk.new old
  let newWalk := DiffWalk.new new
  let position := oldWalk.startPosition
  let next := newWalk.startPosition
  let (ranges, position) :=
    if position.bytes < next.bytes then (addRange #[] position next, next)
    else if position.bytes > next.bytes then (addRange #[] next position, position)
    else (#[], position)
  let s := DiffState.run budget (budget * budget) ⟨oldWalk, newWalk, position, next, ranges⟩
  let oldSize := old.totalSize
  let newSize := new.totalSize
  let ranges :=
    if oldSize.bytes < newSize.bytes then addRange s.ranges oldSize newSize
    else if newSize.bytes < oldSize.bytes then addRange s.ranges newSize oldSize
    else s.ranges
  ranges.toList

end IncrementalLR
