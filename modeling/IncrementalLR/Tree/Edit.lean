import IncrementalLR.Tree.Subtree
import IncrementalLR.Text.Edit

/-!
# Editing trees

A tree is edited before it is handed back to the parser with the new text.
-/

namespace IncrementalLR

/-- A parsed tree: its root and the language it was parsed with. -/
structure SyntaxTree where
  root : Subtree
  language : Language

/-- An edit as seen from the start of a subtree's padding. -/
structure LocalEdit where
  start : Length
  oldEnd : Length
  newEnd : Length

namespace Subtree

mutual
/-- Applies an edit given relative to the start of the subtree's padding; `next` is the
    first unused identity. -/
def editLocal : Subtree → LocalEdit → Nat → Subtree × Nat
  | .mk i cs, e, next =>
    let isNoop := e.oldEnd.bytes == e.start.bytes && e.start.bytes == e.newEnd.bytes
    let isInsertion := e.oldEnd.bytes == e.start.bytes
    let total := i.padding.add i.size
    if e.start.bytes > total.bytes + i.lookaheadBytes ||
        (isNoop && e.start.bytes == total.bytes + i.lookaheadBytes) then (.mk i cs, next)
    else
      let (padding, size) :=
        if e.oldEnd.bytes ≤ i.padding.bytes then (e.newEnd.add (i.padding.sub e.oldEnd), i.size)
        else if e.start.bytes < i.padding.bytes then
          (e.newEnd, i.size.saturatingSub (e.oldEnd.sub i.padding))
        else if e.start.bytes < total.bytes || (e.start.bytes == total.bytes && isInsertion) then
          (i.padding, (e.newEnd.sub i.padding).add (i.size.saturatingSub (e.oldEnd.sub i.padding)))
        else (i.padding, i.size)
      let (cs, after) := editChildren i.dependsOnColumn padding isInsertion cs e Length.zero 0 (next + 1)
      (.mk { i with padding, size, hasChanges := true, id := next } cs, after)

/-- Passes an edit on to the children that touch it. `childRight` is where the next
    child's padding starts and `index` its position among the children. -/
def editChildren (invalidateFirstRow : Bool) (padding : Length) (isInsertion : Bool) :
    List Subtree → LocalEdit → Length → Nat → Nat → List Subtree × Nat
  | [], _, _, _, next => ([], next)
  | c :: rest, e, childLeft, index, next =>
    let childSize := c.totalSize
    let childRight := childLeft.add childSize
    if childRight.bytes + c.lookaheadBytes < e.start.bytes then
      let (rest, next) := editChildren invalidateFirstRow padding isInsertion rest e childRight
        (index + 1) next
      (c :: rest, next)
    else if (childLeft.bytes > e.oldEnd.bytes ||
          (childLeft.bytes == e.oldEnd.bytes && childSize.bytes > 0 && index > 0)) &&
        (!invalidateFirstRow || childLeft.extent.row > padding.extent.row) then
      (c :: rest, next)
    else
      let part : LocalEdit :=
        ⟨e.start.saturatingSub childLeft, e.oldEnd.saturatingSub childLeft,
          e.newEnd.saturatingSub childLeft⟩
      let (e, part) :=
        if childRight.bytes > e.start.bytes || (childRight.bytes == e.start.bytes && isInsertion) then
          ({ e with newEnd := e.start }, part)
        else (e, { part with oldEnd := part.start, newEnd := part.start })
      let (c, next) := editLocal c part next
      let (rest, next) := editChildren invalidateFirstRow padding isInsertion rest e childRight
        (index + 1) next
      (c :: rest, next)
end

end Subtree

namespace SyntaxTree

/-- The length of the text the tree describes, in bytes. -/
def sourceLength (t : SyntaxTree) : Nat := t.root.totalBytes

/-- The tree with `edit` applied; `next` is the first unused identity, and the answer
    gives the next one after the copies. -/
def edit (t : SyntaxTree) (edit : Edit) (next : Nat) : SyntaxTree × Nat :=
  let part : LocalEdit :=
    ⟨⟨edit.startByte, edit.startPoint⟩, ⟨edit.oldEndByte, edit.oldEndPoint⟩,
      ⟨edit.newEndByte, edit.newEndPoint⟩⟩
  let (root, next) := t.root.editLocal part next
  (⟨root.intoRoot next, t.language⟩, next + 1)

end SyntaxTree

end IncrementalLR
