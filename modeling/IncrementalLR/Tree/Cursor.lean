import IncrementalLR.Tree.Node

/-!
# Tree cursors

A cursor keeps the whole path from the node it started at down to its current node, hidden
subtrees included, so that moving to a child, a sibling or the parent is a matter of pushing
or popping entries, and the field a node fills can be read off its parent's production.
-/

namespace IncrementalLR

/-- A subtree on a cursor's path: where its text starts, its index and structural index
    among its parent's children, its later siblings, how many visible entries stand
    above it on the path (the start not counted), its parent's field map, and the field
    that the hidden entries above it pass down. -/
structure CursorEntry where
  tree : Subtree
  position : Length
  childIndex : Nat
  structuralIndex : Nat
  later : List Subtree
  above : Nat
  siblingFields : List FieldEntry
  inherited : Option Nat
deriving Inhabited

namespace CursorEntry

/-- The field that the parent's production gives this entry. -/
def ownField (e : CursorEntry) : Option Nat :=
  (e.siblingFields.find? (·.child == e.structuralIndex)).map (·.field)

/-- The field this entry fills as its children see it: none through a visible entry or
    an extra, and otherwise its own field or the one passed down to it. -/
def passedDown (e : CursorEntry) : Option Nat :=
  if e.tree.isVisible || e.tree.isExtra then none else e.ownField <|> e.inherited

/-- The number of visible entries on the path down to this one, itself included. -/
def depth (e : CursorEntry) : Nat := if e.tree.isVisible then e.above + 1 else e.above

/-- The first of the subtrees `cs` a cursor may move to, their padding starting at
    `from_`, numbered from `index` and, skipping extras, from `structural`: a visible
    subtree, or a hidden one that has visible children; with whether it is visible.
    `above`, `fields` and `inherited` are what the entries share as siblings. -/
def stopAmong (above : Nat) (fields : List FieldEntry) (inherited : Option Nat)
    (from_ : Length) (index structural : Nat) : List Subtree → Option (CursorEntry × Bool)
  | [] => none
  | c :: rest =>
    let position := from_.add c.padding
    if c.isVisible || c.info.visibleChildCount > 0 then
      some (⟨c, position, index, structural, rest, above, fields, inherited⟩, c.isVisible)
    else
      stopAmong above fields inherited (position.add c.size) (index + 1)
        (if c.isExtra then structural else structural + 1) rest

/-- The first later sibling of `e` a cursor may move to. The text after `e` is found by
    stepping back over its padding and forward over all of it. -/
def nextStop (e : CursorEntry) : Option (CursorEntry × Bool) :=
  stopAmong e.above e.siblingFields e.inherited
    (((e.position.retreat e.tree.padding).add e.tree.padding).add e.tree.size)
    (e.childIndex + 1) (if e.tree.isExtra then e.structuralIndex else e.structuralIndex + 1)
    e.later

end CursorEntry

mutual
/-- Descends from subtree `t` at `position`, with `above` visible entries down to it and
    passing `inherited` down, to its first visible child, through hidden children that
    have visible ones, pushing each entry on `path`; whether a visible child was
    reached, with the path, or `none` when `t` has no child to stop at. A hidden child
    that turns out to hold nothing to stop at ends the path. -/
def descendInto (table : ParseTable) (path : List CursorEntry) (above : Nat)
    (inherited : Option Nat) : Subtree → Length → Option (Bool × List CursorEntry)
  | .mk i cs, position =>
    descendAmong table path above (table.fieldMap i.production) inherited
      (position.retreat i.padding) 0 0 cs

/-- Descends into the first of the subtrees `cs` to stop at, their padding starting at
    `from_`, numbered from `index` and, skipping extras, from `structural`. -/
def descendAmong (table : ParseTable) (path : List CursorEntry) (above : Nat)
    (fields : List FieldEntry) (inherited : Option Nat) (from_ : Length)
    (index structural : Nat) : List Subtree → Option (Bool × List CursorEntry)
  | [] => none
  | c :: rest =>
    let position := from_.add c.padding
    let e : CursorEntry := ⟨c, position, index, structural, rest, above, fields, inherited⟩
    if c.isVisible then some (true, e :: path)
    else if c.info.visibleChildCount > 0 then
      some ((descendInto table (e :: path) above e.passedDown c position).getD
        (false, e :: path))
    else
      descendAmong table path above fields inherited (position.add c.size) (index + 1)
        (if c.isExtra then structural else structural + 1) rest
end

/-- A cursor: the table of its tree, the entry it started at, and the entries above it
    on the path down to the current one, current first. -/
structure TreeCursor where
  table : ParseTable
  start : CursorEntry
  path : List CursorEntry

namespace TreeCursor

/-- A cursor at a node of a tree parsed with `table`. -/
def ofNode (table : ParseTable) (n : SyntaxNode) : TreeCursor :=
  ⟨table, ⟨n.tree, n.position, 0, 0, [], 0, [], none⟩, []⟩

/-- The current entry. -/
def current (c : TreeCursor) : CursorEntry := c.path.head?.getD c.start

/-- The current node. -/
def node (c : TreeCursor) : SyntaxNode := ⟨c.current.tree, c.current.position⟩

/-- The number of visible nodes on the path below the start, the current one included. -/
def depth (c : TreeCursor) : Nat := (c.path.head?.map CursorEntry.depth).getD 0

/-- Moves to the first visible child, looking through hidden ones; whether there was
    one. A hidden child that turns out to hold nothing to stop at is where the cursor
    stays. -/
def gotoFirstChild (c : TreeCursor) : Bool × TreeCursor :=
  let inherited := match c.path with
    | e :: _ => e.passedDown
    | [] => none
  match descendInto c.table c.path c.depth inherited c.current.tree c.current.position with
  | some (visible, path) => (visible, { c with path })
  | none => (false, c)

/-- Climbs from the current entry until an entry has a later sibling to move to, giving
    the new path and whether the sibling is visible. Leaving a visible entry other
    than the current one ends the search, since its siblings are no siblings of the
    current node. -/
def siblingStep (isTop : Bool) : List CursorEntry → Option (List CursorEntry × Bool)
  | [] => none
  | e :: rest =>
    if e.tree.isVisible && !isTop then none
    else
      match e.nextStop with
      | some (next, visible) => some (next :: rest, visible)
      | none => siblingStep false rest

/-- Moves to the next visible sibling, looking through hidden ones; whether there was
    one. On failure the cursor stays. -/
def gotoNextSibling (c : TreeCursor) : Bool × TreeCursor :=
  match siblingStep true c.path with
  | some (path, true) => (true, { c with path })
  | some (path, false) => (true, (gotoFirstChild { c with path }).2)
  | none => (false, c)

/-- Moves to the nearest visible ancestor; `none` at the start. -/
def gotoParent (c : TreeCursor) : Option TreeCursor :=
  match c.path with
  | [] => none
  | _ :: rest => some { c with path := rest.dropWhile fun e => !e.tree.isVisible }

/-- Moves to the first visible child whose text ends after `byte`, giving its index.
    When no child does, the cursor returns to the parent. -/
def gotoFirstChildForByte (c : TreeCursor) (byte : Nat) : Option Nat × TreeCursor :=
  let rec scan : Nat → Nat → TreeCursor → Option Nat × TreeCursor
    | 0, _, c => (none, c)
    | fuel + 1, index, c =>
      if c.node.endByte > byte then (some index, c)
      else
        match c.gotoNextSibling with
        | (true, c) => scan fuel (index + 1) c
        | (false, c) => (none, (c.gotoParent).getD c)
  match c.gotoFirstChild with
  | (true, inside) => scan (c.current.tree.nodeCount + 1) 0 inside
  | (false, c) => (none, c)

/-- The field that the current node fills in its parent: none for an extra, else the
    field its parent's production gives it, else the one its hidden ancestors pass
    down. -/
def fieldId? (c : TreeCursor) : Option Nat :=
  match c.path with
  | [] => none
  | e :: _ => if e.tree.isExtra then none else e.ownField <|> e.inherited

/-- The name of the field that the current node fills in its parent. -/
def fieldName? (c : TreeCursor) : Option String := c.fieldId?.bind c.table.fieldName?

/-- Climbs to an ancestor that has a next sibling and moves there, at most `fuel`
    levels. -/
def climbToSibling : Nat → TreeCursor → Option TreeCursor
  | 0, _ => none
  | fuel + 1, c =>
    match c.gotoParent with
    | none => none
    | some p =>
      match p.gotoNextSibling with
      | (true, c) => some c
      | (false, c) => climbToSibling fuel c

/-- The next node in pre-order: the first child, else the next sibling, else the next
    sibling of the nearest ancestor that has one; `bound` exceeds the cursor's depth. -/
def nextInOrder (bound : Nat) (c : TreeCursor) : Option TreeCursor :=
  match c.gotoFirstChild with
  | (true, c) => some c
  | (false, c) =>
    match c.gotoNextSibling with
    | (true, c) => some c
    | (false, c) => climbToSibling bound c

/-- The current node and those after it in pre-order, at most `fuel` of them; `bound`
    exceeds every depth. -/
def walkFrom (bound : Nat) : Nat → TreeCursor → List TreeCursor
  | 0, _ => []
  | fuel + 1, c =>
    c :: match c.nextInOrder bound with
      | some next => walkFrom bound fuel next
      | none => []

end TreeCursor

namespace SyntaxNode

/-- A cursor starting at the node, of a tree parsed with `table`. -/
def walk (n : SyntaxNode) (table : ParseTable) : TreeCursor := TreeCursor.ofNode table n

/-- The cursor at every visible node of the subtree in pre-order, the node first. -/
def walkAll (n : SyntaxNode) (table : ParseTable) : List TreeCursor :=
  let size := n.tree.nodeCount + 1
  (n.walk table).walkFrom size size

/-- The node and its visible descendants in pre-order. -/
def descendants (n : SyntaxNode) (table : ParseTable) : List SyntaxNode :=
  (n.walkAll table).map (·.node)

/-- The visible children, each with the field it fills, as a cursor meets them. -/
def fieldedChildren (n : SyntaxNode) (table : ParseTable) : List (SyntaxNode × Option Nat) :=
  let rec go : Nat → TreeCursor → List (SyntaxNode × Option Nat)
    | 0, _ => []
    | fuel + 1, c =>
      (c.node, c.fieldId?) :: match c.gotoNextSibling with
        | (true, c) => go fuel c
        | (false, _) => []
  match (n.walk table).gotoFirstChild with
  | (true, c) => go (n.tree.nodeCount + 1) c
  | (false, _) => []

/-- The first child that fills field `field`. -/
def childByFieldId (n : SyntaxNode) (table : ParseTable) (field : Nat) : Option SyntaxNode :=
  ((n.fieldedChildren table).find? fun (_, f) => f == some field).map (·.1)

/-- Every child that fills field `field`, in order. -/
def childrenByFieldId (n : SyntaxNode) (table : ParseTable) (field : Nat) : List SyntaxNode :=
  ((n.fieldedChildren table).filter fun (_, f) => f == some field).map (·.1)

/-- The first child that fills the field named `name`. -/
def childByFieldName (n : SyntaxNode) (table : ParseTable) (name : String) :
    Option SyntaxNode :=
  (table.fieldId? name).bind (n.childByFieldId table)

/-- The name of the field that the visible child at `index` fills. -/
def fieldNameForChild (n : SyntaxNode) (table : ParseTable) (index : Nat) : Option String :=
  ((n.fieldedChildren table)[index]?).bind fun (_, f) => f.bind table.fieldName?

end SyntaxNode

end IncrementalLR
