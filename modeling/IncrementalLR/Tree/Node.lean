import IncrementalLR.Tree.Edit

/-!
# Nodes

A node is a subtree at its absolute position: the start of its text, after its padding.
-/

namespace IncrementalLR

/-- A subtree at the absolute position where its text starts. -/
structure SyntaxNode where
  tree : Subtree
  position : Length
deriving Inhabited

namespace SyntaxNode

/-- The root node of a tree. -/
def ofRoot (root : Subtree) : SyntaxNode := ⟨root, Length.zero⟩

/-- Whether two nodes are the same subtree at the same position. -/
def same (a b : SyntaxNode) : Bool := a.tree.id == b.tree.id && a.position == b.position

/-- Where the node's text ends. -/
def stop (n : SyntaxNode) : Length := n.position.add n.tree.size

/-- The first byte of the node's text. -/
def startByte (n : SyntaxNode) : Nat := n.position.bytes

/-- One past the last byte of the node's text. -/
def endByte (n : SyntaxNode) : Nat := n.stop.bytes

/-- Where the node's padding starts. -/
def paddingStart (n : SyntaxNode) : Nat := n.position.bytes - n.tree.padding.bytes

/-- Whether navigation stops at the node: it is visible, and named unless anonymous
    nodes are included. -/
def isRelevant (n : SyntaxNode) (anonymous : Bool) : Bool :=
  n.tree.isVisible && (anonymous || n.tree.isNamed)

/-- The number of visible (or named) children, looking through hidden ones. -/
def relevantCount (n : SyntaxNode) (anonymous : Bool) : Nat :=
  if n.tree.childCount = 0 then 0
  else if anonymous then n.tree.info.visibleChildCount else n.tree.info.namedChildCount

/-- The number of visible children, looking through hidden ones. -/
def childCount (n : SyntaxNode) : Nat := n.relevantCount true

/-- The number of named children, looking through hidden ones. -/
def namedChildCount (n : SyntaxNode) : Nat := n.relevantCount false

/-- The number of visible nodes in the subtree, the node itself included. -/
def descendantCount (n : SyntaxNode) : Nat := n.tree.info.visibleDescendantCount + 1

/-- The direct children of `t` whose padding starts at `from` one after another, each
    with the position where the next child's padding starts. -/
def placeChildren (from_ : Length) : List Subtree → List (SyntaxNode × Length)
  | [] => []
  | c :: rest =>
    let start := from_.add c.padding
    let stop := start.add c.size
    (⟨c, start⟩, stop) :: placeChildren stop rest

/-- The direct children of the node, placed, each with the end of its text. A root has
    no padding of its own even when its first child has, so the placing starts at the
    node's position less its padding. -/
def directChildren (n : SyntaxNode) : List (SyntaxNode × Length) :=
  placeChildren (n.position.retreat n.tree.padding) n.tree.children

end SyntaxNode

mutual
/-- The child at `index` among the relevant children of subtree `t` at `position`,
    looking through hidden children. -/
def relevantChildOf (anonymous : Bool) : Subtree → Length → Nat → Option SyntaxNode
  | .mk i cs, position, index => relevantChildAmong anonymous cs (position.retreat i.padding) index

/-- The child at `index` among the relevant children of the subtrees `cs`, whose
    padding starts at `from_`. -/
def relevantChildAmong (anonymous : Bool) : List Subtree → Length → Nat → Option SyntaxNode
  | [], _, _ => none
  | c :: rest, from_, index =>
    let start := from_.add c.padding
    let node : SyntaxNode := ⟨c, start⟩
    if node.isRelevant anonymous then
      if index = 0 then some node
      else relevantChildAmong anonymous rest (start.add c.size) (index - 1)
    else
      let count := node.relevantCount anonymous
      if index < count then relevantChildOf anonymous c start index
      else relevantChildAmong anonymous rest (start.add c.size) (index - count)
end

namespace SyntaxNode

/-- The relevant child at `index`. -/
def relevantChild (n : SyntaxNode) (index : Nat) (anonymous : Bool) : Option SyntaxNode :=
  if n.tree.childCount = 0 then none else relevantChildOf anonymous n.tree n.position index

/-- The visible child at `index`, looking through hidden children. -/
def child (n : SyntaxNode) (index : Nat) : Option SyntaxNode := n.relevantChild index true

/-- The named child at `index`, looking through hidden children. -/
def namedChild (n : SyntaxNode) (index : Nat) : Option SyntaxNode := n.relevantChild index false

/-- The visible children in order. -/
def children (n : SyntaxNode) : List SyntaxNode := (List.range n.childCount).filterMap n.child

/-- The named children in order. -/
def namedChildren (n : SyntaxNode) : List SyntaxNode :=
  (List.range n.namedChildCount).filterMap n.namedChild

/-- The first visible child whose text ends after `byte`. -/
def firstChildForByte (n : SyntaxNode) (byte : Nat) : Option SyntaxNode :=
  n.children.find? fun c => c.endByte > byte

/-- The outcome of looking among the children of a node for the one holding a node. -/
inductive Search where
  | answer (found : Option SyntaxNode)
  | descend (into : SyntaxNode)

/-- Looks among placed children for the one holding `d`; `inner` finds it below a
    child. An empty `d` may sit at the end of one child or at the start of the next. -/
def searchAmong (d : SyntaxNode) (inner : SyntaxNode → Option SyntaxNode) :
    List (SyntaxNode × Length) → Search
  | [] => .answer none
  | (c, stop) :: rest =>
    if c.startByte > d.startByte then .answer none
    else if c.same d then .answer (some c)
    else
      let isEmpty := d.startByte = d.endByte
      let viaEnd :=
        if isEmpty ∧ stop.bytes ≥ d.endByte ∧ c.childCount > 0 then
          (inner c).map fun found => if c.isRelevant true then c else found
        else none
      match viaEnd with
      | some found => .answer (some found)
      | none =>
        let endsBefore := if isEmpty then stop.bytes ≤ d.endByte else stop.bytes < d.endByte
        if !endsBefore ∧ c.childCount > 0 then .descend c else searchAmong d inner rest

/-- The child of `n`, visible or reached through hidden children, that holds `d`. -/
def childWithDescendant (d : SyntaxNode) : Nat → SyntaxNode → Option SyntaxNode
  | 0, _ => none
  | fuel + 1, n =>
    match searchAmong d (childWithDescendant d fuel) n.directChildren with
    | .answer found => found
    | .descend c => if c.isRelevant true then some c else childWithDescendant d fuel c

/-- The parent of `n` in the tree with root `root`, walking down from the root. -/
def parentIn (root : Subtree) (n : SyntaxNode) : Option SyntaxNode :=
  let top := ofRoot root
  let fuel := root.height + 1
  let rec walk : Nat → SyntaxNode → Option SyntaxNode
    | 0, _ => none
    | k + 1, node =>
      match childWithDescendant n fuel node with
      | some next => if next.same n then some node else walk k next
      | none => none
  if top.same n then none else walk fuel top

/-- The next or previous sibling of `n` among the visible (or named) children of its
    parent. -/
def sibling (root : Subtree) (n : SyntaxNode) (forward anonymous : Bool) : Option SyntaxNode :=
  match parentIn root n with
  | none => none
  | some p =>
    let siblings := p.children.filter fun c => c.isRelevant anonymous || c.same n
    if forward then
      match (siblings.dropWhile fun c => !c.same n) with
      | _ :: rest => rest.find? fun c => !c.same n
      | [] => none
    else
      let before := siblings.takeWhile fun c => !c.same n
      if before.length = siblings.length then none else before.getLast?

/-- The deepest relevant node below `n` (or `n` itself) whose text spans `start` to
    `stop`. -/
def descendantForRange (n : SyntaxNode) (start stop : Nat) (anonymous : Bool) :
    Option SyntaxNode :=
  let rec pick : List (SyntaxNode × Length) → Option SyntaxNode
    | [] => none
    | (c, cEnd) :: rest =>
      if cEnd.bytes < stop then pick rest
      else
        let isEmpty := c.startByte = cEnd.bytes
        if (if isEmpty then cEnd.bytes < start else cEnd.bytes ≤ start) then pick rest
        else if start < c.startByte then none
        else some c
  let rec go : Nat → SyntaxNode → SyntaxNode → SyntaxNode
    | 0, _, last => last
    | k + 1, node, last =>
      match pick node.directChildren with
      | some c => go k c (if c.isRelevant anonymous then c else last)
      | none => last
  if start > stop then none else some (go (n.tree.height + 1) n n)

end SyntaxNode

end IncrementalLR
