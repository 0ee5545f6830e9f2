import IncrementalLR.Tree.Subtree
import IncrementalLR.Text.Escape
import Std.Data.HashMap

/-!
# Printing trees

Two printed forms of a tree.
-/

namespace IncrementalLR

mutual
/-- Appends the S-expression of `t`, filling field `field`, to `out`. -/
def sexpInto (table : ParseTable) : Subtree → Option String → Bool → String → String
  | .mk i cs, field, isRoot, out =>
    let shown := isRoot || i.missing || (i.visible && i.named)
    let opened :=
      if shown then
        let out := if out.isEmpty then out else out.push ' '
        let out := match field with
          | some name => out ++ name ++ ": "
          | none => out
        let name := table.symbolName i.symbol
        if i.missing then
          if i.named then out ++ "(MISSING " ++ name
          else out ++ "(MISSING \"" ++ escapeText name ++ "\""
        else out ++ "(" ++ name
      else out
    let inner := sexpChildren table (table.fieldMap i.production) (if shown then none else field)
      0 cs opened
    if shown then inner.push ')' else inner

/-- Appends the S-expressions of children, the next one that is not an extra having
    structural index `structural`; a child that the field map does not name fills
    `inherited`. -/
def sexpChildren (table : ParseTable) (fields : List FieldEntry) (inherited : Option String)
    (structural : Nat) : List Subtree → String → String
  | [], out => out
  | c :: rest, out =>
    if c.isExtra then
      sexpChildren table fields inherited structural rest (sexpInto table c inherited false out)
    else
      let field := match fields.find? (·.child == structural) with
        | some entry => table.fieldName? entry.field
        | none => inherited
      sexpChildren table fields inherited (structural + 1) rest (sexpInto table c field false out)
end

/-- The S-expression of a tree. -/
def Subtree.toSexp (t : Subtree) (table : ParseTable) : String := sexpInto table t none true ""

/-- One line of a dot graph: a subtree with where its padding starts, or an edge from a
    parent to its child at an index. -/
inductive DotLine where
  | node (t : Subtree) (start : Nat)
  | edge (parent child index : Nat)

mutual
/-- Puts the dot lines of `t`, whose padding starts at `start`, and of everything below
    it onto `acc`, last line first: each subtree is followed by its edges and then by
    its children. -/
def dotLinesOnto : Subtree → Length → List DotLine → List DotLine
  | t@(.mk i cs), start, acc =>
    let withEdges := cs.zipIdx.foldl (fun acc (c, k) => DotLine.edge i.id c.id k :: acc)
      (.node t start.bytes :: acc)
    dotChildrenOnto cs start withEdges

/-- Puts the dot lines of children onto `acc`, the first one's padding starting at
    `start`. -/
def dotChildrenOnto : List Subtree → Length → List DotLine → List DotLine
  | [], _, acc => acc
  | c :: rest, start, acc => dotChildrenOnto rest (start.add c.totalSize) (dotLinesOnto c start acc)
end

/-- The dot lines of `t`, whose padding starts at `start`, and of everything below it,
    in pre-order. -/
def dotLines (t : Subtree) (start : Length) : List DotLine := (dotLinesOnto t start []).reverse

/-- The identities a line mentions, in order. -/
def DotLine.ids : DotLine → List Nat
  | .node t _ => [t.id]
  | .edge parent child _ => [parent, child]

/-- Numbers identities by first appearance. -/
def numberIds (ids : List Nat) : Std.HashMap Nat Nat :=
  ids.foldl (fun m id => if m.contains id then m else m.insert id m.size) {}

/-- A dot line, with identities renamed by `names`. -/
def DotLine.render (table : ParseTable) (names : Std.HashMap Nat Nat) : DotLine → String
  | .node t start =>
    let i := t.info
    let shown := "tree_" ++ toString (names.getD i.id 0)
    let label := escapeText (table.symbolName i.symbol)
    let begin := start + i.padding.bytes
    shown ++ " [label=\"" ++ label ++ "\"" ++
      (if t.children.isEmpty then ", shape=plaintext" else "") ++
      (if i.extra then ", fontcolor=gray" else "") ++
      (if i.hasChanges then ", color=green, penwidth=2" else "") ++
      ", tooltip=\"range: " ++ toString begin ++ " - " ++ toString (begin + i.size.bytes) ++
      "\\nstate: " ++ toString i.parseState ++ "\\nerror-cost: " ++ toString i.errorCost ++
      "\\nhas-changes: " ++ toString i.hasChanges ++ "\\nlookahead-bytes: " ++
      toString i.lookaheadBytes ++ "\"]"
  | .edge parent child k =>
    "tree_" ++ toString (names.getD parent 0) ++ " -> tree_" ++ toString (names.getD child 0) ++
      " [tooltip=" ++ toString k ++ "]"

/-- The dot graph of a tree, one line each. -/
def Subtree.dotGraph (t : Subtree) (table : ParseTable) : List String :=
  let lines := dotLines t Length.zero
  let names := numberIds (lines.flatMap DotLine.ids)
  ["digraph tree \x7b", "edge [arrowhead=none]"] ++ lines.map (DotLine.render table names) ++
    ["\x7d"]

end IncrementalLR
