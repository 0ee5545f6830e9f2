import IncrementalLR.Lex.Token

/-!
# Subtrees

A subtree is a node of a concrete syntax tree together with its children.
-/

namespace IncrementalLR

/-- The cost of one error recovery. -/
def costPerRecovery : Nat := 500

/-- The cost of a token the parser had to assume. -/
def costPerMissing : Nat := 110

/-- The cost of a tree skipped during recovery. -/
def costPerSkippedTree : Nat := 100

/-- The cost of a line skipped during recovery. -/
def costPerSkippedLine : Nat := 30

/-- The cost of a byte skipped during recovery. -/
def costPerSkippedByte : Nat := 1

/-- The cost of skipping text of length `size`. -/
def skipCost (size : Length) : Nat :=
  costPerSkippedByte * size.bytes + costPerSkippedLine * size.extent.row

/-- How the leftmost leaf of a subtree was lexed; a subtree is only reused where its
    first token would be lexed the same way. -/
structure FirstLeaf where
  symbol : Nat
  lexMode : LexMode
  parseState : Nat
deriving DecidableEq, Repr, Inhabited

/-- What a subtree records about itself and its children. -/
structure NodeInfo where
  id : Nat
  symbol : Nat
  padding : Length
  size : Length
  lookaheadBytes : Nat
  parseState : Nat
  errorCost : Nat
  production : Nat
  visible : Bool
  named : Bool
  extra : Bool
  missing : Bool
  hasChanges : Bool
  hasExternalTokens : Bool
  dependsOnColumn : Bool
  firstLeaf : Option FirstLeaf
  visibleChildCount : Nat
  namedChildCount : Nat
  visibleDescendantCount : Nat
  scannerState : Option (List UInt8)
deriving Inhabited

/-- A syntax tree node and its children. -/
inductive Subtree where
  | mk (info : NodeInfo) (children : List Subtree)

instance : Inhabited Subtree := ⟨.mk default []⟩

namespace Subtree

/-- The node's own record. -/
def info : Subtree → NodeInfo
  | .mk i _ => i

/-- The node's children, in document order. -/
def children : Subtree → List Subtree
  | .mk _ cs => cs

@[simp] theorem info_mk (i : NodeInfo) (cs : List Subtree) : (Subtree.mk i cs).info = i := rfl

@[simp] theorem children_mk (i : NodeInfo) (cs : List Subtree) :
    (Subtree.mk i cs).children = cs := rfl

/-- The node's identity. -/
def id (t : Subtree) : Nat := t.info.id

/-- The node's symbol. -/
def symbol (t : Subtree) : Nat := t.info.symbol

/-- The skipped text before the node. -/
def padding (t : Subtree) : Length := t.info.padding

/-- The node's own extent. -/
def size (t : Subtree) : Length := t.info.size

/-- Padding and size together. -/
def totalSize (t : Subtree) : Length := t.padding.add t.size

/-- The bytes of padding and size together. -/
def totalBytes (t : Subtree) : Nat := t.padding.bytes + t.size.bytes

/-- How many bytes past its end were examined to produce the node. -/
def lookaheadBytes (t : Subtree) : Nat := t.info.lookaheadBytes

/-- The parse state the node was made in. -/
def parseState (t : Subtree) : Nat := t.info.parseState

/-- The cost of the errors in the node. -/
def errorCost (t : Subtree) : Nat := t.info.errorCost

/-- The production the node was reduced by; it selects the field map. -/
def production (t : Subtree) : Nat := t.info.production

/-- Whether the node is an error node or an error token. -/
def isError (t : Subtree) : Bool := t.symbol == errorSymbol

/-- Whether the node is the end of the input. -/
def isEnd (t : Subtree) : Bool := t.symbol == endSymbol

/-- Whether the node is a token the parser assumed. -/
def isMissing (t : Subtree) : Bool := t.info.missing

/-- Whether the node may stand between any two tokens. -/
def isExtra (t : Subtree) : Bool := t.info.extra

/-- Whether the node is shown in trees. -/
def isVisible (t : Subtree) : Bool := t.info.visible

/-- Whether the node has a name rather than being literal text. -/
def isNamed (t : Subtree) : Bool := t.info.named

/-- Whether an edit touched the node since it was parsed. -/
def hasChanges (t : Subtree) : Bool := t.info.hasChanges

/-- Whether a scanner produced some token in the node. -/
def hasExternalTokens (t : Subtree) : Bool := t.info.hasExternalTokens

/-- The number of children. -/
def childCount (t : Subtree) : Nat := t.children.length

/-- The symbol the parse table sees when the node is the lookahead: that of its
    leftmost leaf. -/
def leafSymbol (t : Subtree) : Nat :=
  match t.info.firstLeaf with
  | some leaf => leaf.symbol
  | none => t.symbol

/-- The leftmost leaf below the node, or the node itself. -/
def leftmostLeaf : Subtree → Subtree
  | .mk i [] => .mk i []
  | .mk _ (c :: _) => leftmostLeaf c

/-- Bytes from the start of the node's padding to the end of what lexing its leftmost
    leaf examined. -/
def firstLeafEnd (t : Subtree) : Nat :=
  let leaf := t.leftmostLeaf
  leaf.totalBytes + leaf.lookaheadBytes

mutual
/-- The rightmost token in the node that a scanner produced. -/
def lastExternalToken : Subtree → Option Subtree
  | .mk i cs =>
    if !i.hasExternalTokens then none
    else
      match lastExternalIn cs with
      | some t => some t
      | none => some (.mk i cs)

/-- The rightmost token that a scanner produced in the last child that has one. -/
def lastExternalIn : List Subtree → Option Subtree
  | [] => none
  | c :: rest =>
    match lastExternalIn rest with
    | some t => some t
    | none => lastExternalToken c
end

/-- The scanner state stored with a scanned token. -/
def scannerState (t : Subtree) : Option (List UInt8) := t.info.scannerState

mutual
/-- Whether two subtrees have the same shape, symbols, geometry, extra and missing
    flags and productions. -/
def structurallyEq : Subtree → Subtree → Bool
  | .mk a as, .mk b bs =>
    a.symbol == b.symbol && a.padding == b.padding && a.size == b.size &&
      a.extra == b.extra && a.missing == b.missing && a.production == b.production &&
      structurallyEqList as bs

/-- Pairwise structural equality of two child lists of the same length. -/
def structurallyEqList : List Subtree → List Subtree → Bool
  | [], [] => true
  | x :: xs, y :: ys => structurallyEq x y && structurallyEqList xs ys
  | _, _ => false
end

end Subtree

/-- The record of a childless node of `symbol`, with the table's visibility for it. -/
def NodeInfo.blank (table : ParseTable) (id symbol : Nat) (padding size : Length) : NodeInfo :=
  let shown := table.info symbol
  { id, symbol, padding, size, lookaheadBytes := 0, parseState := 0, errorCost := 0,
    production := 0, visible := shown.visible, named := shown.named, extra := false,
    missing := false, hasChanges := false, hasExternalTokens := false,
    dependsOnColumn := false, firstLeaf := none, visibleChildCount := 0,
    namedChildCount := 0, visibleDescendantCount := 0, scannerState := none }

/-- What the children of a node add up to. -/
structure ChildSummary where
  total : Length
  examinedEnd : Nat
  errorCost : Nat
  visibleChildren : Nat
  namedChildren : Nat
  visibleDescendants : Nat
  hasExternalTokens : Bool
  dependsOnColumn : Bool

/-- Adds one child to a summary; `isError` says whether the parent is an error node, in
    which every child that is not an extra counts as a skipped tree. -/
def ChildSummary.add (isError : Bool) (s : ChildSummary) (c : Subtree) : ChildSummary :=
  let skipped :=
    if isError && !c.isExtra then
      if c.isVisible then costPerSkippedTree else costPerSkippedTree * c.info.visibleChildCount
    else 0
  { total := s.total.add c.totalSize,
    examinedEnd := Nat.max s.examinedEnd (s.total.bytes + c.totalBytes + c.lookaheadBytes),
    errorCost := s.errorCost + c.errorCost + skipped,
    visibleChildren :=
      s.visibleChildren + (if c.isVisible then 1 else c.info.visibleChildCount),
    namedChildren :=
      s.namedChildren + (if c.isVisible then (if c.isNamed then 1 else 0)
        else c.info.namedChildCount),
    visibleDescendants :=
      s.visibleDescendants + (if c.isVisible then 1 else 0) + c.info.visibleDescendantCount,
    hasExternalTokens := s.hasExternalTokens || c.hasExternalTokens,
    dependsOnColumn := s.dependsOnColumn || c.info.dependsOnColumn }

/-- The summary of no children. -/
def ChildSummary.empty : ChildSummary := ⟨Length.zero, 0, 0, 0, 0, 0, false, false⟩

/-- The summary of a list of children, added up from the left. -/
def ChildSummary.ofChildren (isError : Bool) (children : List Subtree) : ChildSummary :=
  children.foldl (ChildSummary.add isError) ChildSummary.empty

/-- Sets the geometry and summary of a record from the summary of its children and its
    first child. An error node also pays for the recovery and for the text it covers. -/
def NodeInfo.withSummary (i : NodeInfo) (s : ChildSummary) (first : Option Subtree) :
    NodeInfo :=
  let (padding, size) :=
    match first with
    | some first => (first.padding, s.total.sub first.padding)
    | none => (Length.zero, Length.zero)
  let errorCost :=
    if i.symbol == errorSymbol then s.errorCost + costPerRecovery + skipCost size else s.errorCost
  { i with
    padding, size, errorCost
    lookaheadBytes := s.examinedEnd - s.total.bytes
    firstLeaf := first.bind (·.info.firstLeaf)
    visibleChildCount := s.visibleChildren, namedChildCount := s.namedChildren
    visibleDescendantCount := s.visibleDescendants
    hasExternalTokens := s.hasExternalTokens, dependsOnColumn := s.dependsOnColumn }

/-- Recomputes the geometry and summary of a record from its children. -/
def NodeInfo.summarize (i : NodeInfo) (children : List Subtree) : NodeInfo :=
  i.withSummary (ChildSummary.ofChildren (i.symbol == errorSymbol) children) children.head?

namespace Subtree

/-- The leaf of a token lexed in `parseState`. An error token pays for a recovery and
    for its text. -/
def ofToken (table : ParseTable) (id : Nat) (token : Token) (parseState : Nat) : Subtree :=
  let i := NodeInfo.blank table id token.symbol token.padding token.size
  .mk { i with
    lookaheadBytes := token.lookaheadBytes, parseState,
    dependsOnColumn := token.dependsOnColumn,
    firstLeaf := some ⟨token.symbol, token.lexMode, parseState⟩,
    hasExternalTokens := token.scannerState.isSome, scannerState := token.scannerState,
    errorCost := if token.symbol = errorSymbol then costPerRecovery + skipCost token.size else 0 } []

/-- An empty leaf for a token the parser had to assume. -/
def missingLeaf (table : ParseTable) (id symbol parseState : Nat) : Subtree :=
  let i := NodeInfo.blank table id symbol Length.zero Length.zero
  .mk { i with parseState, missing := true, errorCost := costPerMissing + costPerRecovery } []

/-- An inner node; its geometry and summary come from its children. -/
def node (table : ParseTable) (id symbol : Nat) (children : List Subtree)
    (production parseState : Nat) : Subtree :=
  let i := NodeInfo.blank table id symbol Length.zero Length.zero
  .mk ({ i with production, parseState }.summarize children) children

/-- An error node around `children`, whose summary `summary` is already known. -/
def errorNodeWith (table : ParseTable) (id : Nat) (children : List Subtree)
    (summary : ChildSummary) (extra : Bool) (parseState : Nat) : Subtree :=
  let i := NodeInfo.blank table id errorSymbol Length.zero Length.zero
  .mk ({ i with parseState, extra }.withSummary summary children.head?) children

/-- An error node around skipped or unparsable subtrees. -/
def errorNode (table : ParseTable) (id : Nat) (children : List Subtree) (extra : Bool)
    (parseState : Nat) : Subtree :=
  errorNodeWith table id children (ChildSummary.ofChildren true children) extra parseState

/-- The root of a finished parse: visible, spanning the whole text from 0, so padding
    at either end falls inside it. -/
def root (table : ParseTable) (id symbol production : Nat) (children : List Subtree)
    (total : Length) : Subtree :=
  let i := NodeInfo.blank table id symbol Length.zero Length.zero
  let i := { i with production }.summarize children
  .mk { i with visible := true, padding := Length.zero, size := total, lookaheadBytes := 1 }
    children

/-- The subtree with its extra flag set; unchanged subtrees are shared, and a changed
    one gets identity `id`. -/
def withExtra (t : Subtree) (extra : Bool) (id : Nat) : Subtree :=
  if t.isExtra == extra then t else .mk { t.info with extra, id } t.children

/-- Folds the padding into the size, so that a root starts at 0 again after text was
    inserted before everything; a changed subtree gets identity `id`. -/
def intoRoot (t : Subtree) (id : Nat) : Subtree :=
  if t.padding.isZero then t
  else .mk { t.info with size := t.padding.add t.size, padding := Length.zero, id } t.children

/-- Extends the examined text so that it reaches `endByte`, counted from the start of
    the padding. -/
def extendLookahead (t : Subtree) (endByte : Nat) : Subtree :=
  if endByte > t.totalBytes + t.lookaheadBytes then
    .mk { t.info with lookaheadBytes := endByte - t.totalBytes } t.children
  else t

end Subtree

mutual
/-- The size of a tree, counting every node. -/
def Subtree.nodeCount : Subtree → Nat
  | .mk _ cs => 1 + Subtree.nodeCountList cs

/-- The sizes of a list of trees, added up. -/
def Subtree.nodeCountList : List Subtree → Nat
  | [] => 0
  | c :: rest => Subtree.nodeCount c + Subtree.nodeCountList rest
end

mutual
/-- The height of a tree: a leaf has height one. -/
def Subtree.height : Subtree → Nat
  | .mk _ cs => 1 + Subtree.heightList cs

/-- The greatest height in a list of trees. -/
def Subtree.heightList : List Subtree → Nat
  | [] => 0
  | c :: rest => Nat.max (Subtree.height c) (Subtree.heightList rest)
end

end IncrementalLR
