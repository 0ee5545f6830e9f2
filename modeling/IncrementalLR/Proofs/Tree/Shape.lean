import IncrementalLR.Tree.Subtree

/-!
# The shape of the subtrees the parser makes

Each way of making a subtree fixes its symbol, its children, its extra flag and the symbol
the table sees when it is a lookahead.
-/

namespace IncrementalLR

namespace NodeInfo

@[simp] theorem withSummary_symbol (i : NodeInfo) (s : ChildSummary) (first : Option Subtree) :
    (i.withSummary s first).symbol = i.symbol := rfl

@[simp] theorem withSummary_extra (i : NodeInfo) (s : ChildSummary) (first : Option Subtree) :
    (i.withSummary s first).extra = i.extra := rfl

@[simp] theorem withSummary_parseState (i : NodeInfo) (s : ChildSummary)
    (first : Option Subtree) : (i.withSummary s first).parseState = i.parseState := rfl

@[simp] theorem withSummary_firstLeaf (i : NodeInfo) (s : ChildSummary) (first : Option Subtree) :
    (i.withSummary s first).firstLeaf = first.bind (·.info.firstLeaf) := rfl

@[simp] theorem summarize_symbol (i : NodeInfo) (children : List Subtree) :
    (i.summarize children).symbol = i.symbol := rfl

@[simp] theorem summarize_extra (i : NodeInfo) (children : List Subtree) :
    (i.summarize children).extra = i.extra := rfl

@[simp] theorem summarize_parseState (i : NodeInfo) (children : List Subtree) :
    (i.summarize children).parseState = i.parseState := rfl

@[simp] theorem summarize_firstLeaf (i : NodeInfo) (children : List Subtree) :
    (i.summarize children).firstLeaf = children.head?.bind (·.info.firstLeaf) := rfl

end NodeInfo

namespace Subtree

/-- A node without a first leaf is seen by its own symbol. -/
theorem leafSymbol_of_firstLeaf_none {t : Subtree} (h : t.info.firstLeaf = none) :
    t.leafSymbol = t.symbol := by
  simp [leafSymbol, h]

@[simp] theorem withExtra_symbol (t : Subtree) (extra : Bool) (id : Nat) :
    (t.withExtra extra id).symbol = t.symbol := by
  unfold withExtra
  split <;> rfl

@[simp] theorem withExtra_children (t : Subtree) (extra : Bool) (id : Nat) :
    (t.withExtra extra id).children = t.children := by
  unfold withExtra
  split <;> rfl

@[simp] theorem withExtra_production (t : Subtree) (extra : Bool) (id : Nat) :
    (t.withExtra extra id).production = t.production := by
  unfold withExtra
  split <;> rfl

@[simp] theorem withExtra_isExtra (t : Subtree) (extra : Bool) (id : Nat) :
    (t.withExtra extra id).isExtra = extra := by
  unfold withExtra
  split
  · rename_i h
    exact eq_of_beq h
  · rfl

@[simp] theorem withExtra_leafSymbol (t : Subtree) (extra : Bool) (id : Nat) :
    (t.withExtra extra id).leafSymbol = t.leafSymbol := by
  unfold withExtra
  split <;> rfl

@[simp] theorem withExtra_parseState (t : Subtree) (extra : Bool) (id : Nat) :
    (t.withExtra extra id).parseState = t.parseState := by
  unfold withExtra
  split <;> rfl

@[simp] theorem withExtra_padding (t : Subtree) (extra : Bool) (id : Nat) :
    (t.withExtra extra id).padding = t.padding := by
  unfold withExtra
  split <;> rfl

@[simp] theorem withExtra_size (t : Subtree) (extra : Bool) (id : Nat) :
    (t.withExtra extra id).size = t.size := by
  unfold withExtra
  split <;> rfl

@[simp] theorem withExtra_isMissing (t : Subtree) (extra : Bool) (id : Nat) :
    (t.withExtra extra id).isMissing = t.isMissing := by
  unfold withExtra
  split <;> rfl

@[simp] theorem isError_withExtra (t : Subtree) (extra : Bool) (id : Nat) :
    (t.withExtra extra id).isError = t.isError := by
  simp [isError]

@[simp] theorem extendLookahead_symbol (t : Subtree) (n : Nat) :
    (t.extendLookahead n).symbol = t.symbol := by
  unfold extendLookahead
  split <;> rfl

@[simp] theorem extendLookahead_children (t : Subtree) (n : Nat) :
    (t.extendLookahead n).children = t.children := by
  unfold extendLookahead
  split <;> rfl

@[simp] theorem extendLookahead_production (t : Subtree) (n : Nat) :
    (t.extendLookahead n).production = t.production := by
  unfold extendLookahead
  split <;> rfl

@[simp] theorem extendLookahead_isExtra (t : Subtree) (n : Nat) :
    (t.extendLookahead n).isExtra = t.isExtra := by
  unfold extendLookahead
  split <;> rfl

@[simp] theorem extendLookahead_leafSymbol (t : Subtree) (n : Nat) :
    (t.extendLookahead n).leafSymbol = t.leafSymbol := by
  unfold extendLookahead
  split <;> rfl

@[simp] theorem extendLookahead_parseState (t : Subtree) (n : Nat) :
    (t.extendLookahead n).parseState = t.parseState := by
  unfold extendLookahead
  split <;> rfl

@[simp] theorem extendLookahead_firstLeaf (t : Subtree) (n : Nat) :
    (t.extendLookahead n).info.firstLeaf = t.info.firstLeaf := by
  unfold extendLookahead
  split <;> rfl

@[simp] theorem extendLookahead_padding (t : Subtree) (n : Nat) :
    (t.extendLookahead n).padding = t.padding := by
  unfold extendLookahead
  split <;> rfl

@[simp] theorem extendLookahead_size (t : Subtree) (n : Nat) :
    (t.extendLookahead n).size = t.size := by
  unfold extendLookahead
  split <;> rfl

@[simp] theorem extendLookahead_isMissing (t : Subtree) (n : Nat) :
    (t.extendLookahead n).isMissing = t.isMissing := by
  unfold extendLookahead
  split <;> rfl

@[simp] theorem extendLookahead_id (t : Subtree) (n : Nat) :
    (t.extendLookahead n).id = t.id := by
  unfold extendLookahead
  split <;> rfl

section Made

variable (table : ParseTable) (id symbol production parseState : Nat) (children : List Subtree)

@[simp] theorem node_symbol : (node table id symbol children production parseState).symbol = symbol :=
  rfl

@[simp] theorem node_children :
    (node table id symbol children production parseState).children = children := rfl

@[simp] theorem node_production :
    (node table id symbol children production parseState).production = production := rfl

@[simp] theorem node_isExtra : (node table id symbol children production parseState).isExtra = false :=
  rfl

@[simp] theorem node_parseState :
    (node table id symbol children production parseState).parseState = parseState := rfl

@[simp] theorem node_firstLeaf :
    (node table id symbol children production parseState).info.firstLeaf =
      children.head?.bind (·.info.firstLeaf) := rfl

@[simp] theorem node_id : (node table id symbol children production parseState).id = id := rfl

@[simp] theorem node_isMissing :
    (node table id symbol children production parseState).isMissing = false := rfl

/-- A node of an empty production is empty. -/
theorem node_nil_totalBytes : (node table id symbol [] production parseState).totalBytes = 0 := rfl

@[simp] theorem errorNodeWith_symbol (summary : ChildSummary) (extra : Bool) :
    (errorNodeWith table id children summary extra parseState).symbol = errorSymbol := rfl

@[simp] theorem errorNodeWith_children (summary : ChildSummary) (extra : Bool) :
    (errorNodeWith table id children summary extra parseState).children = children := rfl

@[simp] theorem errorNodeWith_isExtra (summary : ChildSummary) (extra : Bool) :
    (errorNodeWith table id children summary extra parseState).isExtra = extra := rfl

@[simp] theorem errorNodeWith_firstLeaf (summary : ChildSummary) (extra : Bool) :
    (errorNodeWith table id children summary extra parseState).info.firstLeaf =
      children.head?.bind (·.info.firstLeaf) := rfl

@[simp] theorem errorNodeWith_id (summary : ChildSummary) (extra : Bool) :
    (errorNodeWith table id children summary extra parseState).id = id := rfl

@[simp] theorem errorNodeWith_isMissing (summary : ChildSummary) (extra : Bool) :
    (errorNodeWith table id children summary extra parseState).isMissing = false := rfl

@[simp] theorem root_symbol (total : Length) :
    (root table id symbol production children total).symbol = symbol := rfl

@[simp] theorem root_children (total : Length) :
    (root table id symbol production children total).children = children := rfl

@[simp] theorem root_production (total : Length) :
    (root table id symbol production children total).production = production := rfl

@[simp] theorem root_isExtra (total : Length) :
    (root table id symbol production children total).isExtra = false := rfl

@[simp] theorem root_parseState (total : Length) :
    (root table id symbol production children total).parseState = 0 := rfl

@[simp] theorem root_firstLeaf (total : Length) :
    (root table id symbol production children total).info.firstLeaf =
      children.head?.bind (·.info.firstLeaf) := rfl

@[simp] theorem root_padding (total : Length) :
    (root table id symbol production children total).padding = Length.zero := rfl

@[simp] theorem root_size (total : Length) :
    (root table id symbol production children total).size = total := rfl

@[simp] theorem root_isMissing (total : Length) :
    (root table id symbol production children total).isMissing = false := rfl

@[simp] theorem missingLeaf_symbol : (missingLeaf table id symbol parseState).symbol = symbol := rfl

@[simp] theorem missingLeaf_children : (missingLeaf table id symbol parseState).children = [] :=
  rfl

@[simp] theorem missingLeaf_leafSymbol :
    (missingLeaf table id symbol parseState).leafSymbol = symbol := rfl

@[simp] theorem missingLeaf_isMissing : (missingLeaf table id symbol parseState).isMissing = true :=
  rfl

@[simp] theorem missingLeaf_isExtra : (missingLeaf table id symbol parseState).isExtra = false :=
  rfl

@[simp] theorem missingLeaf_totalSize :
    (missingLeaf table id symbol parseState).totalSize = Length.zero := rfl

@[simp] theorem ofToken_children (token : Token) : (ofToken table id token parseState).children = [] :=
  rfl

@[simp] theorem ofToken_leafSymbol (token : Token) :
    (ofToken table id token parseState).leafSymbol = (ofToken table id token parseState).symbol :=
  rfl

@[simp] theorem ofToken_symbol (token : Token) :
    (ofToken table id token parseState).symbol = token.symbol := rfl

@[simp] theorem ofToken_isMissing (token : Token) :
    (ofToken table id token parseState).isMissing = false := rfl

@[simp] theorem ofToken_isExtra (token : Token) :
    (ofToken table id token parseState).isExtra = false := rfl

end Made

end Subtree

end IncrementalLR
