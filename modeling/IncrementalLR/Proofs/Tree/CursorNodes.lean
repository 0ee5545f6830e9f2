import IncrementalLR.Proofs.Tree.CursorFields
import IncrementalLR.Proofs.Tree.Placement

/-!
# The nodes a tree cursor stands on

A cursor works out the position of every entry it pushes the way `SyntaxNode.directChildren`
places a node's children: from where the parent's padding starts, each child after its own
padding and the texts of the children before it.
-/

namespace IncrementalLR

namespace CursorEntry

/-- The node an entry stands at. -/
def node (e : CursorEntry) : SyntaxNode := ⟨e.tree, e.position⟩

/-- The node of the entry on top of `path`, or `top` when the path is empty. -/
def nodeIn (top : SyntaxNode) (path : List CursorEntry) : SyntaxNode :=
  (path.head?.map node).getD top

@[simp] theorem nodeIn_nil (top : SyntaxNode) : nodeIn top [] = top := rfl

@[simp] theorem nodeIn_cons (top : SyntaxNode) (e : CursorEntry) (rest : List CursorEntry) :
    nodeIn top (e :: rest) = e.node := rfl

end CursorEntry

open CursorEntry

/-- Cursor entries below the node `top`, innermost first, each placed where the node above it
    places its children: from some `from_`, the entry and its later siblings end the direct
    children of the node above, and the entry stands after its padding. -/
inductive PlacedPath (top : SyntaxNode) : List CursorEntry → Prop
  | nil : PlacedPath top []
  | cons {e : CursorEntry} {rest : List CursorEntry} {from_ : Length} : PlacedPath top rest →
      SyntaxNode.placeChildren from_ (e.tree :: e.later) <:+ (nodeIn top rest).directChildren →
      e.position = from_.add e.tree.padding → PlacedPath top (e :: rest)

namespace PlacedPath

variable {top : SyntaxNode}

theorem tail {e : CursorEntry} {rest : List CursorEntry} (h : PlacedPath top (e :: rest)) :
    PlacedPath top rest := by
  cases h with
  | cons hrest _ _ => exact hrest

/-- Dropping entries from the inside of a placed path leaves a placed path. -/
theorem dropWhile (p : CursorEntry → Bool) :
    ∀ {path : List CursorEntry}, PlacedPath top path → PlacedPath top (path.dropWhile p)
  | [], h => h
  | e :: rest, h => by
    rw [List.dropWhile_cons]
    split
    · exact dropWhile p h.tail
    · exact h

/-- The entry on top of a placed path is a direct child of the node above it. -/
theorem mem_directChildren {e : CursorEntry} {rest : List CursorEntry}
    (h : PlacedPath top (e :: rest)) : ∃ stop, (e.node, stop) ∈ (nodeIn top rest).directChildren := by
  cases h with
  | @cons _ _ from_ _ hsuf hpos =>
    refine ⟨(from_.add e.tree.padding).add e.tree.size, hsuf.subset ?_⟩
    rw [SyntaxNode.placeChildren, node, hpos]
    exact List.mem_cons_self

/-- Below a node of a tree, the node on top of a placed path is a node of the tree. -/
theorem reached {root : Subtree} (htop : SyntaxNode.Reached root top) :
    ∀ {path : List CursorEntry}, PlacedPath top path → SyntaxNode.Reached root (nodeIn top path)
  | [], _ => htop
  | _ :: _, h => by
    obtain ⟨stop, hmem⟩ := h.mem_directChildren
    exact .direct (reached htop h.tail) hmem

/-- The later siblings placed after the first of `c :: cs` are a suffix too. -/
theorem suffix_tail {from_ : Length} {c : Subtree} {cs : List Subtree}
    {l : List (SyntaxNode × Length)} (h : SyntaxNode.placeChildren from_ (c :: cs) <:+ l) :
    SyntaxNode.placeChildren ((from_.add c.padding).add c.size) cs <:+ l :=
  (List.suffix_cons _ _).trans h

/-- The first later sibling a cursor stops at, among siblings placed at the end of the
    children of the node on top of `rest`, is placed on top of `rest`. -/
theorem stopAmong {rest : List CursorEntry} (hrest : PlacedPath top rest) {above : Nat}
    {fields : List FieldEntry} {inherited : Option Nat} :
    ∀ (cs : List Subtree) {from_ : Length} {index structural : Nat},
      SyntaxNode.placeChildren from_ cs <:+ (nodeIn top rest).directChildren →
      ∀ {next : CursorEntry} {visible : Bool},
        CursorEntry.stopAmong above fields inherited from_ index structural cs =
          some (next, visible) → PlacedPath top (next :: rest)
  | [], _, _, _, _, _, _, h => by simp [CursorEntry.stopAmong] at h
  | c :: cs, from_, index, structural, hsuf, next, visible, h => by
    rw [CursorEntry.stopAmong] at h
    split at h
    · cases h
      exact .cons hrest hsuf rfl
    · exact stopAmong hrest cs (suffix_tail hsuf) h

/-- The next sibling an entry stops at takes its place on the path: stepping back over
    the entry's padding and forward over all of it lands where its text ends. -/
theorem nextStop {e next : CursorEntry} {rest : List CursorEntry} {visible : Bool}
    (h : PlacedPath top (e :: rest)) (hnext : e.nextStop = some (next, visible)) :
    PlacedPath top (next :: rest) := by
  cases h with
  | @cons _ _ from_ hrest hsuf hpos =>
    unfold CursorEntry.nextStop at hnext
    have hfrom : ((e.position.retreat e.tree.padding).add e.tree.padding).add e.tree.size =
        (from_.add e.tree.padding).add e.tree.size := by
      rw [hpos, Length.retreat_add_cancel]
    rw [hfrom] at hnext
    exact hrest.stopAmong e.later (suffix_tail hsuf) hnext

/-- Climbing to a sibling gives a placed path. -/
theorem siblingStep : ∀ (isTop : Bool) {path path' : List CursorEntry} {visible : Bool},
    PlacedPath top path → TreeCursor.siblingStep isTop path = some (path', visible) →
      PlacedPath top path'
  | _, [], _, _, _, h => by simp [TreeCursor.siblingStep] at h
  | isTop, e :: rest, path', visible, hp, h => by
    rw [TreeCursor.siblingStep] at h
    split at h
    · cases h
    · split at h
      · rename_i next visible' hnext
        cases h
        exact hp.nextStop hnext
      · exact siblingStep false hp.tail h

mutual

/-- Descending into the node on top of a placed path gives a placed path. -/
theorem descendInto {table : ParseTable} : ∀ (t : Subtree) {path : List CursorEntry}
    {above : Nat} {inherited : Option Nat} {position : Length} {r : Bool × List CursorEntry},
    PlacedPath top path → nodeIn top path = ⟨t, position⟩ →
    IncrementalLR.descendInto table path above inherited t position = some r →
    PlacedPath top r.2
  | .mk i cs, path, above, inherited, position, r, hp, hn, h => by
    rw [IncrementalLR.descendInto] at h
    refine descendAmong cs hp ?_ h
    rw [hn]
    exact List.suffix_refl _

/-- Descending into the first child to stop at, among children placed at the end of the
    children of the node on top of a placed path, gives a placed path. -/
theorem descendAmong {table : ParseTable} : ∀ (cs : List Subtree) {path : List CursorEntry}
    {above : Nat} {fields : List FieldEntry} {inherited : Option Nat} {from_ : Length}
    {index structural : Nat} {r : Bool × List CursorEntry},
    PlacedPath top path → SyntaxNode.placeChildren from_ cs <:+ (nodeIn top path).directChildren →
    IncrementalLR.descendAmong table path above fields inherited from_ index structural cs =
      some r → PlacedPath top r.2
  | [], _, _, _, _, _, _, _, _, _, _, h => by simp [IncrementalLR.descendAmong] at h
  | c :: cs, path, above, fields, inherited, from_, index, structural, r, hp, hsuf, h => by
    rw [IncrementalLR.descendAmong] at h
    have hentry : PlacedPath top
        (⟨c, from_.add c.padding, index, structural, cs, above, fields, inherited⟩ :: path) :=
      .cons hp hsuf rfl
    split at h
    · cases h
      exact hentry
    · split at h
      · -- a hidden child with visible children: the descent goes on into it, or stops there
        cases h
        cases hd : IncrementalLR.descendInto table _ above _ c (from_.add c.padding) with
        | none => exact hentry
        | some r' => exact descendInto c hentry rfl hd
      · exact descendAmong cs hp (suffix_tail hsuf) h

end

end PlacedPath

namespace TreeCursor

/-- A cursor started at `top` whose path is placed below it. -/
def PlacedBelow (top : SyntaxNode) (c : TreeCursor) : Prop :=
  c.start.node = top ∧ PlacedPath top c.path

variable {top : SyntaxNode} {c : TreeCursor}

/-- A cursor stands on the node of the entry on top of its path, or on its start. -/
theorem node_eq_nodeIn (c : TreeCursor) : c.node = nodeIn c.start.node c.path := by
  rcases c with ⟨table, start, _ | ⟨e, rest⟩⟩ <;> rfl

theorem PlacedBelow.withPath (h : c.PlacedBelow top) {path : List CursorEntry}
    (hp : PlacedPath top path) : ({ c with path } : TreeCursor).PlacedBelow top :=
  ⟨h.1, hp⟩

theorem PlacedBelow.gotoFirstChild (h : c.PlacedBelow top) :
    c.gotoFirstChild.2.PlacedBelow top := by
  rw [gotoFirstChild_eq]
  split
  · rename_i visible path hd
    have hnode : nodeIn top c.path = ⟨c.current.tree, c.current.position⟩ := by
      rw [← h.1, ← node_eq_nodeIn]
      rfl
    exact h.withPath (h.2.descendInto _ hnode hd)
  · exact h

theorem PlacedBelow.gotoNextSibling (h : c.PlacedBelow top) :
    c.gotoNextSibling.2.PlacedBelow top := by
  unfold TreeCursor.gotoNextSibling
  split
  · rename_i path hstep
    exact h.withPath (PlacedPath.siblingStep true h.2 hstep)
  · rename_i path hstep
    exact (h.withPath (PlacedPath.siblingStep true h.2 hstep)).gotoFirstChild
  · exact h

theorem PlacedBelow.gotoParent (h : c.PlacedBelow top) {p : TreeCursor}
    (hp : c.gotoParent = some p) : p.PlacedBelow top := by
  unfold TreeCursor.gotoParent at hp
  split at hp
  · cases hp
  · rename_i e rest hpath
    cases hp
    have hrest : PlacedPath top rest := by
      have := h.2
      rw [hpath] at this
      exact this.tail
    exact h.withPath (hrest.dropWhile _)

/-- Every move keeps a cursor placed below its start. -/
theorem placedBelow_moves : Moves (PlacedBelow top) :=
  ⟨fun _ h => h.gotoFirstChild, fun _ h => h.gotoNextSibling, fun _ _ h hp => h.gotoParent hp⟩

/-- Moving to the first child past a byte is made of moves, so it keeps what they keep. -/
theorem Moves.gotoFirstChildForByte {P : TreeCursor → Prop} (hm : Moves P) (byte : Nat)
    {c : TreeCursor} (h : P c) : P (c.gotoFirstChildForByte byte).2 := by
  -- the scan over the children, on the number of siblings it may still step over
  have hscan : ∀ (fuel index : Nat) (c : TreeCursor), P c →
      P (gotoFirstChildForByte.scan byte fuel index c).2 := by
    intro fuel
    induction fuel with
    | zero => intro index c hc; exact hc
    | succ fuel ih =>
      intro index c hc
      rw [gotoFirstChildForByte.scan]
      split
      · exact hc
      · have hs := hm.nextSibling c hc
        split
        · rename_i c₁ hnext
          rw [hnext] at hs
          exact ih _ _ hs
        · rename_i c₁ hnext
          rw [hnext] at hs
          cases hpar : c₁.gotoParent with
          | none => exact hs
          | some p => exact hm.parent c₁ p hs hpar
  have hf := hm.firstChild c h
  unfold TreeCursor.gotoFirstChildForByte
  split
  · rename_i inside hfirst
    rw [hfirst] at hf
    exact hscan _ _ _ hf
  · rename_i c₁ hfirst
    rw [hfirst] at hf
    exact hf

/-- The cursors that moves reach from `c₀`: to the first child, to the next sibling, to
    the parent, and to the first child whose text ends past a byte. -/
inductive Reaches (c₀ : TreeCursor) : TreeCursor → Prop
  | start : Reaches c₀ c₀
  | firstChild {c : TreeCursor} : Reaches c₀ c → Reaches c₀ c.gotoFirstChild.2
  | nextSibling {c : TreeCursor} : Reaches c₀ c → Reaches c₀ c.gotoNextSibling.2
  | parent {c p : TreeCursor} : Reaches c₀ c → c.gotoParent = some p → Reaches c₀ p
  | firstChildForByte {c : TreeCursor} (byte : Nat) : Reaches c₀ c →
      Reaches c₀ (c.gotoFirstChildForByte byte).2

/-- What every move keeps holds of every cursor that moves reach. -/
theorem Moves.reaches {P : TreeCursor → Prop} (hm : Moves P) {c₀ c : TreeCursor} (h₀ : P c₀)
    (h : c₀.Reaches c) : P c := by
  induction h with
  | start => exact h₀
  | firstChild _ ih => exact hm.firstChild _ ih
  | nextSibling _ ih => exact hm.nextSibling _ ih
  | parent _ hp ih => exact hm.parent _ _ ih hp
  | firstChildForByte byte _ ih => exact hm.gotoFirstChildForByte byte ih

/-- A cursor started at a node of a tree stands, after any moves, on a node of the tree. -/
theorem Reaches.reached {root : Subtree} {n : SyntaxNode} {table : ParseTable} {c : TreeCursor}
    (hn : SyntaxNode.Reached root n) (hc : (n.walk table).Reaches c) :
    SyntaxNode.Reached root c.node := by
  have hstart : (n.walk table).PlacedBelow n := ⟨rfl, .nil⟩
  obtain ⟨htop, hpath⟩ := placedBelow_moves.reaches hstart hc
  rw [node_eq_nodeIn, htop]
  exact hpath.reached hn

/-- On a tree that tiles a text, every node a cursor started at a node of the tree stands
    on, after any moves, starts and ends at the lengths of the text before it. -/
theorem Reaches.sits {Y : List UInt8} {root : Subtree} {n : SyntaxNode} {table : ParseTable}
    {c : TreeCursor} (h : root.Tiles Y) (hn : SyntaxNode.Reached root n)
    (hc : (n.walk table).Reaches c) : SyntaxNode.Sits Y c.node :=
  (hc.reached hn).sits h

end TreeCursor

end IncrementalLR
