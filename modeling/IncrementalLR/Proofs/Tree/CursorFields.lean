import IncrementalLR.Tree.Cursor

/-!
# The field a cursor reports

A cursor keeps in each entry of its path its parent's field map, its position among its
parent's children that are not extras, and the field that the hidden entries above it pass
down, and reads the field of the current node off its own entry.
-/

namespace IncrementalLR

/-- The field that the field map of `production` gives the child at position `k` among
    the children that are not extras. -/
def ParseTable.childFieldId (t : ParseTable) (production k : Nat) : Option Nat :=
  ((t.fieldMap production).find? (·.child == k)).map (·.field)

namespace Subtree

/-- The number of children before child `i` that are not extras: the position of child
    `i` in the production its parent spells. -/
def structuralIndex (x : Subtree) (i : Nat) : Nat :=
  ((x.children.take i).filter fun c => !c.isExtra).length

/-- The subtree that the child indices `address` lead to from `x`. -/
def nodeAt : Subtree → List Nat → Option Subtree
  | x, [] => some x
  | x, i :: address => x.children[i]?.bind (nodeAt · address)

/-- The subtrees on the way down from `x` along the child indices `address`, innermost
    first, each with the label `label` gives it from its parent and its position among
    the parent's children that are not extras. -/
def labelsAlong {α : Type} (label : Subtree → Nat → Option α) :
    Subtree → List Nat → List (Subtree × Option α)
  | _, [] => []
  | x, i :: address =>
    match x.children[i]? with
    | some c => labelsAlong label c address ++ [(c, label x (x.structuralIndex i))]
    | none => []

end Subtree

/-- The label that the innermost subtree of a chain fills, the chain innermost first:
    none for an extra; else the first label among it and the hidden ancestors above it, up
    to the nearest one that is visible or an extra. -/
def innermostLabel {α : Type} : List (Subtree × Option α) → Option α
  | [] => none
  | (x, l) :: up =>
    if x.isExtra then none
    else ((x, l) :: up.takeWhile fun a => !a.1.isVisible && !a.1.isExtra).findSome? (·.2)

/-- The child indices that lead from a cursor's start to its current node. -/
def TreeCursor.address (c : TreeCursor) : List Nat := (c.path.map (·.childIndex)).reverse

/-! ### The cursor's path -/

/-- The tree whose children the entries on top of `path` are, below `top`. -/
def CursorEntry.parentIn (top : Subtree) (path : List CursorEntry) : Subtree :=
  (path.head?.map (·.tree)).getD top

/-- A path of cursor entries below `top`, innermost first: each entry holds a child of the
    entry above it, or of `top`, with its later siblings after it, numbered by index and
    by position among the children that are not extras, and keeps its parent's field map
    and the field that the entries above pass down. -/
inductive CursorPath (table : ParseTable) (top : Subtree) : List CursorEntry → Prop
  | nil : CursorPath table top []
  | cons {e : CursorEntry} {rest : List CursorEntry} {earlier : List Subtree} :
      CursorPath table top rest →
      (CursorEntry.parentIn top rest).children = earlier ++ e.tree :: e.later →
      e.childIndex = earlier.length →
      e.structuralIndex = (earlier.filter fun c => !c.isExtra).length →
      e.siblingFields = table.fieldMap (CursorEntry.parentIn top rest).production →
      e.inherited = rest.head?.bind CursorEntry.passedDown →
      CursorPath table top (e :: rest)

namespace CursorPath

variable {table : ParseTable} {top : Subtree}

theorem tail {e : CursorEntry} {rest : List CursorEntry} (h : CursorPath table top (e :: rest)) :
    CursorPath table top rest := by
  cases h with
  | cons hrest _ _ _ _ _ => exact hrest

/-- Dropping entries from the inside of a path leaves a path. -/
theorem dropWhile (p : CursorEntry → Bool) :
    ∀ {path : List CursorEntry}, CursorPath table top path → CursorPath table top (path.dropWhile p)
  | [], h => h
  | e :: rest, h => by
    rw [List.dropWhile_cons]
    split
    · exact dropWhile p h.tail
    · exact h

/-- The first later sibling to stop at, after the children `earlier` of the parent of
    the entries on top of `rest`, is an entry on top of `rest`. -/
theorem stopAmong {rest : List CursorEntry} (hrest : CursorPath table top rest) {above : Nat}
    {from_ : Length} :
    ∀ (cs : List Subtree) (index structural : Nat) (earlier : List Subtree),
      (CursorEntry.parentIn top rest).children = earlier ++ cs → index = earlier.length →
      structural = (earlier.filter fun c => !c.isExtra).length →
      ∀ {next : CursorEntry} {visible : Bool},
        CursorEntry.stopAmong above (table.fieldMap (CursorEntry.parentIn top rest).production)
          (rest.head?.bind CursorEntry.passedDown) from_ index structural cs =
          some (next, visible) →
        CursorPath table top (next :: rest)
  | [], _, _, _, _, _, _, _, _, h => by
    simp [CursorEntry.stopAmong] at h
  | c :: cs, index, structural, earlier, hcs, hindex, hstructural, next, visible, h => by
    rw [CursorEntry.stopAmong] at h
    split at h
    · cases h
      exact .cons hrest hcs hindex hstructural rfl rfl
    · -- the child holds nothing to stop at: the search goes on after it
      refine stopAmong hrest cs (index + 1) _ (earlier ++ [c]) (by rw [hcs, List.append_assoc]; rfl)
        (by simp [hindex]) ?_ h
      cases hc : c.isExtra <;> simp [hstructural, hc]

/-- The next sibling an entry stops at takes its place on the path. -/
theorem nextStop {e next : CursorEntry} {rest : List CursorEntry} {visible : Bool}
    (h : CursorPath table top (e :: rest)) (hnext : e.nextStop = some (next, visible)) :
    CursorPath table top (next :: rest) := by
  cases h with
  | @cons _ _ earlier hrest hchildren hindex hstructural hfields hinherited =>
    unfold CursorEntry.nextStop at hnext
    rw [hfields, hinherited] at hnext
    refine stopAmong hrest e.later _ _ (earlier ++ [e.tree]) (by rw [hchildren]; simp)
      (by simp [hindex]) ?_ hnext
    cases hx : e.tree.isExtra <;> simp [hstructural, hx]

/-- Climbing to a sibling gives a path. -/
theorem siblingStep : ∀ (isTop : Bool) {path path' : List CursorEntry} {visible : Bool},
    CursorPath table top path → TreeCursor.siblingStep isTop path = some (path', visible) →
      CursorPath table top path'
  | _, [], _, _, _, h => by simp [TreeCursor.siblingStep] at h
  | isTop, e :: rest, path', visible, hp, h => by
    rw [TreeCursor.siblingStep] at h
    split at h
    · cases h
    · split at h
      · rename_i next visible' hnext
        cases h
        exact hp.nextStop hnext
      · exact siblingStep false hp.tail h

mutual

/-- Descending into the tree on top of a path gives a path. -/
theorem descendInto : ∀ (t : Subtree) {path : List CursorEntry} (above : Nat) (position : Length)
    {r : Bool × List CursorEntry},
    CursorPath table top path → CursorEntry.parentIn top path = t →
    descendInto table path above (path.head?.bind CursorEntry.passedDown) t position = some r →
    CursorPath table top r.2
  | .mk i cs, path, above, position, r, hp, ht, h => by
    rw [IncrementalLR.descendInto] at h
    have hfields : table.fieldMap i.production =
        table.fieldMap (CursorEntry.parentIn top path).production := by
      rw [ht]
      rfl
    rw [hfields] at h
    exact descendAmong cs 0 0 [] hp (by rw [ht]; rfl) rfl rfl h

/-- Descending into the first of the remaining children `cs` of the tree on top of a path,
    after the children `earlier`, gives a path. -/
theorem descendAmong : ∀ (cs : List Subtree) {path : List CursorEntry} {above : Nat} {from_ : Length}
    (index structural : Nat) (earlier : List Subtree) {r : Bool × List CursorEntry},
    CursorPath table top path →
    (CursorEntry.parentIn top path).children = earlier ++ cs → index = earlier.length →
    structural = (earlier.filter fun c => !c.isExtra).length →
    IncrementalLR.descendAmong table path above
        (table.fieldMap (CursorEntry.parentIn top path).production)
        (path.head?.bind CursorEntry.passedDown) from_ index structural cs = some r →
      CursorPath table top r.2
  | [], _, _, _, _, _, _, _, _, _, _, _, h => by
    simp [IncrementalLR.descendAmong] at h
  | c :: cs, path, above, from_, index, structural, earlier, r, hp, hcs, hindex, hstructural, h => by
    rw [IncrementalLR.descendAmong] at h
    have hentry : CursorPath table top
        (⟨c, from_.add c.padding, index, structural, cs, above,
          table.fieldMap (CursorEntry.parentIn top path).production,
          path.head?.bind CursorEntry.passedDown⟩ :: path) :=
      .cons hp hcs hindex hstructural rfl rfl
    split at h
    · cases h
      exact hentry
    · split at h
      · -- a hidden child with visible children: the descent goes on into it
        cases h
        cases hd : IncrementalLR.descendInto table _ above _ c (from_.add c.padding) with
        | none => exact hentry
        | some r' => exact descendInto c above _ hentry rfl hd
      · refine descendAmong cs (index + 1) _ (earlier ++ [c]) hp
          (by rw [hcs, List.append_assoc]; rfl) (by simp [hindex]) ?_ h
        cases hc : c.isExtra <;> simp [hstructural, hc]

end

end CursorPath

/-! ### Moves -/

namespace TreeCursor

/-- A cursor below `top`: it starts at `top`, and its path is a path below it. -/
def Below (table : ParseTable) (top : Subtree) (c : TreeCursor) : Prop :=
  c.table = table ∧ c.start.tree = top ∧ CursorPath table top c.path

variable {table : ParseTable} {top : Subtree} {c : TreeCursor}

theorem current_tree (h : c.Below table top) : c.current.tree = CursorEntry.parentIn top c.path := by
  unfold current CursorEntry.parentIn
  cases c.path <;> simp [h.2.1]

theorem Below.withPath (h : c.Below table top) {path : List CursorEntry}
    (hp : CursorPath table top path) : ({ c with path } : TreeCursor).Below table top :=
  ⟨h.1, h.2.1, hp⟩

/-- The field a cursor passes down to the children it descends to. -/
theorem gotoFirstChild_eq (c : TreeCursor) :
    c.gotoFirstChild =
      match descendInto c.table c.path c.depth (c.path.head?.bind CursorEntry.passedDown)
          c.current.tree c.current.position with
      | some (visible, path) => (visible, { c with path })
      | none => (false, c) := by
  rcases c with ⟨table, start, _ | ⟨e, rest⟩⟩ <;> rfl

theorem Below.gotoFirstChild (h : c.Below table top) : c.gotoFirstChild.2.Below table top := by
  rw [gotoFirstChild_eq]
  split
  · rename_i visible path hd
    rw [h.1] at hd
    exact h.withPath (CursorPath.descendInto _ _ _ h.2.2 (current_tree h).symm hd)
  · exact h

theorem Below.gotoNextSibling (h : c.Below table top) : c.gotoNextSibling.2.Below table top := by
  unfold TreeCursor.gotoNextSibling
  split
  · rename_i path hs
    exact h.withPath (CursorPath.siblingStep true h.2.2 hs)
  · rename_i path hs
    exact (h.withPath (CursorPath.siblingStep true h.2.2 hs)).gotoFirstChild
  · exact h

theorem Below.gotoParent (h : c.Below table top) {p : TreeCursor} (hp : c.gotoParent = some p) :
    p.Below table top := by
  unfold TreeCursor.gotoParent at hp
  split at hp
  · cases hp
  · rename_i e rest hpath
    cases hp
    have hrest : CursorPath table top rest := by
      have := h.2.2
      rw [hpath] at this
      exact this.tail
    exact h.withPath (hrest.dropWhile _)

/-- A property of cursors that every move keeps: to the first child, to the next
    sibling and to the parent. -/
structure Moves (P : TreeCursor → Prop) : Prop where
  firstChild : ∀ c, P c → P c.gotoFirstChild.2
  nextSibling : ∀ c, P c → P c.gotoNextSibling.2
  parent : ∀ c p, P c → c.gotoParent = some p → P p

namespace Moves

variable {P : TreeCursor → Prop}

theorem climbToSibling (hm : Moves P) : ∀ (fuel : Nat) {c c' : TreeCursor}, P c →
    c.climbToSibling fuel = some c' → P c'
  | 0, _, _, _, hc => by simp [TreeCursor.climbToSibling] at hc
  | fuel + 1, c, c', h, hc => by
    rw [TreeCursor.climbToSibling] at hc
    split at hc
    · cases hc
    · rename_i p hp
      have hs := hm.nextSibling p (hm.parent c p h hp)
      split at hc
      · rename_i c₁ hnext
        cases hc
        rw [hnext] at hs
        exact hs
      · rename_i c₁ hnext
        rw [hnext] at hs
        exact climbToSibling hm fuel hs hc

theorem nextInOrder (hm : Moves P) (bound : Nat) {c c' : TreeCursor} (h : P c)
    (hc : c.nextInOrder bound = some c') : P c' := by
  unfold TreeCursor.nextInOrder at hc
  have hf := hm.firstChild c h
  split at hc
  · rename_i c₁ hfirst
    cases hc
    rw [hfirst] at hf
    exact hf
  · rename_i c₁ hfirst
    rw [hfirst] at hf
    have hs := hm.nextSibling c₁ hf
    split at hc
    · rename_i c₂ hnext
      cases hc
      rw [hnext] at hs
      exact hs
    · rename_i c₂ hnext
      rw [hnext] at hs
      exact hm.climbToSibling bound hs hc

/-- What every move keeps holds of every cursor of a walk. -/
theorem walkFrom (hm : Moves P) (bound : Nat) :
    ∀ (fuel : Nat) {c : TreeCursor}, P c → ∀ c' ∈ c.walkFrom bound fuel, P c'
  | 0, _, _, _, hc => by simp [TreeCursor.walkFrom] at hc
  | fuel + 1, c, h, c', hc => by
    rw [TreeCursor.walkFrom, List.mem_cons] at hc
    rcases hc with rfl | hc
    · exact h
    · split at hc
      · rename_i next hnext
        exact walkFrom hm bound fuel (hm.nextInOrder bound h hnext) c' hc
      · cases hc

end Moves

/-- Every move keeps a cursor below `top`. -/
theorem below_moves : Moves (Below table top) :=
  ⟨fun _ h => h.gotoFirstChild, fun _ h => h.gotoNextSibling, fun _ _ h hp => h.gotoParent hp⟩

end TreeCursor

/-! ### Reading the field off the path -/

namespace CursorPath

variable {table : ParseTable} {top : Subtree}

theorem nodeAt_append (x : Subtree) (i : Nat) :
    ∀ address : List Nat, x.nodeAt (address ++ [i]) = (x.nodeAt address).bind (·.children[i]?)
  | [] => by simp [Subtree.nodeAt]
  | j :: address => by
    simp only [List.cons_append, Subtree.nodeAt]
    cases x.children[j]? with
    | none => rfl
    | some y => exact nodeAt_append y i address

theorem labelsAlong_append {α : Type} (label : Subtree → Nat → Option α) (i : Nat) :
    ∀ (x : Subtree) (address : List Nat) {y c : Subtree}, x.nodeAt address = some y →
      y.children[i]? = some c →
      x.labelsAlong label (address ++ [i]) = (c, label y (y.structuralIndex i)) :: x.labelsAlong label address
  | x, [], y, c, hy, hc => by
    simp only [Subtree.nodeAt, Option.some.injEq] at hy
    subst hy
    simp [Subtree.labelsAlong, hc]
  | x, j :: address, y, c, hy, hc => by
    simp only [Subtree.nodeAt] at hy
    simp only [List.cons_append, Subtree.labelsAlong]
    cases hj : x.children[j]? with
    | none => simp [hj] at hy
    | some z =>
      rw [hj, Option.bind_some] at hy
      simp only
      rw [labelsAlong_append label i z address hy hc, List.cons_append]

/-- An entry's own field is its parent's label for it. -/
def entryLabels (path : List CursorEntry) : List (Subtree × Option Nat) :=
  path.map fun e => (e.tree, e.ownField)

/-- The path holds the subtrees its child indices lead to, with their parents' labels. -/
theorem labels (h : CursorPath table top path) :
    top.nodeAt (path.map (·.childIndex)).reverse = some (CursorEntry.parentIn top path) ∧
      top.labelsAlong (fun x k => table.childFieldId x.production k) (path.map (·.childIndex)).reverse =
        entryLabels path := by
  induction h with
  | nil => exact ⟨rfl, rfl⟩
  | @cons e rest earlier hrest hchildren hindex hstructural hfields _ ih =>
    have hchild : (CursorEntry.parentIn top rest).children[e.childIndex]? = some e.tree := by
      rw [hchildren, hindex]
      simp
    have hk : (CursorEntry.parentIn top rest).structuralIndex e.childIndex = e.structuralIndex := by
      rw [Subtree.structuralIndex, hchildren, hindex, hstructural, List.take_left]
    refine ⟨?_, ?_⟩
    · rw [List.map_cons, List.reverse_cons, nodeAt_append, ih.1, Option.bind_some, hchild]
      rfl
    · rw [List.map_cons, List.reverse_cons, labelsAlong_append _ _ _ _ ih.1 hchild, ih.2, hk]
      simp [entryLabels, ParseTable.childFieldId, CursorEntry.ownField, hfields]

theorem findSome?_labels_cons {α : Type} (x : Subtree) (l : Option α) (up : List (Subtree × Option α)) :
    ((x, l) :: up).findSome? (·.2) = (l <|> up.findSome? (·.2)) := by
  cases l <;> simp

/-- What the entries above an entry pass down is the first label among its hidden
    ancestors, up to the nearest visible one or extra. -/
theorem inherited (h : CursorPath table top (e :: rest)) :
    e.inherited = ((entryLabels rest).takeWhile fun a => !a.1.isVisible && !a.1.isExtra).findSome? (·.2) := by
  induction rest generalizing e with
  | nil =>
    cases h with
    | cons _ _ _ _ _ hinherited => simp [hinherited, entryLabels]
  | cons p rest ih =>
    cases h with
    | cons hrest _ _ _ _ hinherited =>
      rw [hinherited, List.head?_cons, Option.bind_some, CursorEntry.passedDown, ih hrest]
      simp only [entryLabels, List.map_cons, List.takeWhile_cons]
      cases hv : p.tree.isVisible <;> cases hx : p.tree.isExtra <;>
        simp [findSome?_labels_cons]

/-- A cursor on a path reports the innermost label on the chain above its node. -/
theorem fieldId (h : CursorPath table top path) (start : CursorEntry) :
    (⟨table, start, path⟩ : TreeCursor).fieldId? = innermostLabel (entryLabels path) := by
  cases path with
  | nil => rfl
  | cons e rest =>
    simp only [TreeCursor.fieldId?, entryLabels, List.map_cons, innermostLabel]
    split
    · rfl
    · rw [findSome?_labels_cons, h.inherited]
      rfl

end CursorPath

/-- Every cursor of a pre-order walk from a node stands at the subtree its child indices
    lead to and reports the innermost label on the chain above it, each subtree labelled
    by its parent's field map at its position among the children that are not extras. -/
theorem SyntaxNode.walkAll_fieldId (n : SyntaxNode) (table : ParseTable) :
    ∀ c ∈ n.walkAll table, n.tree.nodeAt c.address = some c.node.tree ∧
      c.fieldId? = innermostLabel
        (n.tree.labelsAlong (fun x k => table.childFieldId x.production k) c.address) := by
  intro c hc
  have hstart : (n.walk table).Below table n.tree := ⟨rfl, rfl, .nil⟩
  obtain ⟨htable, hstart', hpath⟩ := TreeCursor.below_moves.walkFrom _ _ hstart c hc
  obtain ⟨hnode, hlabels⟩ := hpath.labels
  refine ⟨?_, ?_⟩
  · rw [TreeCursor.address, hnode, TreeCursor.node, TreeCursor.current_tree ⟨htable, hstart', hpath⟩]
  · rw [TreeCursor.address, hlabels, ← hpath.fieldId c.start, ← htable]

end IncrementalLR
