import IncrementalLR.Proofs.Tree.CursorNodes

/-!
# The visible children of a node

Navigation never stops at a hidden subtree: the children of a node are its visible children,
a hidden child standing for the visible children it holds, all the way down
(`Subtree.visibleAt`, and `SyntaxNode.visibleChildren` of a node).
-/

namespace IncrementalLR

/-- Looking every index of a list up, in order, gives the list back. -/
theorem List.filterMap_range_getElem? {α : Type} :
    ∀ l : List α, (List.range l.length).filterMap (fun i => l[i]?) = l
  | [] => rfl
  | x :: xs => by
    rw [List.length_cons, List.range_succ_eq_map, List.filterMap_cons, List.filterMap_map]
    simp only [List.getElem?_cons_zero, Function.comp_def, List.getElem?_cons_succ]
    rw [List.filterMap_range_getElem? xs]

namespace Subtree

/-! ### Counts that agree with the children -/

/-- What a child adds to the count of visible children of its parent: itself when it is
    visible, else the visible children it holds. -/
def visibleShare (c : Subtree) : Nat := if c.isVisible then 1 else c.info.visibleChildCount

/-- What a child adds to the count of named children of its parent: itself when it is
    visible and named, nothing when it is visible and anonymous, else the named children
    it holds. -/
def namedShare (c : Subtree) : Nat :=
  if c.isVisible then (if c.isNamed then 1 else 0) else c.info.namedChildCount

/-- What a child adds to the count of visible descendants of its parent. -/
def descendantShare (c : Subtree) : Nat :=
  (if c.isVisible then 1 else 0) + c.info.visibleDescendantCount

/-- The counts a subtree's record keeps are what its children add up, at every subtree:
    the visible children, looking through hidden ones, the named ones among them, and the
    visible descendants. -/
inductive CountsAgree : Subtree → Prop
  | mk {i : NodeInfo} {cs : List Subtree} :
      i.visibleChildCount = (cs.map visibleShare).sum →
      i.namedChildCount = (cs.map namedShare).sum →
      i.visibleDescendantCount = (cs.map descendantShare).sum →
      (∀ c ∈ cs, CountsAgree c) → CountsAgree (.mk i cs)

namespace CountsAgree

variable {t : Subtree}

theorem visible (h : t.CountsAgree) :
    t.info.visibleChildCount = (t.children.map visibleShare).sum := by
  cases h with
  | mk hvisible _ _ _ => exact hvisible

theorem named (h : t.CountsAgree) : t.info.namedChildCount = (t.children.map namedShare).sum := by
  cases h with
  | mk _ hnamed _ _ => exact hnamed

theorem descendants (h : t.CountsAgree) :
    t.info.visibleDescendantCount = (t.children.map descendantShare).sum := by
  cases h with
  | mk _ _ hdesc _ => exact hdesc

theorem child (h : t.CountsAgree) {c : Subtree} (hc : c ∈ t.children) : c.CountsAgree := by
  cases h with
  | mk _ _ _ hcs => exact hcs c hc

end CountsAgree

/-- Every visible subtree without a name is a leaf. -/
inductive AnonymousLeaves : Subtree → Prop
  | mk {i : NodeInfo} {cs : List Subtree} : (i.visible = true → i.named = false → cs = []) →
      (∀ c ∈ cs, AnonymousLeaves c) → AnonymousLeaves (.mk i cs)

namespace AnonymousLeaves

variable {t : Subtree}

theorem leaf (h : t.AnonymousLeaves) (hvisible : t.isVisible = true) (hnamed : t.isNamed = false) :
    t.children = [] := by
  cases h with
  | mk hleaf _ => exact hleaf hvisible hnamed

theorem child (h : t.AnonymousLeaves) {c : Subtree} (hc : c ∈ t.children) : c.AnonymousLeaves := by
  cases h with
  | mk _ hcs => exact hcs c hc

end AnonymousLeaves

/-! ### The visible children -/

mutual
/-- The visible children of subtree `t` whose text starts at `position`, looking through
    hidden children, each at the position where its text starts. -/
def visibleAt : Subtree → Length → List SyntaxNode
  | .mk i cs, position => visibleAmong cs (position.retreat i.padding)

/-- The visible children among the subtrees `cs`, whose padding starts at `from_`,
    looking through hidden ones. -/
def visibleAmong : List Subtree → Length → List SyntaxNode
  | [], _ => []
  | c :: rest, from_ =>
    (if c.isVisible then [⟨c, from_.add c.padding⟩] else visibleAt c (from_.add c.padding)) ++
      visibleAmong rest ((from_.add c.padding).add c.size)
end

@[simp] theorem visibleAmong_nil (from_ : Length) : visibleAmong [] from_ = [] := by
  rw [visibleAmong]

theorem visibleAmong_cons (c : Subtree) (rest : List Subtree) (from_ : Length) :
    visibleAmong (c :: rest) from_ =
      (if c.isVisible then [⟨c, from_.add c.padding⟩] else visibleAt c (from_.add c.padding)) ++
        visibleAmong rest ((from_.add c.padding).add c.size) := by
  rw [visibleAmong]

theorem visibleAt_eq (t : Subtree) (position : Length) :
    t.visibleAt position = visibleAmong t.children (position.retreat t.padding) := by
  obtain ⟨i, cs⟩ := t
  rw [visibleAt]
  rfl

theorem visibleAt_of_children_nil {t : Subtree} (h : t.children = []) (position : Length) :
    t.visibleAt position = [] := by
  rw [visibleAt_eq, h, visibleAmong_nil]

mutual

/-- Where the counts agree, a subtree keeps the number of its visible children. -/
theorem length_visibleAt : ∀ (t : Subtree), t.CountsAgree → ∀ position : Length,
    (t.visibleAt position).length = t.info.visibleChildCount
  | .mk i cs, h, position => by
    rw [visibleAt, length_visibleAmong cs (fun c hc => h.child hc), h.visible]
    rfl

theorem length_visibleAmong : ∀ (cs : List Subtree), (∀ c ∈ cs, c.CountsAgree) →
    ∀ from_ : Length, (visibleAmong cs from_).length = (cs.map visibleShare).sum
  | [], _, _ => by simp
  | c :: rest, h, from_ => by
    have hc := length_visibleAt c (h c List.mem_cons_self) (from_.add c.padding)
    have hrest := length_visibleAmong rest (fun x hx => h x (List.mem_cons_of_mem c hx))
      ((from_.add c.padding).add c.size)
    rw [visibleAmong_cons, List.length_append, hrest, List.map_cons, List.sum_cons, visibleShare]
    split <;> simp_all

end

mutual

/-- Where the counts agree, a subtree keeps the number of named ones among its visible
    children. -/
theorem length_named_visibleAt : ∀ (t : Subtree), t.CountsAgree → ∀ position : Length,
    ((t.visibleAt position).filter (·.tree.isNamed)).length = t.info.namedChildCount
  | .mk i cs, h, position => by
    rw [visibleAt, length_named_visibleAmong cs (fun c hc => h.child hc), h.named]
    rfl

theorem length_named_visibleAmong : ∀ (cs : List Subtree), (∀ c ∈ cs, c.CountsAgree) →
    ∀ from_ : Length, ((visibleAmong cs from_).filter (·.tree.isNamed)).length =
      (cs.map namedShare).sum
  | [], _, _ => by simp
  | c :: rest, h, from_ => by
    have hc := length_named_visibleAt c (h c List.mem_cons_self) (from_.add c.padding)
    have hrest := length_named_visibleAmong rest (fun x hx => h x (List.mem_cons_of_mem c hx))
      ((from_.add c.padding).add c.size)
    rw [visibleAmong_cons, List.filter_append, List.length_append, hrest, List.map_cons,
      List.sum_cons, namedShare]
    by_cases hvisible : c.isVisible = true
    · by_cases hnamed : c.isNamed = true <;> simp [hvisible, hnamed]
    · simp [hvisible, hc]

end

end Subtree

open Subtree

/-! ### What the counted queries find -/

namespace SyntaxNode

/-- The visible children of a node, looking through hidden ones. -/
def visibleChildren (n : SyntaxNode) : List SyntaxNode := n.tree.visibleAt n.position

/-- The number of relevant children a node counts is the number of its visible children,
    or of the named ones among them. -/
theorem relevantCount_eq {t : Subtree} (h : t.CountsAgree) (position position' : Length)
    (anonymous : Bool) :
    (SyntaxNode.mk t position).relevantCount anonymous =
      if anonymous then (t.visibleAt position').length
      else ((t.visibleAt position').filter (·.tree.isNamed)).length := by
  unfold relevantCount
  split
  · -- a leaf counts nothing, and has no visible children
    rename_i hleaf
    have hnil : t.children = [] := List.length_eq_zero_iff.1 hleaf
    simp [visibleAt_of_children_nil hnil]
  · rw [length_visibleAt t h, length_named_visibleAt t h]

end SyntaxNode

mutual

/-- Looking a child up by its index among the visible children, where the counts agree,
    finds the visible child at that index. -/
theorem relevantChildOf_true : ∀ (t : Subtree), t.CountsAgree → ∀ (position : Length) (index : Nat),
    relevantChildOf true t position index = (t.visibleAt position)[index]?
  | .mk i cs, h, position, index => by
    rw [relevantChildOf, visibleAt]
    exact relevantChildAmong_true cs (fun c hc => h.child hc) _ index

theorem relevantChildAmong_true : ∀ (cs : List Subtree), (∀ c ∈ cs, c.CountsAgree) →
    ∀ (from_ : Length) (index : Nat),
    relevantChildAmong true cs from_ index = (visibleAmong cs from_)[index]?
  | [], _, _, _ => by simp [relevantChildAmong]
  | c :: rest, h, from_, index => by
    have hc := h c List.mem_cons_self
    have hrest : ∀ x ∈ rest, x.CountsAgree := fun x hx => h x (List.mem_cons_of_mem c hx)
    rw [relevantChildAmong, visibleAmong_cons]
    dsimp only
    by_cases hvisible : c.isVisible = true
    · -- a visible child is the next one
      have hrel : (SyntaxNode.mk c (from_.add c.padding)).isRelevant true = true := by
        simp [SyntaxNode.isRelevant, hvisible]
      rw [if_pos hrel, if_pos hvisible]
      cases index with
      | zero => rfl
      | succ k =>
        rw [if_neg (Nat.succ_ne_zero k), relevantChildAmong_true rest hrest, Nat.add_sub_cancel,
          List.singleton_append, List.getElem?_cons_succ]
    · -- a hidden child stands for the visible children it holds
      have hrel : (SyntaxNode.mk c (from_.add c.padding)).isRelevant true = false := by
        simp [SyntaxNode.isRelevant, hvisible]
      rw [if_neg (by simp [hrel]), if_neg hvisible,
        SyntaxNode.relevantCount_eq hc _ (from_.add c.padding), if_pos rfl]
      split
      · rename_i hlt
        rw [relevantChildOf_true c hc, List.getElem?_append_left hlt]
      · rename_i hge
        rw [relevantChildAmong_true rest hrest, List.getElem?_append_right (Nat.le_of_not_lt hge)]

end

mutual

/-- Looking a named child up by its index, where the counts agree and visible anonymous
    subtrees are leaves, finds the named visible child at that index. -/
theorem relevantChildOf_false : ∀ (t : Subtree), t.CountsAgree → t.AnonymousLeaves →
    ∀ (position : Length) (index : Nat),
    relevantChildOf false t position index = ((t.visibleAt position).filter (·.tree.isNamed))[index]?
  | .mk i cs, h, ha, position, index => by
    rw [relevantChildOf, visibleAt]
    exact relevantChildAmong_false cs (fun c hc => h.child hc) (fun c hc => ha.child hc) _ index

theorem relevantChildAmong_false : ∀ (cs : List Subtree), (∀ c ∈ cs, c.CountsAgree) →
    (∀ c ∈ cs, c.AnonymousLeaves) → ∀ (from_ : Length) (index : Nat),
    relevantChildAmong false cs from_ index = ((visibleAmong cs from_).filter (·.tree.isNamed))[index]?
  | [], _, _, _, _ => by simp [relevantChildAmong]
  | c :: rest, h, ha, from_, index => by
    have hc := h c List.mem_cons_self
    have hrest : ∀ x ∈ rest, x.CountsAgree := fun x hx => h x (List.mem_cons_of_mem c hx)
    have harest : ∀ x ∈ rest, x.AnonymousLeaves := fun x hx => ha x (List.mem_cons_of_mem c hx)
    rw [relevantChildAmong, visibleAmong_cons, List.filter_append]
    dsimp only
    by_cases hvisible : c.isVisible = true
    · by_cases hnamed : c.isNamed = true
      · -- a named visible child is the next one
        have hrel : (SyntaxNode.mk c (from_.add c.padding)).isRelevant false = true := by
          simp [SyntaxNode.isRelevant, hvisible, hnamed]
        rw [if_pos hrel, if_pos hvisible]
        cases index with
        | zero => simp [hnamed]
        | succ k =>
          rw [if_neg (Nat.succ_ne_zero k), relevantChildAmong_false rest hrest harest,
            Nat.add_sub_cancel]
          simp [hnamed]
      · -- a visible anonymous child is a leaf, so there is nothing to look into
        have hrel : (SyntaxNode.mk c (from_.add c.padding)).isRelevant false = false := by
          simp [SyntaxNode.isRelevant, hvisible, hnamed]
        have hleaf := (ha c List.mem_cons_self).leaf hvisible (by simpa using hnamed)
        have hcount : (SyntaxNode.mk c (from_.add c.padding)).relevantCount false = 0 := by
          simp [SyntaxNode.relevantCount, Subtree.childCount, hleaf]
        rw [if_neg (by simp [hrel]), if_pos hvisible, hcount, if_neg (Nat.not_lt_zero _),
          Nat.sub_zero, relevantChildAmong_false rest hrest harest]
        simp [hnamed]
    · -- a hidden child stands for the named visible children it holds
      have hrel : (SyntaxNode.mk c (from_.add c.padding)).isRelevant false = false := by
        simp [SyntaxNode.isRelevant, hvisible]
      rw [if_neg (by simp [hrel]), if_neg hvisible,
        SyntaxNode.relevantCount_eq hc _ (from_.add c.padding), if_neg Bool.false_ne_true]
      split
      · rename_i hlt
        rw [relevantChildOf_false c hc (ha c List.mem_cons_self), List.getElem?_append_left hlt]
      · rename_i hge
        rw [relevantChildAmong_false rest hrest harest,
          List.getElem?_append_right (Nat.le_of_not_lt hge)]

end

namespace SyntaxNode

variable {n : SyntaxNode}

/-- Where the counts agree, a node counts its visible children. -/
theorem childCount_eq (h : n.tree.CountsAgree) : n.childCount = n.visibleChildren.length := by
  rw [childCount, relevantCount_eq h n.position n.position, if_pos rfl]
  rfl

/-- Where the counts agree, a node counts the named ones among its visible children. -/
theorem namedChildCount_eq (h : n.tree.CountsAgree) :
    n.namedChildCount = (n.visibleChildren.filter (·.tree.isNamed)).length := by
  rw [namedChildCount, relevantCount_eq h n.position n.position, if_neg Bool.false_ne_true]
  rfl

/-- Where the counts agree, the child at an index is the visible child there. -/
theorem child_eq (h : n.tree.CountsAgree) (index : Nat) : n.child index = n.visibleChildren[index]? := by
  unfold child relevantChild visibleChildren
  split
  · rename_i hleaf
    rw [visibleAt_of_children_nil (List.length_eq_zero_iff.1 hleaf)]
    rfl
  · exact relevantChildOf_true n.tree h n.position index

/-- Where the counts agree and visible anonymous subtrees are leaves, the named child at an
    index is the named visible child there. -/
theorem namedChild_eq (h : n.tree.CountsAgree) (ha : n.tree.AnonymousLeaves) (index : Nat) :
    n.namedChild index = (n.visibleChildren.filter (·.tree.isNamed))[index]? := by
  unfold namedChild relevantChild visibleChildren
  split
  · rename_i hleaf
    rw [visibleAt_of_children_nil (List.length_eq_zero_iff.1 hleaf)]
    rfl
  · exact relevantChildOf_false n.tree h ha n.position index

/-- Where the counts agree, the children a node lists are its visible children. -/
theorem children_eq (h : n.tree.CountsAgree) : n.children = n.visibleChildren := by
  unfold children
  rw [childCount_eq h]
  simp only [child_eq h]
  exact List.filterMap_range_getElem? _

/-- Where the counts agree and visible anonymous subtrees are leaves, the named children a
    node lists are the named ones among its visible children. -/
theorem namedChildren_eq (h : n.tree.CountsAgree) (ha : n.tree.AnonymousLeaves) :
    n.namedChildren = n.visibleChildren.filter (·.tree.isNamed) := by
  unfold namedChildren
  rw [namedChildCount_eq h]
  simp only [namedChild_eq h ha]
  exact List.filterMap_range_getElem? _

end SyntaxNode

end IncrementalLR
