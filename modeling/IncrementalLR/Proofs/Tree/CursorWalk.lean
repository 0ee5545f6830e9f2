import IncrementalLR.Proofs.Tree.CursorChildren

/-!
# The pre-order walk of a tree

A cursor that moves to the first child, else to the next sibling, else climbs to the nearest
ancestor that has a next sibling, visits a node and then the visible nodes below it in pre-
order, looking through hidden ones (`SyntaxNode.visibleDescendants`).
-/

namespace IncrementalLR

open Subtree CursorEntry

namespace Subtree

mutual
/-- The visible nodes below subtree `t` whose text starts at `position`, in pre-order,
    looking through hidden ones. -/
def visibleBelow : Subtree → Length → List SyntaxNode
  | .mk i cs, position => visibleBelowAmong cs (position.retreat i.padding)

/-- The visible nodes among and below the subtrees `cs`, whose padding starts at `from_`,
    in pre-order. -/
def visibleBelowAmong : List Subtree → Length → List SyntaxNode
  | [], _ => []
  | c :: rest, from_ =>
    (if c.isVisible then ⟨c, from_.add c.padding⟩ :: visibleBelow c (from_.add c.padding)
      else visibleBelow c (from_.add c.padding)) ++
      visibleBelowAmong rest ((from_.add c.padding).add c.size)
end

theorem visibleBelowAmong_cons (c : Subtree) (rest : List Subtree) (from_ : Length) :
    visibleBelowAmong (c :: rest) from_ =
      (if c.isVisible then ⟨c, from_.add c.padding⟩ :: visibleBelow c (from_.add c.padding)
        else visibleBelow c (from_.add c.padding)) ++
        visibleBelowAmong rest ((from_.add c.padding).add c.size) := by
  rw [visibleBelowAmong]

end Subtree

namespace SyntaxNode

/-- The visible nodes below a node, in pre-order, looking through hidden ones. -/
def visibleDescendants (n : SyntaxNode) : List SyntaxNode := n.tree.visibleBelow n.position

/-- A node followed by its visible descendants. -/
def withDescendants (n : SyntaxNode) : List SyntaxNode := n :: n.visibleDescendants

end SyntaxNode

namespace Subtree

mutual

/-- The visible nodes below a subtree are its visible children, each followed by its own. -/
theorem visibleBelow_eq_flatMap : ∀ (t : Subtree) (position : Length),
    t.visibleBelow position = (t.visibleAt position).flatMap SyntaxNode.withDescendants
  | .mk i cs, position => by
    rw [visibleBelow, visibleAt]
    exact visibleBelowAmong_eq_flatMap cs _

theorem visibleBelowAmong_eq_flatMap : ∀ (cs : List Subtree) (from_ : Length),
    visibleBelowAmong cs from_ = (visibleAmong cs from_).flatMap SyntaxNode.withDescendants
  | [], _ => by simp [visibleBelowAmong]
  | c :: rest, from_ => by
    rw [visibleBelowAmong_cons, visibleAmong_cons, List.flatMap_append,
      visibleBelowAmong_eq_flatMap rest]
    split
    · rw [List.flatMap_cons, List.flatMap_nil, List.append_nil]
      rfl
    · rw [visibleBelow_eq_flatMap c]

end

mutual

/-- Where the counts agree, a subtree keeps the number of its visible descendants. -/
theorem length_visibleBelow : ∀ (t : Subtree), t.CountsAgree → ∀ position : Length,
    (t.visibleBelow position).length = t.info.visibleDescendantCount
  | .mk i cs, h, position => by
    rw [visibleBelow, length_visibleBelowAmong cs (fun c hc => h.child hc), h.descendants]
    rfl

theorem length_visibleBelowAmong : ∀ (cs : List Subtree), (∀ c ∈ cs, c.CountsAgree) →
    ∀ from_ : Length, (visibleBelowAmong cs from_).length = (cs.map descendantShare).sum
  | [], _, _ => by simp [visibleBelowAmong]
  | c :: rest, h, from_ => by
    have hc := length_visibleBelow c (h c List.mem_cons_self) (from_.add c.padding)
    have hrest := length_visibleBelowAmong rest (fun x hx => h x (List.mem_cons_of_mem c hx))
      ((from_.add c.padding).add c.size)
    rw [visibleBelowAmong_cons, List.length_append, hrest, List.map_cons, List.sum_cons,
      descendantShare]
    split
    · rw [List.length_cons, hc]
      omega
    · rw [hc]
      omega

end

mutual

/-- A subtree has fewer visible descendants than nodes. -/
theorem length_visibleBelow_lt : ∀ (t : Subtree) (position : Length),
    (t.visibleBelow position).length < t.nodeCount
  | .mk i cs, position => by
    rw [visibleBelow, nodeCount]
    have := length_visibleBelowAmong_le cs (position.retreat i.padding)
    omega

theorem length_visibleBelowAmong_le : ∀ (cs : List Subtree) (from_ : Length),
    (visibleBelowAmong cs from_).length ≤ nodeCountList cs
  | [], _ => by simp [visibleBelowAmong, nodeCountList]
  | c :: rest, from_ => by
    have hc := length_visibleBelow_lt c (from_.add c.padding)
    have hrest := length_visibleBelowAmong_le rest ((from_.add c.padding).add c.size)
    rw [visibleBelowAmong_cons, List.length_append, nodeCountList]
    split
    · rw [List.length_cons]
      omega
    · omega

end

/-- A child has fewer nodes than its parent. -/
theorem nodeCount_lt_of_mem {t c : Subtree} (hc : c ∈ t.children) : c.nodeCount < t.nodeCount := by
  have hle : ∀ {cs : List Subtree}, c ∈ cs → c.nodeCount ≤ nodeCountList cs := by
    intro cs hcs
    induction cs with
    | nil => cases hcs
    | cons d rest ih =>
      rw [nodeCountList]
      rcases List.mem_cons.1 hcs with rfl | hrest
      · omega
      · have := ih hrest
        omega
  rw [ReuseCursor.nodeCount_eq t]
  have := hle hc
  omega

end Subtree

/-- The entries of a path below `top` are nested subtrees of it, so there are fewer of them
    than `top` has nodes. -/
theorem CursorPath.length_add_nodeCount {table : ParseTable} {top : Subtree} {path : List CursorEntry}
    (h : CursorPath table top path) :
    path.length + (CursorEntry.parentIn top path).nodeCount ≤ top.nodeCount := by
  induction h with
  | nil => simp [CursorEntry.parentIn]
  | @cons e rest earlier _ hchildren _ _ _ _ ih =>
    have hlt : e.tree.nodeCount < (CursorEntry.parentIn top rest).nodeCount :=
      nodeCount_lt_of_mem (by rw [hchildren]; simp)
    change rest.length + 1 + e.tree.nodeCount ≤ top.nodeCount
    omega

/-- Dropping hidden entries from hidden entries over a capped rest leaves the rest. -/
theorem dropWhile_hidden {base : List CursorEntry} (hbase : Capped base) :
    ∀ {new : List CursorEntry}, (∀ x ∈ new, x.tree.isVisible = false) →
      (new ++ base).dropWhile (fun e => !e.tree.isVisible) = base
  | [], _ => by
    cases base with
    | nil => rfl
    | cons b rest => rw [List.nil_append, List.dropWhile_cons, if_neg (by simp [hbase b rfl])]
  | x :: new, h => by
    rw [List.cons_append, List.dropWhile_cons, if_pos (by simp [h x List.mem_cons_self])]
    exact dropWhile_hidden hbase fun y hy => h y (List.mem_cons_of_mem x hy)

namespace TreeCursor

variable {c : TreeCursor}

/-- Away from its start, a settled cursor stands at a visible entry over hidden entries and
    a capped rest, with counts that agree along all of them. -/
theorem Settled.exists_split (h : c.Settled) {e : CursorEntry} {rest : List CursorEntry}
    (hpath : c.path = e :: rest) :
    ∃ new base, c.path = e :: new ++ base ∧ e.tree.isVisible = true ∧
      (∀ x ∈ new, x.tree.isVisible = false) ∧ Capped base ∧ (∀ x ∈ e :: new, x.Agrees) ∧
      ∀ x ∈ base, x.Agrees := by
  have hall : ∀ x ∈ e :: rest, x.Agrees := hpath ▸ h.2.1
  refine ⟨rest.takeWhile (fun x => !x.tree.isVisible), rest.dropWhile (fun x => !x.tree.isVisible),
    hpath.trans (split_hidden e rest), h.2.2 e (by rw [hpath]; rfl),
    fun x hx => by simpa using List.mem_takeWhile_imp hx, capped_dropWhile rest,
    fun x hx => hall x ((List.cons_subset_cons e (List.takeWhile_sublist _).subset) hx),
    fun x hx => hall x (List.mem_cons_of_mem e ((List.dropWhile_sublist _).subset hx))⟩

/-- From the top of hidden entries over a capped rest, the parent is the rest's top. -/
theorem gotoParent_eq {e : CursorEntry} {new base : List CursorEntry}
    (hpath : c.path = e :: new ++ base) (hhidden : ∀ x ∈ new, x.tree.isVisible = false)
    (hbase : Capped base) : c.gotoParent = some { c with path := base } := by
  unfold TreeCursor.gotoParent
  rw [hpath, List.cons_append]
  dsimp only
  rw [dropWhile_hidden hbase hhidden]

/-- What a walk has left to visit after the cursor's node: the visible nodes below it, then,
    for each entry of the path, the visible children among its later siblings, each followed
    by what lies below it. -/
def ahead (c : TreeCursor) : List SyntaxNode :=
  c.node.visibleDescendants ++ (pendingVisible c.path).flatMap SyntaxNode.withDescendants

/-- A cursor that lands at a visible entry, with `pending` the visible children it lands
    among, stands first in what they and the rest of the path leave to visit. -/
theorem ahead_of_stopsAt {e : CursorEntry} {new base : List CursorEntry} {pending : List SyntaxNode}
    (h : StopsAt e new pending) (he : e.tree.isVisible = true) (hpath : c.path = e :: new ++ base) :
    pending.flatMap SyntaxNode.withDescendants ++
      (pendingVisible base).flatMap SyntaxNode.withDescendants = c.node :: c.ahead := by
  have hnode : c.node = e.node := by
    rw [node_eq_nodeIn, hpath]
    rfl
  rw [h.eq_cons he, ahead, hnode, hpath, pendingVisible_append, List.flatMap_append,
    List.flatMap_cons]
  simp [SyntaxNode.withDescendants]

/-- Climbing from a visible entry whose later siblings, and those of the hidden entries
    below it, hold nothing visible, lands on the first visible node the rest of the path
    leaves to visit, or finds none when it leaves none. Each climb drops the top entry, so
    as many climbs as entries suffice. -/
theorem climbToSibling_spec : ∀ (fuel : Nat) {q : TreeCursor} {e : CursorEntry}
    {new base : List CursorEntry}, q.Settled → q.path = e :: new ++ base →
    (∀ x ∈ new, x.tree.isVisible = false) → Capped base → pendingVisible (e :: new) = [] →
    q.path.length ≤ fuel →
    (q.climbToSibling fuel = none ∧ pendingVisible base = []) ∨
      ∃ c', q.climbToSibling fuel = some c' ∧
        (pendingVisible base).flatMap SyntaxNode.withDescendants = c'.node :: c'.ahead
  | 0, _, _, _, _, _, hpath, _, _, _, hfuel => by
    rw [hpath] at hfuel
    simp at hfuel
  | fuel + 1, q, e, new, base, h, hpath, hhidden, hbase, _, hfuel => by
    rw [climbToSibling, gotoParent_eq hpath hhidden hbase]
    dsimp only
    have hparent : ({ q with path := base } : TreeCursor).Settled :=
      settled_moves.parent q _ h (gotoParent_eq hpath hhidden hbase)
    cases hbase' : base with
    | nil =>
      -- at the start: nothing is left above
      have hstay : ({ q with path := base } : TreeCursor).gotoNextSibling =
          (false, { q with path := base }) := by
        unfold TreeCursor.gotoNextSibling
        rw [hbase']
        rfl
      rw [← hbase', hstay]
      dsimp only
      refine .inl ⟨?_, by rw [hbase']; rfl⟩
      cases fuel with
      | zero => rfl
      | succ k =>
        rw [climbToSibling, TreeCursor.gotoParent]
        dsimp only
        rw [hbase']
    | cons e₃ rest₃ =>
      obtain ⟨new₃, base₃, hsplit, _, hhidden₃, hcapped₃, hagree₃, -⟩ :=
        hparent.exists_split (c := { q with path := base }) hbase'
      rw [← hbase']
      have hlen : base.length ≤ fuel := by
        rw [hpath] at hfuel
        simp only [List.cons_append, List.length_cons, List.length_append] at hfuel
        omega
      rcases gotoNextSibling_spec hsplit hcapped₃ hagree₃ hhidden₃ with
        ⟨hnext, hempty⟩ | ⟨next, new', hnext, hv, hstops⟩
      · -- the parent has no later sibling either: the climb goes on from it
        rw [hnext]
        dsimp only
        have hbase₃ : base = e₃ :: new₃ ++ base₃ := hsplit
        rcases climbToSibling_spec fuel hparent hsplit hhidden₃ hcapped₃ hempty hlen with
          ⟨hnone, hrest⟩ | ⟨c', hsome, hahead⟩
        · refine .inl ⟨hnone, ?_⟩
          rw [hbase₃, pendingVisible_append, hempty, hrest]
          rfl
        · refine .inr ⟨c', hsome, ?_⟩
          rw [hbase₃, pendingVisible_append, hempty, List.nil_append]
          exact hahead
      · rw [hnext]
        dsimp only
        refine .inr ⟨_, rfl, ?_⟩
        have hbase₃ : base = e₃ :: new₃ ++ base₃ := hsplit
        rw [hbase₃, pendingVisible_append, List.flatMap_append]
        exact ahead_of_stopsAt hstops hv rfl

/-- One step of the walk from a settled cursor lands on the first node ahead of it, or
    finds none when nothing is ahead. -/
theorem Settled.nextInOrder_spec (h : c.Settled) {bound : Nat} (hbound : c.path.length ≤ bound) :
    (c.nextInOrder bound = none ∧ c.ahead = []) ∨
      ∃ c', c.nextInOrder bound = some c' ∧ c.ahead = c'.node :: c'.ahead := by
  unfold TreeCursor.nextInOrder
  rcases gotoFirstChild_spec h.current with ⟨hfirst, hnil⟩ | ⟨e, new, hfirst, he, hstops⟩
  · rw [hfirst]
    dsimp only
    -- no visible child, so nothing below the node
    have hbelow : c.node.visibleDescendants = [] := by
      rw [SyntaxNode.visibleDescendants, visibleBelow_eq_flatMap]
      change c.node.visibleChildren.flatMap SyntaxNode.withDescendants = []
      rw [hnil]
      rfl
    cases hpath : c.path with
    | nil =>
      have hstay : c.gotoNextSibling = (false, c) := by
        unfold TreeCursor.gotoNextSibling
        rw [hpath]
        rfl
      rw [hstay]
      dsimp only
      refine .inl ⟨?_, by rw [ahead, hbelow, hpath]; rfl⟩
      cases bound with
      | zero => rfl
      | succ k =>
        rw [climbToSibling, TreeCursor.gotoParent, hpath]
    | cons e rest =>
      obtain ⟨new, base, hsplit, -, hhidden, hbase, hagree, -⟩ := h.exists_split hpath
      rcases gotoNextSibling_spec hsplit hbase hagree hhidden with
        ⟨hnext, hempty⟩ | ⟨next, new', hnext, hv, hstops⟩
      · rw [hnext]
        dsimp only
        rcases climbToSibling_spec bound h hsplit hhidden hbase hempty (hpath ▸ hbound) with
          ⟨hnone, hrest⟩ | ⟨c', hsome, hahead⟩
        · refine .inl ⟨hnone, ?_⟩
          rw [ahead, hbelow, hsplit, pendingVisible_append, hempty, hrest]
          rfl
        · refine .inr ⟨c', hsome, ?_⟩
          rw [ahead, hbelow, hsplit, pendingVisible_append, hempty, List.nil_append,
            List.nil_append]
          exact hahead
      · rw [hnext]
        dsimp only
        refine .inr ⟨_, rfl, ?_⟩
        rw [ahead, hbelow, List.nil_append, hsplit, pendingVisible_append, List.flatMap_append]
        exact ahead_of_stopsAt hstops hv rfl
  · rw [hfirst]
    dsimp only
    refine .inr ⟨_, rfl, ?_⟩
    rw [ahead, SyntaxNode.visibleDescendants, visibleBelow_eq_flatMap]
    exact ahead_of_stopsAt hstops he rfl

/-- A walk from a settled cursor below `top`, with a bound above `top`'s size and enough
    steps, visits the cursor's node and everything ahead of it, in order. -/
theorem walkFrom_nodes {table : ParseTable} {top : Subtree} {bound : Nat}
    (hbound : top.nodeCount < bound) :
    ∀ (fuel : Nat) {c : TreeCursor}, c.Settled → c.Below table top → c.ahead.length < fuel →
      (c.walkFrom bound fuel).map TreeCursor.node = c.node :: c.ahead
  | 0, _, _, _, hfuel => absurd hfuel (Nat.not_lt_zero _)
  | fuel + 1, c, hs, hb, hfuel => by
    have hlen : c.path.length ≤ bound := by
      have := hb.2.2.length_add_nodeCount
      omega
    rw [walkFrom, List.map_cons]
    rcases hs.nextInOrder_spec hlen with ⟨hnone, hahead⟩ | ⟨c', hsome, hahead⟩
    · rw [hnone, hahead]
      rfl
    · rw [hsome]
      dsimp only
      rw [hahead] at hfuel ⊢
      rw [List.length_cons] at hfuel
      rw [walkFrom_nodes hbound fuel (settled_moves.nextInOrder bound hs hsome)
        (below_moves.nextInOrder bound hb hsome) (by omega)]

end TreeCursor

namespace SyntaxNode

variable {n : SyntaxNode}

/-- Where the counts agree, the walk from a node lists the node and its visible descendants
    in pre-order. -/
theorem descendants_eq (h : n.tree.CountsAgree) (table : ParseTable) :
    n.descendants table = n :: n.visibleDescendants := by
  have hstart : (n.walk table).Settled := ⟨h, List.forall_mem_nil _, fun _ he => nomatch he⟩
  have hbelow : (n.walk table).Below table n.tree := ⟨rfl, rfl, .nil⟩
  have hahead : (n.walk table).ahead = n.visibleDescendants := by
    rw [TreeCursor.ahead]
    exact List.append_nil _
  unfold descendants walkAll
  rw [TreeCursor.walkFrom_nodes (Nat.lt_succ_self _) _ hstart hbelow
    (by rw [hahead]; exact Nat.lt_succ_of_lt (length_visibleBelow_lt _ _)), hahead]
  rfl

/-- Where the counts agree, a node counts the nodes of the walk from it. -/
theorem descendantCount_eq (h : n.tree.CountsAgree) (table : ParseTable) :
    n.descendantCount = (n.descendants table).length := by
  rw [descendants_eq h, List.length_cons, descendantCount, visibleDescendants,
    length_visibleBelow _ h]

end SyntaxNode

end IncrementalLR
