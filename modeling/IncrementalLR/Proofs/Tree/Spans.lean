import IncrementalLR.Proofs.Lex.Positions
import IncrementalLR.Proofs.Tree.Shape

/-!
# Subtrees over their text

A subtree keeps only relative geometry: its padding and size, and its children's.
-/

namespace IncrementalLR

namespace Subtree

/-- The lengths of subtrees read one after another. -/
def totalOf (cs : List Subtree) : Length := cs.foldl (fun acc c => acc.add c.totalSize) Length.zero

theorem foldl_totalSize (cs : List Subtree) (l : Length) :
    cs.foldl (fun acc c => acc.add c.totalSize) l = l.add (totalOf cs) := by
  induction cs generalizing l with
  | nil => simp [totalOf]
  | cons c cs ih =>
    simp only [List.foldl_cons, totalOf]
    rw [ih, ih (Length.zero.add c.totalSize), Length.zero_add, Length.add_assoc]

@[simp] theorem totalOf_nil : totalOf [] = Length.zero := rfl

@[simp] theorem totalOf_cons (c : Subtree) (cs : List Subtree) :
    totalOf (c :: cs) = c.totalSize.add (totalOf cs) := by
  rw [totalOf, List.foldl_cons, foldl_totalSize, Length.zero_add]

theorem totalOf_append (xs ys : List Subtree) : totalOf (xs ++ ys) = (totalOf xs).add (totalOf ys) := by
  rw [totalOf, List.foldl_append, foldl_totalSize, ← totalOf]

@[simp] theorem totalSize_bytes (t : Subtree) : t.totalSize.bytes = t.totalBytes := rfl

end Subtree

/-- The children a summary adds up have the summary's total length. -/
theorem ChildSummary.ofChildren_total (isError : Bool) (cs : List Subtree) :
    (ChildSummary.ofChildren isError cs).total = Subtree.totalOf cs := by
  have hfold : ∀ (s : ChildSummary), (cs.foldl (ChildSummary.add isError) s).total =
      s.total.add (Subtree.totalOf cs) := by
    induction cs with
    | nil => simp
    | cons c cs ih =>
      intro s
      rw [List.foldl_cons, ih, Subtree.totalOf_cons, ← Length.add_assoc]
      rfl
  simpa [ChildSummary.ofChildren, ChildSummary.empty] using hfold ChildSummary.empty

namespace Subtree

variable {X : List UInt8}

mutual

/-- The subtree's text, padding included, starts at byte `a` of `X`, and its geometry is
    that of the text. -/
inductive Spans (X : List UInt8) : Nat → Subtree → Prop
  | leaf {a : Nat} {i : NodeInfo} : Length.Covers X a i.padding →
      Length.Covers X (a + i.padding.bytes) i.size → Spans X a (.mk i [])
  | node {a : Nat} {i : NodeInfo} {c : Subtree} {cs : List Subtree} : SpansList X a (c :: cs) →
      i.padding = c.padding → i.padding.add i.size = totalOf (c :: cs) → Spans X a (.mk i (c :: cs))

/-- Subtrees whose texts follow one another from byte `a` of `X`. -/
inductive SpansList (X : List UInt8) : Nat → List Subtree → Prop
  | nil {a : Nat} : a ≤ X.length → SpansList X a []
  | cons {a : Nat} {c : Subtree} {cs : List Subtree} : Spans X a c →
      SpansList X (a + c.totalBytes) cs → SpansList X a (c :: cs)

end

mutual

/-- A spanning subtree's padding and size cover its text. -/
theorem Spans.covers : ∀ {a : Nat} {t : Subtree}, Spans X a t → Length.Covers X a t.totalSize
  | _, _, .leaf hp hs => Length.Covers.add hp hs
  | _, _, .node hcs _ htotal => by
    rw [totalSize, padding, size, info, htotal]
    exact hcs.covers

/-- Spanning subtrees cover their text together. -/
theorem SpansList.covers : ∀ {a : Nat} {cs : List Subtree}, SpansList X a cs →
    Length.Covers X a (totalOf cs)
  | _, _, .nil ha => Length.covers_zero ha
  | _, _, .cons hc hcs => by
    rw [totalOf_cons]
    exact hc.covers.add hcs.covers

end

mutual

/-- A spanning subtree's padding covers the text where it starts. -/
theorem Spans.padding_covers : ∀ {a : Nat} {t : Subtree}, Spans X a t → Length.Covers X a t.padding
  | _, _, .leaf hp _ => hp
  | _, _, .node hcs hpad _ => by
    rw [padding, info, hpad]
    exact hcs.head_padding

theorem SpansList.head_padding : ∀ {a : Nat} {c : Subtree} {cs : List Subtree},
    SpansList X a (c :: cs) → Length.Covers X a c.padding
  | _, _, _, .cons hc _ => hc.padding_covers

end

/-- A spanning subtree's size covers its text after the padding. -/
theorem Spans.size_covers {a : Nat} {t : Subtree} (h : Spans X a t) :
    Length.Covers X (a + t.padding.bytes) t.size :=
  h.padding_covers.of_add h.covers

theorem Spans.le {a : Nat} {t : Subtree} (h : Spans X a t) : a + t.totalBytes ≤ X.length :=
  h.covers.le

theorem SpansList.le {a : Nat} {cs : List Subtree} (h : SpansList X a cs) : a ≤ X.length := by
  cases h with
  | nil ha => exact ha
  | cons hc _ => exact Nat.le_trans (Nat.le_add_right _ _) hc.le

/-- The children of a spanning node span its text, and add up to its length. -/
theorem Spans.children {a : Nat} {t : Subtree} (h : Spans X a t) (hcs : t.children ≠ []) :
    SpansList X a t.children ∧ totalOf t.children = t.totalSize := by
  cases h with
  | leaf => exact absurd rfl hcs
  | node hlist _ htotal => exact ⟨hlist, htotal.symm⟩

theorem SpansList.append {a : Nat} {xs ys : List Subtree} (hx : SpansList X a xs)
    (hy : SpansList X (a + (totalOf xs).bytes) ys) : SpansList X a (xs ++ ys) := by
  induction xs generalizing a with
  | nil => simpa using hy
  | cons x xs ih =>
    cases hx with
    | cons hc hrest =>
      refine .cons hc (ih hrest ?_)
      simpa [Nat.add_assoc] using hy

theorem SpansList.of_append {a : Nat} {xs ys : List Subtree} (h : SpansList X a (xs ++ ys)) :
    SpansList X a xs ∧ SpansList X (a + (totalOf xs).bytes) ys := by
  induction xs generalizing a with
  | nil => exact ⟨.nil h.le, by simpa using h⟩
  | cons x xs ih =>
    cases h with
    | cons hc hrest =>
      obtain ⟨hxs, hys⟩ := ih hrest
      exact ⟨.cons hc hxs, by simpa [Nat.add_assoc] using hys⟩

mutual

/-- A spanning subtree spans every text that has the same bytes where it moves to. -/
theorem Spans.transfer {Y : List UInt8} : ∀ {a b : Nat} {t : Subtree}, Spans X a t →
    Length.Agree X a Y b t.totalBytes → Spans Y b t
  | _, _, _, .leaf hp hs, h =>
    .leaf (hp.transfer (h.take (Nat.le_add_right _ _))) (hs.transfer h.drop)
  | _, _, _, .node hcs hpad htotal, h => by
    have hbytes := congrArg Length.bytes htotal
    rw [Length.bytes_add] at hbytes
    exact .node (hcs.transfer (hbytes ▸ h)) hpad htotal

theorem SpansList.transfer {Y : List UInt8} : ∀ {a b : Nat} {cs : List Subtree}, SpansList X a cs →
    Length.Agree X a Y b (totalOf cs).bytes → SpansList Y b cs
  | _, _, _, .nil _, h => .nil (by simpa using h.1)
  | _, _, _, .cons hc hcs, h => by
    rw [totalOf_cons, Length.bytes_add, totalSize_bytes] at h
    exact .cons (hc.transfer (h.take (Nat.le_add_right _ _))) (hcs.transfer h.drop)

end

/-! ### Leaves and inner subtrees -/

mutual

/-- The childless subtrees of a subtree in the order of the text: the subtree itself when
    it has no children. -/
def leaves : Subtree → List Subtree
  | .mk i [] => [.mk i []]
  | .mk _ (c :: cs) => leavesOf (c :: cs)

/-- The leaves of subtrees one after another. -/
def leavesOf : List Subtree → List Subtree
  | [] => []
  | c :: cs => c.leaves ++ leavesOf cs

end

mutual

/-- A subtree and every subtree below it, each before its children. -/
def subtrees : Subtree → List Subtree
  | .mk i cs => .mk i cs :: subtreesOf cs

/-- The subtrees of subtrees one after another. -/
def subtreesOf : List Subtree → List Subtree
  | [] => []
  | c :: cs => c.subtrees ++ subtreesOf cs

end

@[simp] theorem leavesOf_nil : leavesOf [] = [] := by
  simp [leavesOf]

@[simp] theorem leavesOf_cons (c : Subtree) (cs : List Subtree) :
    leavesOf (c :: cs) = c.leaves ++ leavesOf cs := by
  simp [leavesOf]

theorem leavesOf_append (xs ys : List Subtree) : leavesOf (xs ++ ys) = leavesOf xs ++ leavesOf ys := by
  induction xs with
  | nil => simp
  | cons x xs ih => simp [ih]

theorem leaves_of_children_nil {t : Subtree} (h : t.children = []) : t.leaves = [t] := by
  obtain ⟨i, cs⟩ := t
  simp only [children_mk] at h
  subst h
  simp [leaves]

theorem leaves_of_children_ne_nil {t : Subtree} (h : t.children ≠ []) :
    t.leaves = leavesOf t.children := by
  obtain ⟨i, _ | ⟨c, cs⟩⟩ := t
  · exact absurd rfl h
  · simp [leaves]

mutual

/-- The leaves of a spanning subtree span its text, and add up to its length. -/
theorem Spans.leaves : ∀ {a : Nat} {t : Subtree}, Spans X a t →
    SpansList X a t.leaves ∧ totalOf t.leaves = t.totalSize
  | _, _, .leaf hp hs => by
    refine ⟨.cons (.leaf hp hs) (.nil ?_), by simp [Subtree.leaves]⟩
    have := hs.le
    simp only [totalBytes, padding, size, info] at this ⊢
    omega
  | _, _, .node hcs _ htotal => by
    obtain ⟨hl, ht⟩ := hcs.leaves
    refine ⟨hl, ?_⟩
    rw [Subtree.leaves, ht, ← htotal]
    rfl

/-- The leaves of spanning subtrees span their text, and add up to their length. -/
theorem SpansList.leaves : ∀ {a : Nat} {cs : List Subtree}, SpansList X a cs →
    SpansList X a (leavesOf cs) ∧ totalOf (leavesOf cs) = totalOf cs
  | _, _, .nil ha => ⟨by simpa using SpansList.nil ha, by simp⟩
  | _, _, .cons hc hcs => by
    obtain ⟨hl, ht⟩ := hc.leaves
    obtain ⟨hl', ht'⟩ := hcs.leaves
    refine ⟨?_, by rw [leavesOf_cons, totalOf_append, ht, ht', totalOf_cons]⟩
    rw [leavesOf_cons]
    exact hl.append (by rw [ht]; exact hl')

end

mutual

/-- Every subtree of a spanning subtree spans the text somewhere. -/
theorem Spans.subtrees : ∀ {a : Nat} {t : Subtree}, Spans X a t → ∀ u ∈ t.subtrees, ∃ b, Spans X b u
  | _, _, h@(.leaf _ _), u, hu => by
    simp only [Subtree.subtrees, subtreesOf, List.mem_singleton] at hu
    exact ⟨_, hu ▸ h⟩
  | _, _, h@(.node hcs _ _), u, hu => by
    rw [Subtree.subtrees, List.mem_cons] at hu
    rcases hu with rfl | hu
    · exact ⟨_, h⟩
    · exact hcs.subtrees u hu

/-- Every subtree of spanning subtrees spans the text somewhere. -/
theorem SpansList.subtrees : ∀ {a : Nat} {cs : List Subtree}, SpansList X a cs →
    ∀ u ∈ subtreesOf cs, ∃ b, Spans X b u
  | _, _, .nil _, u, hu => by simp [subtreesOf] at hu
  | _, _, .cons hc hcs, u, hu => by
    rw [subtreesOf, List.mem_append] at hu
    rcases hu with hu | hu
    · exact hc.subtrees u hu
    · exact hcs.subtrees u hu

end

/-- A spanning node has the padding of its first child, and its padding and size add
    up to its children's lengths. -/
theorem Spans.node_geometry {a : Nat} {t c : Subtree} {cs : List Subtree} (h : Spans X a t)
    (hcs : t.children = c :: cs) : t.padding = c.padding ∧ t.padding.add t.size = totalOf (c :: cs) := by
  cases h with
  | leaf => cases hcs
  | node _ hpad htotal =>
    simp only [children_mk, List.cons.injEq] at hcs
    obtain ⟨rfl, rfl⟩ := hcs
    exact ⟨hpad, htotal⟩

/-- Dropping subtrees of no length from spanning subtrees leaves subtrees that span the
    same text. -/
theorem SpansList.filter {a : Nat} {cs : List Subtree} (h : SpansList X a cs) (p : Subtree → Bool)
    (hp : ∀ c ∈ cs, p c = false → c.totalBytes = 0) :
    SpansList X a (cs.filter p) ∧ totalOf (cs.filter p) = totalOf cs := by
  induction cs generalizing a with
  | nil => exact ⟨h, rfl⟩
  | cons c cs ih =>
    cases h with
    | cons hc hrest =>
      obtain ⟨hl, ht⟩ := ih hrest fun x hx => hp x (List.mem_cons_of_mem c hx)
      cases hpc : p c with
      | true =>
        rw [List.filter_cons_of_pos hpc, totalOf_cons, totalOf_cons, ht]
        exact ⟨.cons hc hl, rfl⟩
      | false =>
        -- a subtree of no length spans nothing, and those after it start where it does
        have hzero := hp c List.mem_cons_self hpc
        have hsize : c.totalSize = Length.zero := hc.covers.eq_zero hzero
        rw [List.filter_cons_of_neg (by simp [hpc]), totalOf_cons, hsize, Length.zero_add, ht]
        rw [hzero, Nat.add_zero] at hl
        exact ⟨hl, rfl⟩

/-! ### What the parser builds -/

/-- A record summarising spanning children, with their total length, spans their text. -/
theorem spans_withSummary {a : Nat} {i : NodeInfo} {s : ChildSummary} {cs : List Subtree}
    (hcs : SpansList X a cs) (htotal : s.total = totalOf cs) :
    Spans X a (.mk (i.withSummary s cs.head?) cs) := by
  cases cs with
  | nil =>
    have ha := hcs.le
    exact .leaf (Length.covers_zero ha) (by simpa [NodeInfo.withSummary] using Length.covers_zero ha)
  | cons c cs =>
    refine .node hcs rfl ?_
    simp only [NodeInfo.withSummary, List.head?_cons, htotal]
    rw [totalOf_cons, totalSize, Length.add_assoc, Length.add_sub_cancel]

/-- A record summarising children, with their total length, is as long as they are. -/
theorem totalSize_withSummary {i : NodeInfo} {s : ChildSummary} {cs : List Subtree}
    (htotal : s.total = totalOf cs) : (Subtree.mk (i.withSummary s cs.head?) cs).totalSize = totalOf cs := by
  cases cs with
  | nil => simp [totalSize, padding, size, NodeInfo.withSummary]
  | cons c cs =>
    simp only [totalSize, padding, size, info_mk, NodeInfo.withSummary, List.head?_cons, htotal]
    rw [totalOf_cons, totalSize, Length.add_assoc]
    exact congrArg c.padding.add (Length.add_sub_cancel _ _)

theorem node_totalSize (table : ParseTable) (id symbol : Nat) (cs : List Subtree)
    (production parseState : Nat) :
    (node table id symbol cs production parseState).totalSize = totalOf cs :=
  totalSize_withSummary (ChildSummary.ofChildren_total _ cs)

theorem errorNodeWith_totalSize (table : ParseTable) (id : Nat) {cs : List Subtree}
    {summary : ChildSummary} (extra : Bool) (parseState : Nat) (htotal : summary.total = totalOf cs) :
    (errorNodeWith table id cs summary extra parseState).totalSize = totalOf cs :=
  totalSize_withSummary htotal

theorem spans_node {a : Nat} (table : ParseTable) (id symbol : Nat) {cs : List Subtree}
    (production parseState : Nat) (hcs : SpansList X a cs) :
    Spans X a (node table id symbol cs production parseState) :=
  spans_withSummary hcs (ChildSummary.ofChildren_total _ cs)

theorem spans_errorNodeWith {a : Nat} (table : ParseTable) (id : Nat) {cs : List Subtree}
    {summary : ChildSummary} (extra : Bool) (parseState : Nat) (hcs : SpansList X a cs)
    (htotal : summary.total = totalOf cs) :
    Spans X a (errorNodeWith table id cs summary extra parseState) :=
  spans_withSummary hcs htotal

/-- An assumed token is empty wherever it stands. -/
theorem spans_missingLeaf {a : Nat} (ha : a ≤ X.length) (table : ParseTable) (id symbol parseState : Nat) :
    Spans X a (missingLeaf table id symbol parseState) :=
  .leaf (Length.covers_zero ha) (by simpa [missingLeaf, NodeInfo.blank] using Length.covers_zero ha)

/-- A token's leaf spans the text from the token's padding start. -/
theorem spans_ofToken (table : ParseTable) (id : Nat) {token : Token} (parseState : Nat)
    (htoken : TokenAt X token.paddingStart token.start token.stop)
    (hpad : Length.At X token.paddingStart) :
    Spans X token.paddingStart.bytes (ofToken table id token parseState) := by
  obtain ⟨hstart, hstop, hle, hse⟩ := htoken
  have hpadding := hpad.sub hstart hle
  have hsize := hstart.sub hstop hse
  refine .leaf hpadding ?_
  have hsum : token.paddingStart.bytes + (token.start.bytes - token.paddingStart.bytes) =
      token.start.bytes := by
    omega
  simpa [ofToken, NodeInfo.blank, Token.padding, Token.size, hsum] using hsize

theorem Spans.withExtra {a : Nat} {t : Subtree} (h : Spans X a t) (extra : Bool) (id : Nat) :
    Spans X a (t.withExtra extra id) := by
  unfold Subtree.withExtra
  split
  · exact h
  · cases h with
    | leaf hp hs => exact .leaf hp hs
    | node hcs hpad htotal => exact .node hcs hpad htotal

theorem Spans.extendLookahead {a : Nat} {t : Subtree} (h : Spans X a t) (n : Nat) :
    Spans X a (t.extendLookahead n) := by
  unfold Subtree.extendLookahead
  split
  · cases h with
    | leaf hp hs => exact .leaf hp hs
    | node hcs hpad htotal => exact .node hcs hpad htotal
  · exact h

end Subtree

end IncrementalLR
