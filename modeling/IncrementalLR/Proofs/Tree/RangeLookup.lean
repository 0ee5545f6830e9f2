import IncrementalLR.Proofs.Tree.Placement

/-!
# The smallest node over a byte range

`SyntaxNode.descendantForRange` walks down from a node to a child that holds a byte range,
looking through hidden children and remembering the last relevant node it passed.
-/

namespace IncrementalLR

open Subtree

/-- A child is lower than its parent. -/
theorem Subtree.height_lt_of_mem {t c : Subtree} (hc : c ∈ t.children) : c.height < t.height := by
  obtain ⟨i, cs⟩ := t
  have hle : ∀ {cs : List Subtree}, c ∈ cs → c.height ≤ Subtree.heightList cs := by
    intro cs hcs
    induction cs with
    | nil => cases hcs
    | cons d rest ih =>
      rw [Subtree.heightList]
      rcases List.mem_cons.1 hcs with rfl | hrest
      · exact Nat.le_max_left _ _
      · exact Nat.le_trans (ih hrest) (Nat.le_max_right _ _)
  rw [Subtree.children_mk] at hc
  rw [Subtree.height]
  have := hle hc
  omega

namespace SyntaxNode

variable {Y : List UInt8}

/-- Node `d` holds the byte range from `s` to `e`: it starts no later than `s`, ends no
    earlier than `e`, and ends after `s` unless it is empty at `s`. -/
def HoldsRange (d : SyntaxNode) (s e : Nat) : Prop :=
  d.startByte ≤ s ∧ e ≤ d.endByte ∧ (s < d.endByte ∨ (d.startByte = s ∧ d.endByte = s))

/-- A node around one that holds a non-empty range holds it too. -/
theorem HoldsRange.mono {c d : SyntaxNode} {s e : Nat} (h : d.HoldsRange s e) (hse : s < e)
    (hstart : c.startByte ≤ d.startByte) (hend : d.endByte ≤ c.endByte) : c.HoldsRange s e := by
  obtain ⟨hs, he, -⟩ := h
  exact ⟨Nat.le_trans hstart hs, Nat.le_trans he hend, .inl (by omega)⟩

/-- `d` lies below `n`: it is a direct child of `n`, or lies below one. -/
inductive Descendant : SyntaxNode → SyntaxNode → Prop
  | child {n c : SyntaxNode} {stop : Length} : (c, stop) ∈ n.directChildren → Descendant n c
  | deeper {n c d : SyntaxNode} {stop : Length} : (c, stop) ∈ n.directChildren →
      Descendant c d → Descendant n d

theorem Descendant.trans_child {n m c : SyntaxNode} {stop : Length} (h : Descendant n m)
    (hc : (c, stop) ∈ m.directChildren) : Descendant n c := by
  induction h with
  | child hm => exact .deeper hm (.child hc)
  | deeper hm _ ih => exact .deeper hm (ih hc)

/-! ### Placed children -/

/-- A placed child ends where `placeChildren` says, after the place the placing starts
    from, and is one of the subtrees placed. -/
theorem mem_placeChildren : ∀ {from_ : Length} {cs : List Subtree} {m : SyntaxNode}
    {stop : Length}, (m, stop) ∈ placeChildren from_ cs →
      stop = m.stop ∧ from_.bytes ≤ m.startByte ∧ m.tree ∈ cs
  | _, [], _, _, hm => by simp [placeChildren] at hm
  | from_, c :: rest, m, stop, hm => by
    rw [placeChildren, List.mem_cons] at hm
    rcases hm with hm | hm
    · rw [Prod.mk.injEq] at hm
      obtain ⟨rfl, rfl⟩ := hm
      exact ⟨rfl, by simp [startByte], List.mem_cons_self⟩
    · obtain ⟨hstop, hle, hmem⟩ := mem_placeChildren hm
      refine ⟨hstop, ?_, List.mem_cons_of_mem _ hmem⟩
      simp only [Length.bytes_add] at hle
      omega

/-- Children that span the text from where the placing starts each span it from where
    their own padding starts, and lie between the first child's text and the end of the
    last. -/
theorem SpansList.mem_placeChildren : ∀ {from_ : Length} {cs : List Subtree} {m : SyntaxNode}
    {stop : Length}, SpansList Y from_.bytes cs → (m, stop) ∈ placeChildren from_ cs →
      Spans Y (m.startByte - m.tree.padding.bytes) m.tree ∧ m.tree.padding.bytes ≤ m.startByte ∧
        (∀ c ∈ cs.head?, from_.bytes + c.padding.bytes ≤ m.startByte) ∧
        m.endByte ≤ from_.bytes + (totalOf cs).bytes
  | _, [], _, _, _, hm => by simp [placeChildren] at hm
  | from_, c :: rest, m, stop, hcs, hm => by
    cases hcs with
    | cons hc hrest =>
    rw [placeChildren, List.mem_cons] at hm
    simp only [List.head?_cons, Option.mem_def, Option.some.injEq, forall_eq', totalOf_cons,
      Length.bytes_add, totalSize_bytes]
    rcases hm with hm | hm
    · rw [Prod.mk.injEq] at hm
      obtain ⟨rfl, rfl⟩ := hm
      simp only [startByte, endByte, stop, Length.bytes_add, Nat.add_sub_cancel]
      refine ⟨hc, Nat.le_add_left _ _, Nat.le_refl _, ?_⟩
      simp only [Subtree.totalBytes]
      omega
    · -- a later child is placed after the first one's text
      have hrest' : SpansList Y ((from_.add c.padding).add c.size).bytes rest := by
        simpa [Nat.add_assoc, Subtree.totalBytes] using hrest
      obtain ⟨hspans, hpad, -, hend⟩ := mem_placeChildren hrest' hm
      have hafter := (SyntaxNode.mem_placeChildren hm).2.1
      simp only [Length.bytes_add] at hend hafter
      refine ⟨hspans, hpad, ?_, ?_⟩
      · omega
      · simp only [Subtree.totalBytes]
        omega

/-! ### Nodes whose children lie within them -/

/-- A node whose children, placed from where its padding starts, span the text and lie
    within the node's own text: the first one's padding is no shorter than the node's,
    and together they are no longer than the node's padding and text. -/
structure Fits (Y : List UInt8) (n : SyntaxNode) : Prop where
  padding_le : n.tree.padding.bytes ≤ n.startByte
  children : SpansList Y (n.startByte - n.tree.padding.bytes) n.tree.children
  first : ∀ c ∈ n.tree.children.head?, n.tree.padding.bytes ≤ c.padding.bytes
  total : (totalOf n.tree.children).bytes ≤ n.tree.padding.bytes + n.tree.size.bytes

/-- A subtree spanning the text from where its padding starts fits it. -/
theorem fits_of_spans {n : SyntaxNode} (h : Spans Y (n.startByte - n.tree.padding.bytes) n.tree)
    (hle : n.tree.padding.bytes ≤ n.startByte) : Fits Y n := by
  obtain ⟨t, pos⟩ := n
  cases h with
  | leaf hp _ =>
    exact ⟨hle, .nil (Nat.le_trans (Nat.le_add_right _ _) hp.le), by simp, by simp⟩
  | node hcs hpad htotal =>
    refine ⟨hle, hcs, ?_, ?_⟩
    · intro c hc
      simp only [Subtree.children_mk, List.head?_cons, Option.mem_some_iff] at hc
      subst hc
      exact Nat.le_of_eq (congrArg Length.bytes hpad)
    · have := congrArg Length.bytes htotal
      simp only [Length.bytes_add] at this
      simp only [Subtree.children_mk, Subtree.padding, Subtree.size, Subtree.info]
      omega

/-- The root of a tree that tiles a text fits it. -/
theorem fits_ofRoot {root : Subtree} (h : root.Tiles Y) : Fits Y (ofRoot root) := by
  have hpad : root.padding.bytes = 0 := by rw [h.padding]; rfl
  refine ⟨?_, ?_, ?_, ?_⟩
  · show root.padding.bytes ≤ 0
    omega
  · show SpansList Y (0 - root.padding.bytes) root.children
    rw [hpad]
    exact h.children
  · intro c _
    show root.padding.bytes ≤ c.padding.bytes
    omega
  · show (totalOf root.children).bytes ≤ root.padding.bytes + root.size.bytes
    have := h.children.covers.le
    rw [hpad, h.size, Length.bytes_of]
    omega

/-- A direct child of a node that fits the text fits it, ends where it is placed to, and
    lies within the node. -/
theorem Fits.directChild {n m : SyntaxNode} {stop : Length} (h : Fits Y n)
    (hm : (m, stop) ∈ n.directChildren) :
    stop = m.stop ∧ Fits Y m ∧ n.startByte ≤ m.startByte ∧ m.endByte ≤ n.endByte := by
  have hfrom : (n.position.retreat n.tree.padding).bytes = n.startByte - n.tree.padding.bytes := rfl
  have hcs : SpansList Y (n.position.retreat n.tree.padding).bytes n.tree.children := by
    rw [hfrom]
    exact h.children
  obtain ⟨hspans, hpad, hhead, hend⟩ := SpansList.mem_placeChildren hcs hm
  refine ⟨(mem_placeChildren hm).1, fits_of_spans hspans hpad, ?_, ?_⟩
  · -- the first child starts where the node does, and the others after it
    obtain ⟨c, hc⟩ : ∃ c, n.tree.children.head? = some c := by
      cases hch : n.tree.children with
      | nil =>
        have := (mem_placeChildren hm).2.2
        rw [hch] at this
        cases this
      | cons c _ => exact ⟨c, rfl⟩
    have h₁ := hhead c hc
    have h₂ := h.first c hc
    have h₃ := h.padding_le
    omega
  · have h₁ := h.total
    have h₂ := h.padding_le
    rw [hfrom] at hend
    simp only [endByte, SyntaxNode.stop, Length.bytes_add, startByte] at hend h₂ ⊢
    omega

/-- Every node below a node that fits the text fits it and lies within the node. -/
theorem Fits.descendant {n d : SyntaxNode} (h : Fits Y n) (hd : n.Descendant d) :
    Fits Y d ∧ n.startByte ≤ d.startByte ∧ d.endByte ≤ n.endByte := by
  induction hd with
  | child hc =>
    obtain ⟨-, hfits, hstart, hend⟩ := h.directChild hc
    exact ⟨hfits, hstart, hend⟩
  | deeper hc _ ih =>
    obtain ⟨-, hfits, hstart, hend⟩ := h.directChild hc
    obtain ⟨hfits', hstart', hend'⟩ := ih hfits
    exact ⟨hfits', Nat.le_trans hstart hstart', Nat.le_trans hend' hend⟩

/-- A node below a node that fits the text lies within one of its direct children. -/
theorem Fits.under_child {n d : SyntaxNode} (h : Fits Y n) (hd : n.Descendant d) :
    ∃ c stop, (c, stop) ∈ n.directChildren ∧ (d = c ∨ c.Descendant d) ∧
      c.startByte ≤ d.startByte ∧ d.endByte ≤ c.endByte := by
  cases hd with
  | child hc => exact ⟨d, _, hc, .inl rfl, Nat.le_refl _, Nat.le_refl _⟩
  | deeper hc hcd =>
    obtain ⟨-, hstart, hend⟩ := (h.directChild hc).2.1.descendant hcd
    exact ⟨_, _, hc, .inr hcd, hstart, hend⟩

/-! ### Picking the child over the range -/

variable {s e : Nat}

/-- One step of `pick`: it passes over a child that ends before `e`, before `s`, or at
    `s` without being empty there; it stops without an answer at a child that starts after
    `s`; otherwise it picks the child. -/
theorem pick_cons (m : SyntaxNode) (stop : Length) (rest : List (SyntaxNode × Length)) :
    descendantForRange.pick s e ((m, stop) :: rest) =
      if stop.bytes < e ∨ stop.bytes < s ∨ (stop.bytes = s ∧ m.startByte ≠ s) then
        descendantForRange.pick s e rest
      else if s < m.startByte then none else some m := by
  rw [descendantForRange.pick]
  dsimp only
  split_ifs <;> grind

/-- The child picked holds the range. -/
theorem pick_holds (hse : s ≤ e) :
    ∀ {L : List (SyntaxNode × Length)} {c : SyntaxNode}, (∀ p ∈ L, p.2 = p.1.stop) →
      descendantForRange.pick s e L = some c → (∃ stop, (c, stop) ∈ L) ∧ c.HoldsRange s e
  | [], _, _, hc => by simp [descendantForRange.pick] at hc
  | (m, stop) :: rest, c, hL, hc => by
    have hstop : stop = m.stop := hL (m, stop) List.mem_cons_self
    have hrest : ∀ p ∈ rest, p.2 = p.1.stop := fun p hp => hL p (List.mem_cons_of_mem _ hp)
    rw [pick_cons] at hc
    by_cases hpass : stop.bytes < e ∨ stop.bytes < s ∨ (stop.bytes = s ∧ m.startByte ≠ s)
    · rw [if_pos hpass] at hc
      obtain ⟨⟨stop', hmem⟩, hholds⟩ := pick_holds hse hrest hc
      exact ⟨⟨stop', List.mem_cons_of_mem _ hmem⟩, hholds⟩
    · rw [if_neg hpass] at hc
      by_cases hafter : s < m.startByte
      · rw [if_pos hafter] at hc
        cases hc
      · -- a child neither passed over nor starting after `s` holds the range
        rw [if_neg hafter] at hc
        cases hc
        refine ⟨⟨stop, List.mem_cons_self⟩, ?_⟩
        rw [hstop] at hpass
        unfold HoldsRange endByte
        omega

/-- Among placed children, a non-empty range is picked in the child that holds it. -/
theorem pick_of_holds (hse : s < e) :
    ∀ {from_ : Length} {cs : List Subtree} {c : SyntaxNode} {stop : Length},
      (c, stop) ∈ placeChildren from_ cs → c.HoldsRange s e →
      descendantForRange.pick s e (placeChildren from_ cs) = some c
  | _, [], _, _, hm, _ => by simp [placeChildren] at hm
  | from_, d :: rest, c, stop, hm, hc => by
    obtain ⟨hcs, hce, -⟩ := hc
    rw [placeChildren, pick_cons]
    rw [placeChildren, List.mem_cons] at hm
    -- the first child ends where every later child starts at the earliest
    have hlater : ∀ {stop'}, (c, stop') ∈ placeChildren ((from_.add d.padding).add d.size) rest →
        ((from_.add d.padding).add d.size).bytes ≤ c.startByte :=
      fun h => (mem_placeChildren h).2.1
    by_cases hpass : ((from_.add d.padding).add d.size).bytes < e ∨
        ((from_.add d.padding).add d.size).bytes < s ∨
        (((from_.add d.padding).add d.size).bytes = s ∧ (⟨d, from_.add d.padding⟩ : SyntaxNode).startByte ≠ s)
    · rw [if_pos hpass]
      rcases hm with hm | hm
      · -- the first child holds the range, so it is not passed over
        rw [Prod.mk.injEq] at hm
        obtain ⟨rfl, rfl⟩ := hm
        simp only [endByte, SyntaxNode.stop] at hce
        omega
      · exact pick_of_holds hse hm ⟨hcs, hce, .inl (by omega)⟩
    · rw [if_neg hpass]
      rcases hm with hm | hm
      · rw [Prod.mk.injEq] at hm
        obtain ⟨rfl, rfl⟩ := hm
        rw [if_neg (by omega)]
      · -- a later child starts after the first one ends, past `e` and so past `s`
        have := hlater hm
        omega

/-- For a non-empty range, no placed child holds it when none is picked. -/
theorem not_holds_of_pick_none (hse : s < e) {from_ : Length} {cs : List Subtree}
    (hnone : descendantForRange.pick s e (placeChildren from_ cs) = none) {c : SyntaxNode}
    {stop : Length} (hm : (c, stop) ∈ placeChildren from_ cs) : ¬ c.HoldsRange s e := by
  intro hc
  rw [pick_of_holds hse hm hc] at hnone
  cases hnone

/-- For a non-empty range, the child picked is the only placed child that holds it. -/
theorem eq_of_pick (hse : s < e) {from_ : Length} {cs : List Subtree} {c c' : SyntaxNode}
    (hpick : descendantForRange.pick s e (placeChildren from_ cs) = some c) {stop : Length}
    (hm : (c', stop) ∈ placeChildren from_ cs) (hc' : c'.HoldsRange s e) : c' = c := by
  rw [pick_of_holds hse hm hc'] at hpick
  exact Option.some.inj hpick

/-! ### The walk down -/

variable {n : SyntaxNode} {anonymous : Bool}

/-- The answer of a walk from `n` over the range from `s` to `e`: `n` itself, or a
    relevant node below `n` that holds the range. -/
def RangeAnswer (n : SyntaxNode) (s e : Nat) (anonymous : Bool) (d : SyntaxNode) : Prop :=
  d = n ∨ (n.Descendant d ∧ d.isRelevant anonymous = true ∧ d.HoldsRange s e)

/-- What the walk keeps on its way down from `n`: it stands on `n` or below it, on a node
    that fits the text and is lower than the fuel left; the last relevant node it passed
    answers; and, for a non-empty range, every relevant node below that one that holds the
    range lies below where the walk stands. -/
structure Walk (Y : List UInt8) (n : SyntaxNode) (s e : Nat) (anonymous : Bool) (k : Nat)
    (node last : SyntaxNode) : Prop where
  fits : Fits Y node
  height : node.tree.height < k
  within : node = n ∨ n.Descendant node
  answer : RangeAnswer n s e anonymous last
  ahead : s < e → ∀ d, last.Descendant d → d.isRelevant anonymous = true → d.HoldsRange s e →
    node.Descendant d

variable {k : Nat} {node last c : SyntaxNode}

/-- For a non-empty range, a node below `node` that holds the range lies in the child
    picked, or is that child. -/
theorem Fits.picked_child (h : Fits Y node) (hse : s < e)
    (hpick : descendantForRange.pick s e node.directChildren = some c) {d : SyntaxNode}
    (hd : node.Descendant d) (hholds : d.HoldsRange s e) : d = c ∨ c.Descendant d := by
  obtain ⟨c', stop, hc', hdc', hstart, hend⟩ := h.under_child hd
  -- the child over `d` holds the non-empty range too, so it is the child picked
  rw [eq_of_pick hse hpick hc' (hholds.mono hse hstart hend)] at hdc'
  exact hdc'

/-- One step down keeps the walk. -/
theorem Walk.step (h : Walk Y n s e anonymous (k + 1) node last) (hse : s ≤ e)
    (hpick : descendantForRange.pick s e node.directChildren = some c) :
    Walk Y n s e anonymous k c (if c.isRelevant anonymous then c else last) := by
  have hstops : ∀ p ∈ node.directChildren, p.2 = p.1.stop :=
    fun p hp => (mem_placeChildren hp).1
  obtain ⟨⟨stop, hc⟩, hholds⟩ := pick_holds hse hstops hpick
  obtain ⟨-, hfits, -, -⟩ := h.fits.directChild hc
  have hbelow : n.Descendant c := by
    rcases h.within with rfl | hnode
    · exact .child hc
    · exact hnode.trans_child hc
  have hlower := Subtree.height_lt_of_mem (mem_placeChildren hc).2.2
  refine ⟨hfits, by have := h.height; omega, .inr hbelow, ?_, ?_⟩
  · split
    · exact .inr ⟨hbelow, ‹_›, hholds⟩
    · exact h.answer
  · intro hlt d hd hrel hdholds
    split at hd
    · exact hd
    · -- a hidden child: what lay ahead lies below it, since it cannot be the node itself
      rename_i hhidden
      rcases h.fits.picked_child hlt hpick (h.ahead hlt d hd hrel hdholds) hdholds with rfl | hcd
      · exact absurd hrel hhidden
      · exact hcd

/-- Where the walk stops, nothing relevant below the last relevant node holds a non-empty
    range. -/
theorem Walk.smallest (h : Walk Y n s e anonymous k node last) (hse : s < e)
    (hnone : descendantForRange.pick s e node.directChildren = none) :
    ∀ d, last.Descendant d → d.isRelevant anonymous = true → ¬ d.HoldsRange s e := by
  intro d hd hrel hholds
  obtain ⟨c', stop, hc', -, hstart, hend⟩ := h.fits.under_child (h.ahead hse d hd hrel hholds)
  exact not_holds_of_pick_none hse hnone hc' (hholds.mono hse hstart hend)

/-- The whole walk answers, and for a non-empty range nothing relevant below its answer
    holds the range. -/
theorem Walk.go (hse : s ≤ e) :
    ∀ {k : Nat} {node last : SyntaxNode}, Walk Y n s e anonymous k node last →
      RangeAnswer n s e anonymous (descendantForRange.go s e anonymous k node last) ∧
      (s < e → ∀ d, (descendantForRange.go s e anonymous k node last).Descendant d →
        d.isRelevant anonymous = true → ¬ d.HoldsRange s e)
  | 0, _, _, h => absurd h.height (Nat.not_lt_zero _)
  | k + 1, node, last, h => by
    rw [descendantForRange.go]
    split
    · rename_i c hpick
      exact Walk.go hse (h.step hse hpick)
    · rename_i hpick
      exact ⟨h.answer, fun hlt => h.smallest hlt hpick⟩

/-- The walk starts on the node it is asked about. -/
theorem Walk.start (h : Fits Y n) : Walk Y n s e anonymous (n.tree.height + 1) n n :=
  ⟨h, Nat.lt_succ_self _, .inl rfl, .inl rfl, fun _ _ hd _ _ => hd⟩

/-- Looking up a byte range from a node of a tree that tiles its text: a reversed range
    has no answer; otherwise the answer is the node itself or a relevant node below it
    that holds the range, and when the range is not empty no relevant node below the
    answer holds it. Relevant means visible, and also named unless `anonymous`. -/
theorem descendantForRange_smallest {root : Subtree} (hroot : root.Tiles Y)
    (hn : n = ofRoot root ∨ (ofRoot root).Descendant n) (s e : Nat) (anonymous : Bool) :
    (e < s → n.descendantForRange s e anonymous = none) ∧
    (s ≤ e → ∃ d, n.descendantForRange s e anonymous = some d ∧
      (d = n ∨ (n.Descendant d ∧ d.isRelevant anonymous = true ∧ d.HoldsRange s e)) ∧
      (s < e → ∀ d', d.Descendant d' → d'.isRelevant anonymous = true → ¬ d'.HoldsRange s e)) := by
  have hfits : Fits Y n := by
    rcases hn with rfl | hn
    · exact fits_ofRoot hroot
    · exact ((fits_ofRoot hroot).descendant hn).1
  refine ⟨fun hlt => by simp [descendantForRange, hlt], fun hse => ?_⟩
  have hnot : ¬ s > e := Nat.not_lt.2 hse
  exact ⟨_, by simp only [descendantForRange, hnot, if_false], (Walk.start hfits).go hse⟩

-- A root over `ab` with the leaves `a` and `b`, asked for the range of `a`.
theorem descendantForRange_smallest_twoLeaves :
    let info (i symbol : Nat) (size : Length) : NodeInfo :=
      { (default : NodeInfo) with
        id := i, symbol := symbol, size := size, visible := true, named := true }
    let A := Subtree.mk (info 0 3 (Length.of [97, 98]))
      [.mk (info 1 1 (Length.of [97])) [], .mk (info 2 2 (Length.of [98])) []]
    A.Tiles [97, 98] ∧ (ofRoot A = ofRoot A ∨ (ofRoot A).Descendant (ofRoot A)) ∧
      ((1 < 0 → (ofRoot A).descendantForRange 0 1 true = none) ∧
      (0 ≤ 1 → ∃ d, (ofRoot A).descendantForRange 0 1 true = some d ∧
        (d = ofRoot A ∨ ((ofRoot A).Descendant d ∧ d.isRelevant true = true ∧ d.HoldsRange 0 1)) ∧
        (0 < 1 → ∀ d', d.Descendant d' → d'.isRelevant true = true → ¬ d'.HoldsRange 0 1))) := by
  intro info A
  have hA : A.Tiles [97, 98] :=
    ⟨rfl, rfl, .cons (.leaf (Length.covers_zero (by decide)) ⟨by decide, rfl⟩)
      (.cons (.leaf (Length.covers_zero (by decide)) ⟨by decide, rfl⟩) (.nil (by decide)))⟩
  exact ⟨hA, .inl rfl, descendantForRange_smallest hA (.inl rfl) 0 1 true⟩

end SyntaxNode

end IncrementalLR
