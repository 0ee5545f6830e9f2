import IncrementalLR.Proofs.Tree.EditGeometry
import IncrementalLR.Tree.Node

/-!
# Nodes over their text

A node is a subtree at the position where its text starts.
-/

namespace IncrementalLR

namespace Length

variable {Y : List UInt8} {l p : Length}

/-- Stepping back over a padding that covers the text before a position, and reading the
    padding again, lands on the position: `retreat` may forget the column, but only where
    the padding's own extent puts it back. -/
theorem At.retreat_add (hl : At Y l) (hp : Covers Y (l.bytes - p.bytes) p) (hle : p.bytes ≤ l.bytes) :
    (l.retreat p).add p = l := by
  have hbefore : At Y (of (Y.take (l.bytes - p.bytes))) := at_of_take _ (by have := hl.le; omega)
  have hstart : (of (Y.take (l.bytes - p.bytes))).bytes = l.bytes - p.bytes := by
    rw [bytes_of, List.length_take_of_le (by have := hl.le; omega)]
  have hsum : (of (Y.take (l.bytes - p.bytes))).add p = l := by
    refine Covers.eq (hbefore.add (by rwa [hstart])) hl ?_
    rw [bytes_add, hstart]
    omega
  rw [← hsum, retreat_add_cancel]

end Length

namespace SyntaxNode

variable {Y : List UInt8}

/-! ### Nodes that sit on the text -/

/-- Subtrees placed one after another from `from_`, as `placeChildren` and
    `relevantChildAmong` place them: they span the text from `from_`'s byte, and the first
    one's text starts at the length of the text before it. -/
def PlacedFrom (Y : List UInt8) (from_ : Length) (cs : List Subtree) : Prop :=
  Subtree.SpansList Y from_.bytes cs ∧ ∀ c ∈ cs.head?, Length.At Y (from_.add c.padding)

/-- A node sits on a text: its start and its end are the lengths of the text before them,
    and its children, placed from where its padding starts, follow the text. -/
structure Sits (Y : List UInt8) (n : SyntaxNode) : Prop where
  start : Length.At Y n.position
  stop : Length.At Y n.stop
  children : PlacedFrom Y (n.position.retreat n.tree.padding) n.tree.children

theorem placedFrom_of_at {from_ : Length} {cs : List Subtree} (h : Length.At Y from_)
    (hcs : Subtree.SpansList Y from_.bytes cs) : PlacedFrom Y from_ cs := by
  refine ⟨hcs, fun c hc => ?_⟩
  cases cs with
  | nil => simp at hc
  | cons d rest =>
    rw [List.head?_cons, Option.mem_some_iff] at hc
    subst hc
    exact h.add hcs.head_padding

/-- A subtree spanning the text from the start of its padding sits at the end of its
    padding. -/
theorem sits_of_spans {t : Subtree} {pos : Length} (h : Subtree.Spans Y (pos.bytes - t.padding.bytes) t)
    (hpos : Length.At Y pos) (hle : t.padding.bytes ≤ pos.bytes) : Sits Y ⟨t, pos⟩ := by
  have hsize : Length.Covers Y pos.bytes t.size := by
    have := h.size_covers
    rwa [Nat.sub_add_cancel hle] at this
  refine ⟨hpos, hpos.add hsize, ?_⟩
  cases h with
  | leaf hp _ => exact ⟨.nil (Nat.le_trans (Nat.le_add_right _ _) hp.le), by simp⟩
  | @node _ i c cs hcs hpad _ =>
    refine ⟨hcs, fun d hd => ?_⟩
    dsimp only at hd ⊢
    simp only [Subtree.children_mk, List.head?_cons, Option.mem_some_iff] at hd
    subst hd
    have hcover : Length.Covers Y (pos.bytes - i.padding.bytes) i.padding := by
      have hhead := hcs.head_padding
      rw [← hpad] at hhead
      exact hhead
    show Length.At Y ((pos.retreat i.padding).add c.padding)
    rw [← hpad, hpos.retreat_add hcover hle]
    exact hpos

theorem PlacedFrom.head {from_ : Length} {c : Subtree} {rest : List Subtree}
    (h : PlacedFrom Y from_ (c :: rest)) : Sits Y ⟨c, from_.add c.padding⟩ := by
  obtain ⟨hcs, hhead⟩ := h
  cases hcs with
  | cons hc _ =>
    refine sits_of_spans ?_ (hhead c rfl) (by simp)
    simpa using hc

theorem PlacedFrom.tail {from_ : Length} {c : Subtree} {rest : List Subtree}
    (h : PlacedFrom Y from_ (c :: rest)) : PlacedFrom Y ((from_.add c.padding).add c.size) rest := by
  have hc := h.head
  obtain ⟨hcs, -⟩ := h
  cases hcs with
  | cons _ hrest =>
    refine placedFrom_of_at hc.stop ?_
    simpa [Nat.add_assoc, Subtree.totalBytes] using hrest

/-- Children placed one after another each sit on the text, with the end `placeChildren`
    gives them. -/
theorem PlacedFrom.placeChildren {m : SyntaxNode} {stop : Length} :
    ∀ {from_ : Length} {cs : List Subtree}, PlacedFrom Y from_ cs →
      (m, stop) ∈ SyntaxNode.placeChildren from_ cs → Sits Y m ∧ stop = m.stop
  | _, [], _, hm => by simp [SyntaxNode.placeChildren] at hm
  | _, c :: rest, h, hm => by
    rw [SyntaxNode.placeChildren, List.mem_cons] at hm
    rcases hm with hm | hm
    · rw [Prod.mk.injEq] at hm
      obtain ⟨rfl, rfl⟩ := hm
      exact ⟨h.head, rfl⟩
    · exact h.tail.placeChildren hm

/-- The direct children of a node that sits on the text sit on it. -/
theorem Sits.directChildren {n m : SyntaxNode} {stop : Length} (h : Sits Y n)
    (hm : (m, stop) ∈ n.directChildren) : Sits Y m ∧ stop = m.stop :=
  h.children.placeChildren hm

/-! ### Navigation -/

mutual

/-- Looking through hidden children of a node that sits on the text finds nodes that sit
    on it. -/
theorem sits_relevantChildOf (anonymous : Bool) : ∀ (t : Subtree) (pos : Length) (index : Nat)
    {m : SyntaxNode}, Sits Y ⟨t, pos⟩ → relevantChildOf anonymous t pos index = some m → Sits Y m
  | .mk _ cs, _, index, _, h, hm => by
    rw [relevantChildOf] at hm
    exact sits_relevantChildAmong anonymous cs _ index h.children hm

theorem sits_relevantChildAmong (anonymous : Bool) : ∀ (cs : List Subtree) (from_ : Length)
    (index : Nat) {m : SyntaxNode}, PlacedFrom Y from_ cs →
    relevantChildAmong anonymous cs from_ index = some m → Sits Y m
  | [], _, _, _, _, hm => by simp [relevantChildAmong] at hm
  | c :: rest, _, index, _, h, hm => by
    rw [relevantChildAmong] at hm
    dsimp only at hm
    -- the child is relevant itself, or navigation looks through it
    split at hm
    · split at hm
      · cases hm
        exact h.head
      · exact sits_relevantChildAmong anonymous rest _ _ h.tail hm
    · split at hm
      · exact sits_relevantChildOf anonymous c _ _ h.head hm
      · exact sits_relevantChildAmong anonymous rest _ _ h.tail hm

end

/-- The visible or named children of a node that sits on the text sit on it. -/
theorem Sits.relevantChild {n m : SyntaxNode} {index : Nat} {anonymous : Bool} (h : Sits Y n)
    (hm : n.relevantChild index anonymous = some m) : Sits Y m := by
  unfold SyntaxNode.relevantChild at hm
  split at hm
  · cases hm
  · exact sits_relevantChildOf anonymous n.tree n.position index h hm

/-- The root of a tree that tiles the text sits on it. -/
theorem sits_ofRoot {t : Subtree} (h : Subtree.Tiles Y t) : Sits Y (ofRoot t) := by
  have hzero : Length.At Y Length.zero := Length.covers_zero (Nat.zero_le _)
  refine ⟨hzero, ?_, ?_⟩
  · show Length.At Y (Length.zero.add t.size)
    rw [h.size, Length.zero_add]
    exact Length.at_of Y
  · show PlacedFrom Y (Length.zero.retreat t.padding) t.children
    rw [h.padding, show Length.zero.retreat Length.zero = Length.zero by rfl]
    exact placedFrom_of_at hzero h.children

/-- The visible children of a node that sits on the text sit on it. -/
theorem Sits.of_mem_children {n m : SyntaxNode} (h : Sits Y n) (hm : m ∈ n.children) : Sits Y m := by
  obtain ⟨index, -, hindex⟩ := List.mem_filterMap.1 hm
  exact h.relevantChild hindex

/-- What a search among placed children finds, or descends into, sits on the text. -/
def Search.SitsOn (Y : List UInt8) : Search → Prop
  | .answer found => ∀ m ∈ found, Sits Y m
  | .descend c => Sits Y c

theorem Search.sitsOn_ite {P : Prop} [Decidable P] {c : SyntaxNode} {r : Search} (hc : Sits Y c)
    (hr : r.SitsOn Y) : (if P then Search.descend c else r).SitsOn Y := by
  split
  · exact hc
  · exact hr

theorem searchAmong_sitsOn {d : SyntaxNode} {inner : SyntaxNode → Option SyntaxNode} :
    ∀ {L : List (SyntaxNode × Length)}, (∀ p ∈ L, Sits Y p.1) →
      (∀ p ∈ L, ∀ f, inner p.1 = some f → Sits Y f) → (searchAmong d inner L).SitsOn Y
  | [], _, _ => by simp [searchAmong, Search.SitsOn]
  | (c, stop) :: rest, hL, hinner => by
    have hc : Sits Y c := hL _ List.mem_cons_self
    rw [searchAmong]
    split
    · simp [Search.SitsOn]
    · split
      · intro m hm
        cases hm
        exact hc
      · dsimp only
        split
        · -- an empty node found at the end of this child, or the child holding it
          rename_i found hvia
          intro m hm
          cases hm
          split at hvia
          · obtain ⟨f, hf, rfl⟩ := Option.map_eq_some_iff.1 hvia
            split
            · exact hc
            · exact hinner _ List.mem_cons_self f hf
          · cases hvia
        · exact Search.sitsOn_ite hc (searchAmong_sitsOn (fun p hp => hL p (List.mem_cons_of_mem _ hp))
            (fun p hp => hinner p (List.mem_cons_of_mem _ hp)))

/-- The child holding a node, looking through hidden children, sits on the text. -/
theorem sits_childWithDescendant {d m : SyntaxNode} :
    ∀ {fuel : Nat} {n : SyntaxNode}, Sits Y n → childWithDescendant d fuel n = some m → Sits Y m
  | 0, _, _, hm => by simp [childWithDescendant] at hm
  | fuel + 1, n, h, hm => by
    have hsearch : (searchAmong d (childWithDescendant d fuel) n.directChildren).SitsOn Y :=
      searchAmong_sitsOn (fun p hp => (h.directChildren hp).1)
        (fun p hp _ hf => sits_childWithDescendant (h.directChildren hp).1 hf)
    rw [childWithDescendant] at hm
    split at hm
    · rename_i found hfound
      rw [hfound] at hsearch
      exact hsearch m hm
    · rename_i c hc
      rw [hc] at hsearch
      split at hm
      · cases hm
        exact hsearch
      · exact sits_childWithDescendant hsearch hm

/-- The parent found by walking down from a root that tiles the text sits on it. -/
theorem sits_parentIn {root : Subtree} {n p : SyntaxNode} (h : Subtree.Tiles Y root)
    (hp : parentIn root n = some p) : Sits Y p := by
  have hwalk : ∀ (k : Nat) (node : SyntaxNode), Sits Y node →
      parentIn.walk n (root.height + 1) k node = some p → Sits Y p := by
    intro k
    induction k with
    | zero => intro node _ hw; simp [parentIn.walk] at hw
    | succ k ih =>
      intro node hnode hw
      rw [parentIn.walk] at hw
      split at hw
      · rename_i next hnext
        split at hw
        · cases hw
          exact hnode
        · exact ih next (sits_childWithDescendant hnode hnext) hw
      · cases hw
  unfold parentIn at hp
  dsimp only at hp
  split at hp
  · cases hp
  · exact hwalk _ _ (sits_ofRoot h) hp

/-- A sibling found from a root that tiles the text sits on it. -/
theorem sits_sibling {root : Subtree} {n m : SyntaxNode} {forward anonymous : Bool}
    (h : Subtree.Tiles Y root) (hm : sibling root n forward anonymous = some m) : Sits Y m := by
  unfold sibling at hm
  split at hm
  · cases hm
  · rename_i p hp
    have hparent := sits_parentIn h hp
    have hmem : ∀ c ∈ p.children.filter fun c => c.isRelevant anonymous || c.same n, Sits Y c :=
      fun c hc => hparent.of_mem_children (List.mem_filter.1 hc).1
    dsimp only at hm
    split at hm
    · split at hm
      · rename_i rest hrest
        have hin : m ∈ rest := List.mem_of_find?_eq_some hm
        have hdrop : m ∈ (p.children.filter fun c => c.isRelevant anonymous || c.same n).dropWhile
            fun c => !c.same n := by
          rw [hrest]
          exact List.mem_cons_of_mem _ hin
        exact hmem m ((List.dropWhile_sublist _).subset hdrop)
      · cases hm
    · split at hm
      · cases hm
      · exact hmem m ((List.takeWhile_sublist _).subset (List.mem_of_getLast? hm))

/-- The deepest node over a range, below a node that sits on the text, sits on it. -/
theorem sits_descendantForRange {n m : SyntaxNode} {start stop : Nat} {anonymous : Bool}
    (h : Sits Y n) (hm : n.descendantForRange start stop anonymous = some m) : Sits Y m := by
  have hpick : ∀ (L : List (SyntaxNode × Length)) (c : SyntaxNode),
      descendantForRange.pick start stop L = some c → ∃ p ∈ L, p.1 = c := by
    intro L c
    induction L with
    | nil => simp [descendantForRange.pick]
    | cons p rest ih =>
      intro hc
      -- the first child is passed over, refused, or picked
      have hcases : descendantForRange.pick start stop (p :: rest) =
          descendantForRange.pick start stop rest ∨
          descendantForRange.pick start stop (p :: rest) = none ∨
          descendantForRange.pick start stop (p :: rest) = some p.1 := by
        rw [descendantForRange.pick]
        dsimp only
        split_ifs <;> simp
      rcases hcases with hrest | hnone | hsome
      · obtain ⟨q, hq, hqc⟩ := ih (hrest ▸ hc)
        exact ⟨q, List.mem_cons_of_mem _ hq, hqc⟩
      · rw [hnone] at hc
        cases hc
      · rw [hsome] at hc
        cases hc
        exact ⟨p, List.mem_cons_self, rfl⟩
  have hgo : ∀ (k : Nat) (node last : SyntaxNode), Sits Y node → Sits Y last →
      Sits Y (descendantForRange.go start stop anonymous k node last) := by
    intro k
    induction k with
    | zero => intro _ _ _ hlast; exact hlast
    | succ k ih =>
      intro node last hnode hlast
      rw [descendantForRange.go]
      split
      · rename_i c hc
        obtain ⟨q, hq, rfl⟩ := hpick _ c hc
        have hq' := (hnode.directChildren hq).1
        exact ih _ _ hq' (by split <;> assumption)
      · exact hlast
  unfold SyntaxNode.descendantForRange at hm
  split at hm
  · cases hm
  · cases hm
    exact hgo _ _ _ h h

/-- The nodes reached from a root by the navigation of `SyntaxNode`: the root; the direct,
    visible and named children of a node reached, and the nodes found below it by byte
    range or holding another node; and the parents and siblings found from the root. -/
inductive Reached (root : Subtree) : SyntaxNode → Prop
  | root : Reached root (ofRoot root)
  | direct {n m : SyntaxNode} {stop : Length} : Reached root n → (m, stop) ∈ n.directChildren →
      Reached root m
  | relevant {n m : SyntaxNode} {index : Nat} {anonymous : Bool} : Reached root n →
      n.relevantChild index anonymous = some m → Reached root m
  | holding {n m d : SyntaxNode} {fuel : Nat} : Reached root n → childWithDescendant d fuel n = some m →
      Reached root m
  | forRange {n m : SyntaxNode} {start stop : Nat} {anonymous : Bool} : Reached root n →
      n.descendantForRange start stop anonymous = some m → Reached root m
  | parent {n m : SyntaxNode} : parentIn root n = some m → Reached root m
  | sibling {n m : SyntaxNode} {forward anonymous : Bool} :
      sibling root n forward anonymous = some m → Reached root m

/-- Every node reached from a root that tiles a text sits on the text. -/
theorem Reached.sits {root : Subtree} {n : SyntaxNode} (h : Subtree.Tiles Y root) (hn : Reached root n) :
    Sits Y n := by
  induction hn with
  | root => exact sits_ofRoot h
  | direct _ hm ih => exact (ih.directChildren hm).1
  | relevant _ hm ih => exact ih.relevantChild hm
  | holding _ hm ih => exact sits_childWithDescendant ih hm
  | forRange _ hm ih => exact sits_descendantForRange ih hm
  | parent hm => exact sits_parentIn h hm
  | sibling hm => exact sits_sibling h hm

end SyntaxNode

/-! ### What an edit keeps -/

/-- Editing a tree that tiles a text with the edit that replaces bytes `s` to `o` by `r`
    gives a tree over the edited text: its length is the new text's, its root tiles the
    new text (every other subtree's padding is its first child's, and its padding and
    size add up to its children's lengths), the root's children are no longer than the
    root, and every node reached from the root starts and ends at the row and column of
    the new text at its bytes. Edits that `validateEdits` accepts against a tree's length
    and a new text give, applied one after another, a tree as long as the new text. -/
theorem SyntaxTree.edit_keeps_geometry {t : SyntaxTree} {X r : ByteArray} {s o : Nat}
    (h : t.root.Tiles X.toList) (hso : s ≤ o) (ho : o ≤ X.size) (next : Nat) :
    let t' := (t.edit (Edit.replacing X s o r) next).1
    let Y := X.toList.take s ++ r.toList ++ X.toList.drop o
    t'.sourceLength = X.size - (o - s) + r.size ∧ t'.root.Tiles Y ∧
      (Subtree.totalOf t'.root.children).bytes ≤ t'.root.size.bytes ∧
      (∀ n, SyntaxNode.Reached t'.root n → Length.At Y n.position ∧ Length.At Y n.stop) ∧
      ∀ (old : SyntaxTree) (edits : List Edit) (input : ByteArray) (next' : Nat),
        validateEdits old.sourceLength edits input.size = .ok () →
        (Parser.applyEdits old edits next').1.sourceLength = input.size := by
  intro t' Y
  have hspl := splice_replacing (r := r) hso ho
  have htiles : t'.root.Tiles Y := SyntaxTree.edit_tiles h hspl (Edit.replacing_replaces hso ho) next
  have hlen : Y.length = s + r.size + (X.toList.length - o) := hspl.length_eq
  have hX := byteArray_length_toList X
  refine ⟨?_, htiles, ?_, fun n hn => ?_, fun old edits input next' hv =>
    Parser.applyEdits_sourceLength hv next'⟩
  · show t'.root.totalBytes = _
    rw [htiles.totalBytes]
    omega
  · rw [htiles.size, Length.bytes_of]
    exact Nat.le_trans (Nat.le_add_left _ 0) htiles.children.covers.le
  · have hsits := hn.sits htiles
    exact ⟨hsits.start, hsits.stop⟩

/-- A root over ` a⏎b`: an inner node over the leaf `a`, then the leaf `b`, each after a
    byte of padding, the second a line feed; the edit replaces that line feed by `cc`. -/
theorem SyntaxTree.edit_keeps_geometry_innerNode :
    let table : ParseTable := ⟨"g", 0, #["end"], #[⟨false, true⟩], 1, 1, #[], #[], #[],
      LexTable.empty, #[], #[], #[], none⟩
    let info (i symbol : Nat) (padding size : Length) : NodeInfo :=
      { (default : NodeInfo) with
        id := i, symbol := symbol, padding := padding, size := size, visible := true, named := true }
    let X : ByteArray := ⟨#[32, 97, 10, 98]⟩
    let inner := Subtree.mk (info 1 3 (Length.of [32]) (Length.of [97]))
      [.mk (info 2 1 (Length.of [32]) (Length.of [97])) []]
    let t : SyntaxTree := ⟨.mk (info 0 4 Length.zero (Length.of [32, 97, 10, 98]))
      [inner, .mk (info 3 2 (Length.of [10]) (Length.of [98])) []], ⟨table, 0⟩⟩
    let r : ByteArray := ⟨#[99, 99]⟩
    t.root.Tiles X.toList ∧
    let t' := (t.edit (Edit.replacing X 2 3 r) 0).1
    let Y := X.toList.take 2 ++ r.toList ++ X.toList.drop 3
    t'.sourceLength = X.size - (3 - 2) + r.size ∧ t'.root.Tiles Y ∧
      (Subtree.totalOf t'.root.children).bytes ≤ t'.root.size.bytes ∧
      (∀ n, SyntaxNode.Reached t'.root n → Length.At Y n.position ∧ Length.At Y n.stop) ∧
      ∀ (old : SyntaxTree) (edits : List Edit) (input : ByteArray) (next' : Nat),
        validateEdits old.sourceLength edits input.size = .ok () →
        (Parser.applyEdits old edits next').1.sourceLength = input.size := by
  intro table info X inner t r
  have hX : X.toList = [32, 97, 10, 98] := byteArray_toList X
  have hinner : Subtree.Spans [32, 97, 10, 98] 0 inner :=
    .node (.cons (.leaf ⟨by decide, rfl⟩ ⟨by decide, rfl⟩) (.nil (by decide))) rfl (by decide)
  have hroot : t.root.Tiles X.toList := by
    rw [hX]
    exact ⟨rfl, rfl, .cons hinner (.cons (.leaf ⟨by decide, rfl⟩ ⟨by decide, rfl⟩) (.nil (by decide)))⟩
  exact ⟨hroot, SyntaxTree.edit_keeps_geometry hroot (by decide) (by decide) 0⟩

end IncrementalLR
