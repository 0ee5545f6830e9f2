import IncrementalLR.Proofs.Parse.Repairs
import IncrementalLR.Proofs.Tree.EditGeometry

/-!
# A fresh parse tiles its text

A parse without an old tree lays its subtrees over the text one after another.
-/

namespace IncrementalLR

open Subtree

variable {X : List UInt8}

/-! ### Stacks over their text -/

/-- Where the top of stack entries stands, and the start for none. -/
def topPosition (es : List StackEntry) : Length := (es.head?.map (·.position)).getD Length.zero

@[simp] theorem topPosition_cons (e : StackEntry) (es : List StackEntry) :
    topPosition (e :: es) = e.position := rfl

theorem Stack.position_eq_topPosition (st : Stack) : st.position = topPosition st.entries := rfl

/-- Stack entries, top first, whose subtrees span the text one after another from its
    start: the bottom entry holds no subtree and stands at the start, and every other
    entry holds a subtree that spans the text from where the entry below stands, and
    stands where the subtree ends. -/
inductive Tiled (X : List UInt8) : List StackEntry → Prop
  | bottom {e : StackEntry} : e.subtree = none → e.position = Length.zero → Tiled X [e]
  | push {e below : StackEntry} {rest : List StackEntry} {t : Subtree} : Tiled X (below :: rest) →
      e.subtree = some t → Spans X below.position.bytes t →
      e.position = below.position.add t.totalSize → Tiled X (e :: below :: rest)

/-- Popping never takes the bottom entry. -/
theorem Stack.popFrom_ne_nil (r : Nat) (acc : List Subtree) (es : List StackEntry) :
    es ≠ [] → (Stack.popFrom r acc es).2 ≠ [] := by
  fun_induction Stack.popFrom r acc es with
  | case1 => exact id
  | case2 => simp
  | case3 _ _ _ rest hstop _ _ ih | case4 _ _ _ rest hstop _ ih =>
    -- popping goes on only while an entry is left below
    have hrest : rest ≠ [] := by
      intro h
      simp [h] at hstop
    exact fun _ => ih hrest

namespace Tiled

variable {es : List StackEntry}

/-- The subtrees of tiled entries, in document order, span the text from its start up to
    where the top entry stands. -/
theorem subtrees (h : Tiled X es) :
    SpansList X 0 (es.filterMap (·.subtree)).reverse ∧
      totalOf (es.filterMap (·.subtree)).reverse = topPosition es := by
  induction h with
  | bottom hsub hpos =>
    rw [List.filterMap_cons_none hsub, List.filterMap_nil, List.reverse_nil, totalOf_nil,
      topPosition_cons, hpos]
    exact ⟨.nil (Nat.zero_le _), rfl⟩
  | @push e below rest t _ hsub hspans hpos ih =>
    obtain ⟨hl, ht⟩ := ih
    rw [List.filterMap_cons_some hsub, List.reverse_cons, totalOf_append, ht, topPosition_cons,
      topPosition_cons, hpos]
    refine ⟨hl.append ?_, by simp⟩
    rw [ht, Nat.zero_add, topPosition_cons]
    exact .cons hspans (.nil hspans.le)

/-- Tiled entries stand at a position of the text. -/
theorem at_top (h : Tiled X es) : Length.At X (topPosition es) := by
  obtain ⟨hl, ht⟩ := h.subtrees
  rw [← ht]
  exact hl.covers

theorem ne_nil (h : Tiled X es) : es ≠ [] := by
  cases h <;> simp

/-- An entry holding a subtree that spans the text from where tiled entries stand, and
    standing where the subtree ends, keeps them tiled. -/
theorem cons {e : StackEntry} {t : Subtree} (h : Tiled X es) (hsub : e.subtree = some t)
    (hspans : Spans X (topPosition es).bytes t) (hpos : e.position = (topPosition es).add t.totalSize) :
    Tiled X (e :: es) := by
  obtain ⟨below, rest, rfl⟩ : ∃ below rest, es = below :: rest := by
    cases h <;> exact ⟨_, _, rfl⟩
  exact .push h hsub hspans hpos

/-- Entries above a tiled suffix: the suffix is tiled, and the subtrees above it span the
    text from where it stands up to where the whole stands. -/
theorem split : ∀ {pre : List StackEntry}, Tiled X (pre ++ es) → es ≠ [] →
    Tiled X es ∧ SpansList X (topPosition es).bytes (pre.filterMap (·.subtree)).reverse ∧
      topPosition (pre ++ es) = (topPosition es).add (totalOf (pre.filterMap (·.subtree)).reverse)
  | [], h, _ => ⟨h, .nil (by simpa using h.at_top.le), by simp⟩
  | p :: pre, h, hes => by
    rw [List.cons_append] at h
    generalize hq : pre ++ es = q at h
    cases h with
    | bottom => exact absurd (List.append_eq_nil_iff.1 hq).2 hes
    | @push _ below rest t hrest hsub hspans hpos =>
      obtain ⟨hsuffix, hl, htop⟩ := split (hq ▸ hrest) hes
      rw [hq, topPosition_cons] at htop
      rw [List.filterMap_cons_some hsub, List.reverse_cons, List.cons_append, hq,
        topPosition_cons, hpos, htop, totalOf_append]
      refine ⟨hsuffix, hl.append ?_, by simp [Length.add_assoc]⟩
      rw [← Length.bytes_add, ← htop]
      exact .cons hspans (.nil hspans.le)

/-- Pushing a subtree that spans the text from where the stack stands keeps it tiled. -/
theorem pushed {st : Stack} (h : Tiled X st.entries) (state : Nat) {t : Subtree}
    (hspans : Spans X st.position.bytes t) : Tiled X (st.pushed state t).entries :=
  h.cons rfl hspans rfl

/-- Pushing subtrees that span the text one after another from where the stack stands
    keeps it tiled, and it then stands where they end. -/
theorem pushAll {st : Stack} (h : Tiled X st.entries) (state : Nat) {l : List Subtree}
    (hl : SpansList X st.position.bytes l) :
    Tiled X (st.pushAll state l).entries ∧
      (st.pushAll state l).position = st.position.add (totalOf l) := by
  induction l generalizing st with
  | nil => exact ⟨h, by simp⟩
  | cons x l ih =>
    cases hl with
    | cons hx hrest =>
      have hnext : SpansList X (st.pushed state x).position.bytes l := by
        rw [Stack.pushed_position, Length.bytes_add, totalSize_bytes]
        exact hrest
      obtain ⟨htiled, hpos⟩ := ih (h.pushed state hx) hnext
      rw [Stack.pushAll_cons, hpos, Stack.pushed_position, totalOf_cons, Length.add_assoc]
      exact ⟨htiled, rfl⟩

/-- Emptying a tiled stack gives subtrees that span the text from its start up to where
    the stack stood, and leaves the bottom entry, tiled. -/
theorem popAll {st : Stack} (h : Tiled X st.entries) :
    SpansList X 0 st.popAll.1 ∧ totalOf st.popAll.1 = st.position ∧ Tiled X st.popAll.2.entries := by
  obtain ⟨above, bottom, hes⟩ : ∃ above bottom, st.entries = above ++ [bottom] :=
    ⟨_, _, (List.dropLast_append_getLast h.ne_nil).symm⟩
  rw [hes] at h
  obtain ⟨hbottom, hl, htop⟩ := h.split (List.cons_ne_nil bottom [])
  have hzero : bottom.position = Length.zero := by
    cases hbottom with
    | bottom _ hpos => exact hpos
  rw [topPosition_cons, hzero, Length.zero_bytes] at hl
  rw [topPosition_cons, hzero, Length.zero_add] at htop
  rw [Stack.popAll_of_eq hes, Stack.position_eq_topPosition, hes, htop]
  exact ⟨hl, rfl, hbottom⟩

/-- Popping subtrees from tiled entries leaves them tiled, with the popped subtrees
    spanning the text from where the rest stands up to where the whole stood. -/
theorem popFrom (h : Tiled X es) (n : Nat) :
    Tiled X (Stack.popFrom n [] es).2 ∧
      SpansList X (topPosition (Stack.popFrom n [] es).2).bytes (Stack.popFrom n [] es).1 ∧
      topPosition es = (topPosition (Stack.popFrom n [] es).2).add (totalOf (Stack.popFrom n [] es).1) := by
  have hne := Stack.popFrom_ne_nil n [] es h.ne_nil
  obtain ⟨pre, hes, hpopped⟩ := Stack.popFrom_split n [] es
  rw [List.append_nil] at hpopped
  rw [hes] at h
  obtain ⟨hrest, hl, htop⟩ := h.split hne
  rw [hpopped]
  refine ⟨hrest, hl, ?_⟩
  rw [← htop, ← hes]

/-- Popping the subtree on top of a tiled stack leaves it tiled, with the subtree
    spanning the text from where the rest stands. -/
theorem pop {st : Stack} (h : Tiled X st.entries) {top : Subtree} (htop : st.topSubtree = some top) :
    st.pop.1.bind (·.subtree) = some top ∧ Tiled X st.pop.2.entries ∧
      Spans X st.pop.2.position.bytes top ∧ st.position = st.pop.2.position.add top.totalSize ∧
      ∃ e, st.entries = e :: st.pop.2.entries ∧ e.subtree = some top := by
  obtain ⟨es, maxDepth⟩ := st
  cases h with
  | bottom hsub _ => simp [Stack.topSubtree, hsub] at htop
  | @push e below rest t hrest hsub hspans hpos =>
    simp only [Stack.topSubtree, List.head?_cons, Option.bind_some, hsub, Option.some.injEq] at htop
    subst htop
    exact ⟨by simp [Stack.pop, hsub], hrest, hspans, hpos, e, rfl, hsub⟩

end Tiled

/-- An action for a lookahead is for a terminal of the table. -/
theorem ParseTable.lt_tokenCount_of_action {t : ParseTable} {state symbol : Nat} {a : Action}
    (h : t.action? state symbol = some a) : symbol < t.tokenCount := by
  unfold ParseTable.action? ParseTable.actionsAt at h
  split at h
  · simp at h
  · omega

/-! ### What the stack holds -/

/-- Every subtree that stack entries hold has property `P`. -/
def EntriesHold (P : Subtree → Prop) (es : List StackEntry) : Prop :=
  ∀ e ∈ es, ∀ t, e.subtree = some t → P t

namespace EntriesHold

variable {P Q : Subtree → Prop} {es : List StackEntry}

theorem mono (h : EntriesHold P es) (hPQ : ∀ t, P t → Q t) : EntriesHold Q es :=
  fun e he t ht => hPQ t (h e he t ht)

theorem of_append {pre : List StackEntry} (h : EntriesHold P (pre ++ es)) : EntriesHold P es :=
  fun e he => h e (List.mem_append_right _ he)

theorem pushed {st : Stack} (h : EntriesHold P st.entries) (state : Nat) {t : Subtree} (ht : P t) :
    EntriesHold P (st.pushed state t).entries := by
  intro e he x hx
  rw [Stack.pushed_entries, List.mem_cons] at he
  rcases he with rfl | he
  · cases hx
    exact ht
  · exact h e he x hx

theorem pushAll {st : Stack} (h : EntriesHold P st.entries) (state : Nat) {l : List Subtree}
    (hl : ∀ x ∈ l, P x) : EntriesHold P (st.pushAll state l).entries := by
  induction l generalizing st with
  | nil => exact h
  | cons x l ih =>
    rw [Stack.pushAll_cons]
    exact ih (h.pushed state (hl x List.mem_cons_self)) fun y hy => hl y (List.mem_cons_of_mem x hy)

/-- The subtrees taken off a stack are among those it held. -/
theorem popAll {st : Stack} (h : EntriesHold P st.entries) : ∀ x ∈ st.popAll.1, P x := by
  intro x hx
  unfold Stack.popAll at hx
  split at hx
  · rename_i bottom rest hrev
    obtain ⟨e, he, hex⟩ := List.mem_filterMap.1 hx
    have hmem : e ∈ st.entries.reverse := by
      rw [hrev]
      exact List.mem_cons_of_mem _ he
    exact h e (List.mem_reverse.1 hmem) x hex
  · cases hx

theorem popFrom (h : EntriesHold P es) (n : Nat) : ∀ x ∈ (Stack.popFrom n [] es).1, P x := by
  intro x hx
  rcases Stack.mem_popFrom hx with hx | ⟨e, he, hex⟩
  · cases hx
  · exact h e he x hex

/-- The entries left after popping hold what they held. -/
theorem popFrom_rest (h : EntriesHold P es) (n : Nat) : EntriesHold P (Stack.popFrom n [] es).2 := by
  obtain ⟨pre, hpre, -⟩ := Stack.popFrom_split n [] es
  rw [hpre] at h
  exact h.of_append

theorem pop {st : Stack} (h : EntriesHold P st.entries) : EntriesHold P st.pop.2.entries := by
  unfold Stack.pop
  split
  · rename_i e rest _ hes
    rw [hes] at h
    exact fun x hx => h x (List.mem_cons_of_mem e hx)
  · exact h

theorem popAll_rest {st : Stack} (h : EntriesHold P st.entries) : EntriesHold P st.popAll.2.entries := by
  unfold Stack.popAll
  split
  · rename_i bottom rest hrev
    intro e he
    rw [List.mem_singleton.1 he]
    exact h bottom (List.mem_reverse.1 (by rw [hrev]; exact List.mem_cons_self))
  · exact h

end EntriesHold

/-- The entries below extras that keep their states keep them too. -/
theorem ExtrasKeepState.of_append {es : List StackEntry} :
    ∀ {pre : List StackEntry}, ExtrasKeepState (pre ++ es) → es ≠ [] → ExtrasKeepState es
  | [], h, _ => h
  | p :: pre, h, hes => by
    rw [List.cons_append] at h
    generalize hq : pre ++ es = q at h
    cases h with
    | bottom => exact absurd (List.append_eq_nil_iff.1 hq).2 hes
    | extra hrest => exact of_append (hq ▸ hrest) hes
    | step hrest => exact of_append (hq ▸ hrest) hes

/-! ### The lookaheads of a fresh parse -/

/-- A lookahead of a fresh parse whose stack stands at `P`: a token lexed there, or an
    assumed terminal other than the end, which is empty. -/
inductive FreshAt (ctx : ParseContext) (P : Length) : Lookahead → Prop
  | lexed {id state : Nat} {scanner : List UInt8} :
      FreshAt ctx P ⟨ofToken ctx.table id
        (nextToken ctx.table ((Cursor.new ctx.input).reset P) state scanner).1 state, false⟩
  | assumed {id symbol state : Nat} : 1 ≤ symbol →
      FreshAt ctx P ⟨missingLeaf ctx.table id symbol state, false⟩

namespace FreshAt

variable {ctx : ParseContext} {P : Length} {la : Lookahead}

theorem reused (h : FreshAt ctx P la) : la.reused = false := by
  cases h <;> rfl

theorem children (h : FreshAt ctx P la) : la.tree.children = [] := by
  cases h <;> rfl

theorem childCount (h : FreshAt ctx P la) : la.tree.childCount = 0 := by
  simp [Subtree.childCount, h.children]

theorem leafSymbol (h : FreshAt ctx P la) : la.tree.leafSymbol = la.tree.symbol := by
  cases h <;> rfl

theorem unreused (h : FreshAt ctx P la) : (⟨la.tree, false⟩ : Lookahead) = la := by
  cases h <;> rfl

/-- An assumed token is empty. -/
theorem empty_of_missing (h : FreshAt ctx P la) : la.tree.isMissing = true → la.tree.totalBytes = 0 := by
  cases h <;> simp [Subtree.totalBytes, missingLeaf, NodeInfo.blank, Subtree.padding, Subtree.size]

/-- The lookahead spans the text from where the stack stands. -/
theorem spans (h : FreshAt ctx P la) (hP : Length.At ctx.input.toList P) :
    Spans ctx.input.toList P.bytes la.tree := by
  rw [byteArray_toList] at hP ⊢
  cases h with
  | @lexed id state scanner =>
    obtain ⟨hpad, htoken, -⟩ :=
      nextToken_positions ctx.table ((Cursor.valid_new ctx.input).reset hP) state scanner
    rw [Cursor.reset_position] at hpad htoken
    have hspans := spans_ofToken ctx.table id state (hpad ▸ htoken) (hpad ▸ hP)
    rwa [hpad] at hspans
  | assumed => exact spans_missingLeaf (by simpa using hP.le) _ _ _ _

end FreshAt

end IncrementalLR
