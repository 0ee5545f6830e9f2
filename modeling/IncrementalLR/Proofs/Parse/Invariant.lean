import IncrementalLR.Proofs.Parse.LRPath
import IncrementalLR.Proofs.Tree.Derived

/-!
# The parse invariant

Throughout a parse with a table built from a grammar, the stack is a path of the table's
automaton, every subtree on it is a derivation of the grammar, and every tree the reuse
cursor can offer is a derivation too, or the root of an old parse.
-/

namespace IncrementalLR

open Subtree

variable {g : Grammar}

/-! ### The reuse cursor -/

/-- Every tree a reuse cursor can offer has property `P`, and every later sibling on its
    path has property `Q`. -/
def ReuseCursor.Holds (P Q : Subtree → Prop) (c : ReuseCursor) : Prop :=
  ∀ e ∈ c.path, P e.tree ∧ ∀ x ∈ e.later, Q x

/-- Properties that the moves of a reuse cursor keep: a later sibling is offered in turn,
    and a tree that can be offered is broken down into children that are later siblings
    of one another. -/
structure ReuseCursor.Moves (P Q : Subtree → Prop) : Prop where
  later : ∀ x, Q x → P x
  child : ∀ x, P x → ∀ c ∈ x.children, Q c

/-- An entry of the reuse cursor offers a reusable tree, and its later siblings are
    derivations. -/
def ReuseEntry.Good (g : Grammar) (e : ReuseEntry) : Prop :=
  e.tree.Reusable g ∧ ∀ x ∈ e.later, x.Derived g

/-- Every entry of the cursor's path is good. -/
def ReuseCursor.Good (g : Grammar) (c : ReuseCursor) : Prop := ∀ e ∈ c.path, e.Good g

namespace ReuseCursor

section Holds

variable {P Q : Subtree → Prop} {c : ReuseCursor}

theorem holds_empty : empty.Holds P Q := by
  simp [Holds, empty]

theorem holds_start {root : Subtree} (h : P root) : (start root).Holds P Q := by
  intro e he
  simp only [start, List.mem_singleton] at he
  subst he
  exact ⟨h, by simp⟩

theorem holds_nextSibling (hm : Moves P Q) (offset : Nat) (path : List ReuseEntry)
    (h : ∀ e ∈ path, P e.tree ∧ ∀ x ∈ e.later, Q x) :
    ∀ e ∈ nextSibling offset path, P e.tree ∧ ∀ x ∈ e.later, Q x := by
  fun_induction nextSibling offset path with
  | case1 popped next rest sibling later hlater =>
    intro e he
    rcases List.mem_cons.1 he with rfl | he
    · have hpopped := (h popped List.mem_cons_self).2
      rw [hlater] at hpopped
      exact ⟨hm.later _ (hpopped sibling List.mem_cons_self),
        fun x hx => hpopped x (List.mem_cons_of_mem _ hx)⟩
    · exact h e (List.mem_cons_of_mem _ he)
  | case2 popped next rest hlater ih =>
    exact ih fun e he => h e (List.mem_cons_of_mem _ he)
  | case3 => simp
  | case4 => simp

theorem Holds.advance (hm : Moves P Q) (h : c.Holds P Q) : c.advance.Holds P Q := by
  unfold ReuseCursor.advance
  split
  · exact holds_nextSibling hm _ _ h
  · exact h

theorem Holds.descend (hm : Moves P Q) (h : c.Holds P Q) {r : ReuseCursor}
    (hd : c.descend? = some r) : r.Holds P Q := by
  unfold descend? at hd
  split at hd
  · rename_i last rest hpath
    split at hd
    · rename_i first later hchildren
      cases hd
      intro e he
      rcases List.mem_cons.1 he with rfl | he
      · have hlast := (h last (by rw [hpath]; exact List.mem_cons_self)).1
        refine ⟨hm.later _ (hm.child _ hlast _ (by rw [hchildren]; exact List.mem_cons_self)),
          fun x hx => ?_⟩
        exact hm.child _ hlast _ (by rw [hchildren]; exact List.mem_cons_of_mem _ hx)
      · exact h e he
    · cases hd
  · cases hd

theorem holds_leftSpineOnto (hm : Moves P Q) (offset : Nat) (t : Subtree) (path : List ReuseEntry)
    (ht : P t) (h : ∀ e ∈ path, P e.tree ∧ ∀ x ∈ e.later, Q x) :
    ∀ e ∈ leftSpineOnto offset t path, P e.tree ∧ ∀ x ∈ e.later, Q x := by
  fun_induction leftSpineOnto offset t path with
  | case1 => exact h
  | case2 i first later path ih =>
    have hfirst : P first := hm.later _ (hm.child _ ht _ List.mem_cons_self)
    refine ih hfirst fun e he => ?_
    rcases List.mem_cons.1 he with rfl | he
    · exact ⟨hfirst, fun x hx => hm.child _ ht _ (List.mem_cons_of_mem _ hx)⟩
    · exact h e he

theorem Holds.advancePastLeaf (hm : Moves P Q) (h : c.Holds P Q) :
    c.advancePastLeaf.Holds P Q := by
  unfold ReuseCursor.advancePastLeaf
  split
  · rename_i last rest hpath
    refine Holds.advance hm fun e he => ?_
    exact holds_leftSpineOnto hm _ _ _ (h last (by rw [hpath]; exact List.mem_cons_self)).1 h e he
  · exact h.advance hm

theorem Holds.descendOrAdvance (hm : Moves P Q) (h : c.Holds P Q) :
    (c.descend?.getD c.advance).Holds P Q := by
  cases hd : c.descend? with
  | some r => exact h.descend hm hd
  | none => exact h.advance hm

/-- The head of a cursor's path offers a tree with the property. -/
theorem Holds.head (h : c.Holds P Q) {entry : ReuseEntry} {rest : List ReuseEntry}
    (hpath : c.path = entry :: rest) : P entry.tree :=
  (h entry (by rw [hpath]; exact List.mem_cons_self)).1

/-- The reuse walk keeps what the cursor's trees have, and finds a tree that has it. -/
theorem holds_reuseWalk (hm : Moves P Q) (ctx : ParseContext) (state : Nat) (position : Length)
    (scanner : List UInt8) {c : ReuseCursor} (h : c.Holds P Q) :
    (reuseWalk ctx state position scanner c).2.1.Holds P Q ∧
      ∀ x ∈ (reuseWalk ctx state position scanner c).1, P x := by
  fun_induction reuseWalk ctx state position scanner c with
  | case1 => exact ⟨h, by simp⟩
  | case2 => exact ⟨h, by simp⟩
  | case3 c entry tail hpath tree offset endOffset symbol hgt hlt moved hmoved found c' log heq ih =>
    have hmoved : moved.Holds P Q := by
      simp only [moved]
      split
      · exact h.advance hm
      · exact h.descendOrAdvance hm
    rw [heq] at ih
    exact ih hmoved
  | case4 c entry tail hpath tree offset symbol hgt hlt hscan hmoved found c' log heq ih =>
    rw [heq] at ih
    exact ih (h.advance hm)
  | case5 c entry tail hpath tree offset endOffset symbol hgt hlt hscan reason hreason moved hmoved
      found c' log heq ih =>
    rw [heq] at ih
    exact ih (h.descendOrAdvance hm)
  | case6 => exact ⟨h.advancePastLeaf hm, by simp⟩
  | case7 c entry tail hpath =>
    refine ⟨h, fun x hx => ?_⟩
    cases hx
    exact h.head hpath

/-- The breakdown walk keeps what the cursor's trees have, and finds a tree that has it. -/
theorem holds_breakdownWalk (hm : Moves P Q) (ctx : ParseContext) (state : Nat) {c : ReuseCursor}
    (h : c.Holds P Q) :
    (breakdownWalk ctx state c).2.1.Holds P Q ∧ ∀ x ∈ (breakdownWalk ctx state c).1, P x := by
  fun_induction breakdownWalk ctx state c with
  | case1 => exact ⟨h, by simp⟩
  | case2 c entry tail hpath =>
    refine ⟨h, fun x hx => ?_⟩
    cases hx
    exact h.head hpath
  | case3 c entry tail hpath tree hcond note r hd hr found c' log heq ih =>
    rw [heq] at ih
    exact ih (h.descend hm hd)
  | case4 => exact ⟨h, by simp⟩

end Holds

/-- A reusable tree breaks down into derivations, which are reusable. -/
theorem reusable_moves : Moves (Reusable g) (Derived g) :=
  ⟨fun _ h => .inl h, fun _ h _ hc => h.child hc⟩

variable {c : ReuseCursor}

theorem good_empty : empty.Good g := holds_empty

theorem good_start {root : Subtree} (h : root.DerivedRoot g) : (start root).Good g :=
  holds_start (.inr h)

theorem Good.advance (h : c.Good g) : c.advance.Good g :=
  Holds.advance reusable_moves h

/-- The reuse walk moves a good cursor to a good cursor and finds a reusable tree. -/
theorem good_reuseWalk (ctx : ParseContext) (state : Nat) (position : Length)
    (scanner : List UInt8) {c : ReuseCursor} (h : c.Good g) :
    (reuseWalk ctx state position scanner c).2.1.Good g ∧
      ∀ x ∈ (reuseWalk ctx state position scanner c).1, x.Reusable g :=
  holds_reuseWalk reusable_moves ctx state position scanner h

/-- The breakdown walk moves a good cursor to a good cursor and finds a reusable tree. -/
theorem good_breakdownWalk (ctx : ParseContext) (state : Nat) {c : ReuseCursor} (h : c.Good g) :
    (breakdownWalk ctx state c).2.1.Good g ∧ ∀ x ∈ (breakdownWalk ctx state c).1, x.Reusable g :=
  holds_breakdownWalk reusable_moves ctx state h

end ReuseCursor

/-! ### Lookaheads and stack trees -/

/-- A reusable leaf is a derivation. -/
theorem Subtree.Reusable.derived_of_leaf {x : Subtree} (h : x.Reusable g) (hx : x.children = []) :
    x.Derived g :=
  Subtree.derived_of_leaf hx (h.leaf hx)

/-- A lookahead the parser may feed: a reusable tree, which is a leaf when it was lexed
    fresh. -/
def Lookahead.Sound (g : Grammar) (la : Lookahead) : Prop :=
  la.tree.Reusable g ∧ (la.reused = false → la.tree.children = [])

/-- A fresh leaf seen by its own symbol is a sound lookahead. -/
theorem Lookahead.sound_fresh {tree : Subtree} (hx : tree.children = [])
    (hleaf : tree.leafSymbol = tree.symbol) : (⟨tree, false⟩ : Lookahead).Sound g :=
  ⟨.inl (Subtree.derived_of_leaf hx hleaf), fun _ => hx⟩

/-- A freshly lexed leaf is a sound lookahead. -/
theorem Lookahead.sound_ofToken {la : Lookahead} {table : ParseTable} {id : Nat} {token : Token}
    {state : Nat} (h : la.tree = Subtree.ofToken table id token state) : la.Sound g :=
  ⟨.inl (h ▸ derived_ofToken ..), fun _ => h ▸ ofToken_children ..⟩

/-- A part of a sound lookahead with children is sound in its place: such a lookahead
    was reused. -/
theorem Lookahead.Sound.part {la : Lookahead} (hla : la.Sound g) (hcount : 0 < la.tree.childCount)
    {tree : Subtree} (ht : tree.Reusable g) : ({ la with tree } : Lookahead).Sound g :=
  ⟨ht, fun hr => absurd (hla.2 hr) (List.ne_nil_of_length_pos hcount)⟩

/-- A subtree as the stack holds it: a derivation, and, when it is a nonterminal that is
    neither an extra nor an error, an instance of a production of its symbol, also when
    it has no children. -/
structure Subtree.Stacked (g : Grammar) (x : Subtree) : Prop where
  derived : x.Derived g
  nonterminal : x.isExtra = false → g.tokenCount ≤ x.symbol → x.symbol ≠ errorSymbol →
    g.Instance x.symbol x.children

namespace Subtree.Stacked

variable {x : Subtree}

theorem of_extra (h : x.Derived g) (hx : x.isExtra = true) : x.Stacked g :=
  ⟨h, fun hx' => by rw [hx] at hx'; cases hx'⟩

theorem of_children (h : x.Derived g) (hx : x.children ≠ []) : x.Stacked g :=
  ⟨h, fun _ _ herr => (h.node hx herr).2⟩

theorem of_token (h : x.Derived g) (hx : x.symbol < g.tokenCount) : x.Stacked g :=
  ⟨h, fun _ hge => absurd hge (Nat.not_le.2 hx)⟩

end Subtree.Stacked

/-- The symbol of a production instance is a symbol of the grammar. -/
theorem Grammar.Instance.symbol_lt {A : Nat} {cs : List Subtree} (hwf : g.WellFormed)
    (h : g.Instance A cs) : A < g.symbolNames.size := by
  obtain ⟨p, prod, -, hprod, hlhs, -⟩ := h.spells
  rw [← hlhs]
  exact hwf.lhs_lt prod (Array.mem_of_getElem? hprod)

theorem ParseTable.goto_errorSymbol (t : ParseTable) (state : Nat) : t.goto state errorSymbol = 0 :=
  if_pos (.inl rfl)

/-! ### The invariant -/

/-- Every subtree on the entries is held as the stack holds it. -/
def EntriesStacked (g : Grammar) (es : List StackEntry) : Prop :=
  ∀ e ∈ es, ∀ x, e.subtree = some x → x.Stacked g

theorem EntriesStacked.cons {es : List StackEntry} (h : EntriesStacked g es) {x : Subtree}
    (hx : x.Stacked g) (state : Nat) (pos : Length) (height : Nat) :
    EntriesStacked g (⟨state, some x, pos, height⟩ :: es) := by
  intro e he y hy
  rcases List.mem_cons.1 he with rfl | he
  · cases hy
    exact hx
  · exact h e he y hy

theorem EntriesStacked.of_suffix {pre es : List StackEntry} (h : EntriesStacked g (pre ++ es)) :
    EntriesStacked g es :=
  fun e he => h e (List.mem_append_right _ he)

/-- What holds of every state of a parse with a table built from `g`: the stack is a
    path of the automaton holding derivations, and the reuse cursor offers reusable
    trees. -/
structure RunInv (g : Grammar) (t : ParseTable) (s : RunState) : Prop where
  path : StackPath t s.stack.entries
  stacked : EntriesStacked g s.stack.entries
  cursor : s.reuse.Good g

variable {t : ParseTable} {s s' : RunState}

theorem RunInv.of_eq (h : RunInv g t s) (hstack : s'.stack = s.stack) (hreuse : s'.reuse = s.reuse) :
    RunInv g t s' :=
  ⟨hstack ▸ h.path, hstack ▸ h.stacked, hreuse ▸ h.cursor⟩

/-- Emptying the stack leaves a path, and every subtree taken off is as the stack held
    it. -/
theorem RunInv.popAll (h : RunInv g t s) :
    StackPath t s.stack.popAll.2.entries ∧ ∀ y ∈ s.stack.popAll.1, y.Stacked g := by
  obtain ⟨above, bottom, hes, hstate, hsub⟩ := h.path.exists_bottom
  rw [Stack.popAll_of_eq hes]
  refine ⟨.bottom hstate hsub, fun y hy => ?_⟩
  obtain ⟨e, he, hey⟩ := List.mem_filterMap.1 (List.mem_reverse.1 hy)
  exact h.stacked e (hes ▸ List.mem_append_left _ he) y hey

/-- A state whose stack was emptied keeps the invariant. -/
theorem RunInv.emptied (hinv : RunInv g t s) (hentries : s'.stack.entries = s.stack.popAll.2.entries)
    (hreuse : s'.reuse = s.reuse) : RunInv g t s' := by
  refine ⟨hentries ▸ hinv.popAll.1, ?_, hreuse ▸ hinv.cursor⟩
  obtain ⟨above, bottom, hes, -, hsub⟩ := hinv.path.exists_bottom
  rw [hentries, Stack.popAll_of_eq hes]
  intro e he x hx
  rw [List.mem_singleton.1 he, hsub] at hx
  cases hx

theorem RunInv.withLog (hinv : RunInv g t s) {l : Array LogLine} :
    RunInv g t { s with log := l } :=
  hinv.of_eq rfl rfl

/-- A state with the same stack and a good cursor keeps the invariant. -/
theorem RunInv.of_cursor (hinv : RunInv g t s) (hstack : s'.stack = s.stack)
    (hreuse : s'.reuse.Good g) : RunInv g t s' :=
  ⟨hstack ▸ hinv.path, hstack ▸ hinv.stacked, hreuse⟩

theorem Stack.popCount_eq (st : Stack) (count : Nat) :
    st.popCount count =
      ((Stack.popFrom count [] st.entries).1, { st with entries := (Stack.popFrom count [] st.entries).2 }) :=
  rfl

/-- In the invariant, a reduction the table asks for pops subtrees whose symbols, the
    extras aside, are the right side of a production of its symbol, and the state below
    them has a goto on it. -/
theorem RunInv.reduce_pops {sets : ItemSets} (hb : t.Built g sets) (hinv : RunInv g t s)
    {a A n production : Nat} (hact : t.action? s.stack.state a = some (.reduce A n production)) :
    (∃ p prod, 1 ≤ p ∧ g.productions[p]? = some prod ∧ prod.lhs = A ∧ prod.rhs.length = n ∧
      ((s.stack.popCount n).1.filter fun x => !x.isExtra).map Subtree.symbol = prod.rhs) ∧
      t.goto (s.stack.popCount n).2.state A ≠ 0 := by
  obtain ⟨⟨p, prod, hp, hprod, hlhs, hlen, hpop⟩, hgoto, -⟩ := hinv.path.reduce hb hact
  refine ⟨⟨p, prod, hp, hprod, hlhs, hlen, ?_⟩, hgoto⟩
  rw [Stack.popCount_eq, hpop.symbols, ← hlen, List.take_length]

/-! ### The operations -/

section Steps

open ParseM

variable {ctx : ParseContext} {sets : ItemSets} {la : Lookahead}

/-- Shifting a leaf pushes it into the shift's target, or as an extra in place. -/
theorem RunInv.shiftLeaf (hb : ctx.table.Built g sets) (hinv : RunInv g ctx.table s)
    (hla : la.Sound g) {next : Nat} {extra : Bool}
    (hact : ctx.table.action? s.stack.state la.tree.leafSymbol = some (.shift next extra))
    (hleaf : la.tree.childCount = 0)
    (h : (shift (if extra then s.stack.state else next) la extra).exec ctx s = some (.ok ((), s'))) :
    RunInv g ctx.table s' := by
  obtain ⟨hstack, hreuse, -, -⟩ := exec_shift h
  have hentries := congrArg Stack.entries hstack
  rw [Stack.pushed_entries, if_pos hleaf] at hentries
  have hc : la.tree.children = [] := List.length_eq_zero_iff.1 hleaf
  have hd := derived_withExtra_of_leaf (hla.1.derived_of_leaf hc) hc extra s.nextId
  have hsym : la.tree.leafSymbol = la.tree.symbol := hla.1.leaf hc
  refine ⟨?_, ?_, ?_⟩
  · rw [hentries]
    cases extra
    · refine hinv.path.push_step (withExtra_isExtra ..) (.inl ?_) _ _
      rw [withExtra_symbol, ← hsym]
      exact hact
    · exact hinv.path.push_extra (withExtra_isExtra ..) _ _
  · rw [hentries]
    refine hinv.stacked.cons ?_ _ _ _
    cases extra
    · -- a leaf shifted into a state is a terminal of the table
      refine .of_token hd ?_
      rw [withExtra_symbol, ← hsym, ← hb.tokenCount_eq]
      exact (hb.action_sound hact).1
    · exact .of_extra hd (withExtra_isExtra ..)
  · rw [hreuse]
    split
    · exact hinv.cursor.advance
    · exact hinv.cursor

/-- Shifting a reused node pushes it into the goto of its symbol. -/
theorem RunInv.shiftNode (hb : ctx.table.Built g sets) (hinv : RunInv g ctx.table s)
    (hla : la.Sound g) (hcount : 0 < la.tree.childCount)
    (hstate : la.tree.parseState = s.stack.state)
    (hgoto : ctx.table.goto s.stack.state la.tree.symbol ≠ 0)
    (h : (shift (ctx.table.goto s.stack.state la.tree.symbol) la false).exec ctx s =
      some (.ok ((), s'))) :
    RunInv g ctx.table s' := by
  obtain ⟨hstack, hreuse, -, -⟩ := exec_shift h
  have hentries := congrArg Stack.entries hstack
  rw [Stack.pushed_entries, if_neg (Nat.pos_iff_ne_zero.1 hcount)] at hentries
  have hc : la.tree.children ≠ [] := List.ne_nil_of_length_pos hcount
  -- a tree built in a state of the path is not an old root, which was built in state 0
  have hd : la.tree.Derived g := by
    refine hla.1.derived ?_
    rw [hstate, Stack.state_eq_topState]
    exact Nat.pos_iff_ne_zero.1 (hinv.path.top_items hb).1
  have herr : la.tree.symbol ≠ errorSymbol := by
    intro herr
    rw [herr, ParseTable.goto_errorSymbol] at hgoto
    exact hgoto rfl
  obtain ⟨hextra, hinst⟩ := hd.node hc herr
  have hlt : la.tree.symbol < ctx.table.symbolCount := by
    rw [hb.symbolCount_eq]
    exact hinst.symbol_lt hb.wellFormed
  refine ⟨?_, ?_, ?_⟩
  · rw [hentries]
    exact hinv.path.push_step hextra (.inr ⟨hlt, rfl, hgoto⟩) _ _
  · rw [hentries]
    exact hinv.stacked.cons (.of_children hd hc) _ _ _
  · rw [hreuse]
    split
    · exact hinv.cursor.advance
    · exact hinv.cursor

/-- The children a reduction keeps instantiate the production the item path names. -/
theorem PoppedItem.instance {p n : Nat} {prod : Production}
    {r : List Subtree × List StackEntry} (hpop : PoppedItem t g sets p n prod r) (hp : 1 ≤ p)
    (hprod : g.productions[p]? = some prod) (hlen : prod.rhs.length = n)
    (hzero : n = 0 → r.1 = []) :
    g.Instance prod.lhs (splitTrailingExtras r.1).1 := by
  refine ⟨⟨p, prod, hp, hprod, rfl, ?_⟩, ?_, splitTrailingExtras_fst_last _⟩
  · rw [splitTrailingExtras_filter, hpop.symbols, ← hlen, List.take_length]
  · rcases Nat.eq_zero_or_pos n with hn | hn
    · rw [hzero hn]
      simp [splitTrailingExtras]
    · obtain ⟨x, xs, hxs, hx⟩ := hpop.first hn
      rw [hxs, splitTrailingExtras_head hx]
      simpa using hx

/-- A reduction the table asks for wraps a right side of its symbol in a node, which it
    pushes with the trailing extras into the goto below them. -/
theorem RunInv.reduce (hb : ctx.table.Built g sets) (hinv : RunInv g ctx.table s)
    {a A n production : Nat}
    (hact : ctx.table.action? s.stack.state a = some (.reduce A n production))
    (h : (ParseM.reduce A n production la.tree).exec ctx s = some (.ok ((), s'))) :
    RunInv g ctx.table s' := by
  obtain ⟨hreuse, -, -, k, hstack⟩ := exec_reduce h
  obtain ⟨es, pos, height, hentries, hview⟩ := Stack.pushed_pushAll_entries _ _ _ _
  rw [← hstack] at hentries
  obtain ⟨⟨p, prod, hp1, hprod, hlhs, hlen, hpop⟩, hgoto, hlt⟩ := hinv.path.reduce hb hact
  simp only [Stack.popCount_eq, Stack.state_eq_topState] at hentries hview
  obtain ⟨pre, hpre, hpopped⟩ := Stack.popFrom_split n [] s.stack.entries
  have hstacked := hinv.stacked
  rw [hpre] at hstacked
  -- the popped subtrees are subtrees of the stack
  have hchildren : ∀ x ∈ (Stack.popFrom n [] s.stack.entries).1, x.Stacked g := by
    intro x hx
    rw [hpopped, List.append_nil] at hx
    obtain ⟨e, he, hex⟩ := List.mem_filterMap.1 (List.mem_reverse.1 hx)
    exact hstacked e (List.mem_append_left _ he) x hex
  have hsplit := splitTrailingExtras_append (Stack.popFrom n [] s.stack.entries).1
  have hinst := hpop.instance hp1 hprod hlen fun hn => by
    subst hn
    rw [Stack.popFrom_zero]
  rw [hlhs] at hinst
  have hkids : ∀ c ∈ (splitTrailingExtras (Stack.popFrom n [] s.stack.entries).1).1, c.Derived g :=
    fun c hc => (hchildren c (hsplit ▸ List.mem_append_left _ hc)).derived
  have hnode : ((Subtree.node ctx.table s.nextId A (splitTrailingExtras (Stack.popFrom n [] s.stack.entries).1).1
      production (topState (Stack.popFrom n [] s.stack.entries).2)).extendLookahead k).Derived g :=
    (derived_node hinst hkids).extendLookahead k
  refine ⟨?_, ?_, ?_⟩
  · rw [hentries]
    refine StackPath.push_extras _ (hpop.path.push_step ?_ (.inr ⟨?_, ?_, ?_⟩) pos height)
      (splitTrailingExtras_snd_extra _) hview
    · simp
    · simpa using hlt
    · simp
    · simpa using hgoto
  · rw [hentries]
    intro e he x hx
    rcases List.mem_append.1 he with he | he
    · -- a trailing extra, pushed back above the node
      have hmem := List.mem_map_of_mem (f := StackEntry.view) he
      rw [hview, List.mem_reverse, List.mem_map] at hmem
      obtain ⟨y, hy, hey⟩ := hmem
      simp only [StackEntry.view, Prod.mk.injEq] at hey
      rw [(Option.some.inj (hey.2.trans hx)).symm]
      exact .of_extra (hchildren y (hsplit ▸ List.mem_append_right _ hy)).derived
        (splitTrailingExtras_snd_extra _ y hy)
    · exact (EntriesStacked.of_suffix hstacked).cons
        ⟨hnode, fun _ _ _ => by simpa using hinst⟩ _ pos height e he x hx
  · rw [hreuse]
    exact hinv.cursor

/-- Skipping a leaf pushes an extra error node in place, after popping the extra error
    node it merges with. -/
theorem RunInv.skipToken (hinv : RunInv g ctx.table s) {token : Subtree}
    (htoken : token.Derived g) (hleaf : token.children = [])
    (h : (skipToken token).exec ctx s = some (.ok ((), s'))) : RunInv g ctx.table s' := by
  obtain ⟨hreuse, error, pos, height, base, hentries, hextra, hsym, hcases⟩ := exec_skipToken h
  rcases hcases with ⟨rfl, hwrap⟩ | ⟨top, htop, -, htopextra, hbase, hmem, hchildren⟩
  · have hd : error.Derived g := by
      rcases hwrap with ⟨-, id, rfl⟩ | hc
      · exact derived_withExtra_of_leaf htoken hleaf true id
      · exact derived_of_error hsym (by simp [hc]) (by simpa [hc] using htoken)
    refine ⟨?_, ?_, hreuse ▸ hinv.cursor⟩
    · rw [hentries]
      exact hinv.path.push_extra hextra pos height
    · rw [hentries]
      exact hinv.stacked.cons (.of_extra hd hextra) _ pos height
  -- the extra error node on top is popped and replaced by the merged one
  · obtain ⟨e, rest, hes, hesub⟩ : ∃ e rest, s.stack.entries = e :: rest ∧ e.subtree = some top := by
      unfold Stack.topSubtree at htop
      cases hes : s.stack.entries with
      | nil => simp [hes] at htop
      | cons e rest => exact ⟨e, rest, rfl, by simpa [hes] using htop⟩
    have hpath := hinv.path
    rw [hes] at hpath
    obtain ⟨hrest, hstate⟩ := hpath.pop_extra hesub htopextra
    obtain ⟨below, rest', rfl⟩ : ∃ below rest', rest = below :: rest' := by
      cases hrest <;> exact ⟨_, _, rfl⟩
    have hpop : s.stack.pop.2.entries = below :: rest' := by
      simp [Stack.pop, hes]
    have hstacked := hinv.stacked
    rw [hes] at hstacked
    have htopd : top.Derived g := (hstacked e List.mem_cons_self top hesub).derived
    have hd : error.Derived g := by
      refine derived_of_error hsym (List.ne_nil_of_mem hmem) fun c hc => ?_
      rcases hchildren c hc with rfl | hc | ⟨hempty, cid, rfl⟩
      · exact htoken
      · exact htopd.child hc
      · exact derived_withExtra_of_leaf htopd hempty false cid
    have hstate' : s.stack.state = topState (below :: rest') := by
      rw [Stack.state_eq_topState, hes, topState_cons, hstate]
    refine ⟨?_, ?_, hreuse ▸ hinv.cursor⟩
    · rw [hentries, hbase, hpop, hstate']
      exact hrest.push_extra hextra pos height
    · rw [hentries, hbase, hpop]
      have hbelow : EntriesStacked g (below :: rest') :=
        EntriesStacked.of_suffix (show EntriesStacked g ([e] ++ below :: rest') from hstacked)
      exact hbelow.cons (.of_extra hd hextra) _ pos height

/-- The root of a parse that ends in error is a derived root. -/
theorem RunInv.errorRoot (hinv : RunInv g t s) (table : ParseTable) (id : Nat) (total : Length) :
    (Subtree.root table id errorSymbol 0 s.stack.popAll.1 total).DerivedRoot g :=
  derivedRoot_root (fun c hc => (hinv.popAll.2 c hc).derived) fun h => absurd rfl h

/-- Splicing the children of the one subtree of the start symbol between the extras
    around it gives a root that spells a production of the start symbol. -/
theorem derivedRoot_splice (hwf : g.WellFormed) {table : ParseTable} {id : Nat} {total : Length}
    {pre xs : List Subtree} {x : Subtree} (hpre : ∀ y ∈ pre, y.isExtra = true)
    (hxs : ∀ y ∈ xs, y.isExtra = true) (hstacked : ∀ y ∈ pre ++ x :: xs, y.Stacked g)
    (hx : x.isExtra = false) (hsym : x.symbol = g.startSymbol) (herr : x.symbol ≠ errorSymbol) :
    (Subtree.root table id x.symbol x.production (pre ++ x.children ++ xs) total).DerivedRoot g := by
  have hxs' := (hstacked x (List.mem_append_right _ List.mem_cons_self))
  obtain ⟨p, prod, hp, hprod, hlhs, hspell⟩ :=
    (hxs'.nonterminal hx (Nat.le_of_eq (by rw [hsym, hwf.start])) herr).spells
  refine derivedRoot_root (fun c hc => ?_) fun _ => ⟨hsym, p, prod, hp, hprod, hlhs.trans hsym, ?_⟩
  · rcases List.mem_append.1 hc with hc | hc
    · rcases List.mem_append.1 hc with hc | hc
      · exact (hstacked c (List.mem_append_left _ hc)).derived
      · exact hxs'.derived.child hc
    · exact (hstacked c (List.mem_append_right _ (List.mem_cons_of_mem _ hc))).derived
  · have hnil : ∀ l : List Subtree, (∀ y ∈ l, y.isExtra = true) → l.filter (fun c => !c.isExtra) = [] :=
      fun l hl => List.filter_eq_nil_iff.2 fun y hy => by simp [hl y hy]
    rw [List.filter_append, List.filter_append, hnil pre hpre, hnil xs hxs, List.nil_append,
      List.append_nil, hspell]

/-- What accepting on a path returns: an error root over everything the stack held, or
    a root that takes the children of the one subtree of the start symbol, with its
    production, between the extras around it. -/
theorem RunInv.accept_root (hb : ctx.table.Built g sets) (hinv : RunInv g ctx.table s) {a : Nat}
    {root : Subtree} (hact : ctx.table.action? s.stack.state a = some .accept)
    (h : ParseM.accept.exec ctx s = some (.ok (root, s'))) :
    ∃ id, root = Subtree.root ctx.table id errorSymbol 0 s.stack.popAll.1 ctx.total ∨
      ∃ pre x xs, s.stack.popAll.1 = pre ++ x :: xs ∧ (∀ y ∈ pre, y.isExtra = true) ∧
        (∀ y ∈ xs, y.isExtra = true) ∧ x.isExtra = false ∧ x.symbol = g.startSymbol ∧
        x.symbol ≠ errorSymbol ∧
        root = Subtree.root ctx.table id x.symbol x.production (pre ++ x.children ++ xs) ctx.total := by
  obtain ⟨-, -, id, hroot⟩ := exec_accept h
  refine ⟨id, ?_⟩
  rcases hroot with hroot | ⟨i, x', hi, hx', -, -, hx'err, rfl⟩
  · exact .inl hroot
  -- the subtree the root takes the place of is the one subtree of the start symbol
  · obtain ⟨above, bottom, pre, x, xs, hes, -, -, hsubs, hx, hxsym, hpre, hxs⟩ :=
      hinv.path.accept hb hact
    have hall : s.stack.popAll.1 = pre ++ x :: xs := by
      rw [Stack.popAll_of_eq hes]
      exact hsubs
    rw [hall] at hi ⊢
    have hipre : i = pre.length := by
      rcases Nat.lt_trichotomy i pre.length with hlt | heq | hgt
      · rw [List.getElem?_append_left hlt] at hi
        have := hpre x' (List.mem_of_getElem? hi)
        rw [hx'] at this
        cases this
      · exact heq
      · rw [List.getElem?_append_right (Nat.le_of_lt hgt)] at hi
        obtain ⟨j, hj⟩ : ∃ j, i - pre.length = j + 1 := ⟨i - pre.length - 1, by omega⟩
        rw [hj, List.getElem?_cons_succ] at hi
        have := hxs x' (List.mem_of_getElem? hi)
        rw [hx'] at this
        cases this
    subst hipre
    rw [List.getElem?_append_right (Nat.le_refl _), Nat.sub_self, List.getElem?_cons_zero] at hi
    cases hi
    have herr : x'.symbol ≠ errorSymbol := by simpa [Subtree.isError] using hx'err
    have htake : (pre ++ x' :: xs).take pre.length = pre := List.take_left' rfl
    have hdrop : (pre ++ x' :: xs).drop (pre.length + 1) = xs := by simp
    rw [htake, hdrop]
    exact .inr ⟨pre, x', xs, rfl, hpre, hxs, hx, hxsym, herr, rfl⟩

/-- Accepting on a path wraps what the stack holds in a derived root. -/
theorem RunInv.accept (hb : ctx.table.Built g sets) (hinv : RunInv g ctx.table s) {a : Nat}
    {root : Subtree} (hact : ctx.table.action? s.stack.state a = some .accept)
    (h : ParseM.accept.exec ctx s = some (.ok (root, s'))) :
    RunInv g ctx.table s' ∧ root.DerivedRoot g := by
  obtain ⟨hentries, hreuse, -⟩ := exec_accept h
  refine ⟨hinv.emptied hentries hreuse, ?_⟩
  obtain ⟨id, rfl | ⟨pre, x, xs, hall, hpre, hxs, hx, hxsym, herr, rfl⟩⟩ :=
    hinv.accept_root hb hact h
  · exact hinv.errorRoot _ _ _
  · have hpopped := hinv.popAll.2
    rw [hall] at hpopped
    exact derivedRoot_splice hb.wellFormed hpre hxs hpopped hx hxsym herr

/-- Breaking the reuse cursor's tree down keeps the invariant and finds a reusable part. -/
theorem RunInv.breakdown (hinv : RunInv g ctx.table s) {state : Nat} {found : Option Subtree}
    (h : (breakdown state).exec ctx s = some (.ok (found, s'))) :
    RunInv g ctx.table s' ∧ ∀ x ∈ found, x.Reusable g := by
  obtain ⟨hstack, hfound, hreuse⟩ := exec_breakdown h
  have hwalk := ReuseCursor.good_breakdownWalk ctx state hinv.cursor
  exact ⟨hinv.of_cursor hstack (hreuse ▸ hwalk.1), hfound ▸ hwalk.2⟩

/-- Lexing a fresh token keeps the invariant and gives a sound lookahead. -/
theorem RunInv.relex (hinv : RunInv g ctx.table s) {state : Nat}
    (h : (relex state).exec ctx s = some (.ok (la, s'))) : RunInv g ctx.table s' ∧ la.Sound g := by
  obtain ⟨hstack, hreuse, -, -, -, htree⟩ := exec_relex h
  exact ⟨hinv.of_eq hstack hreuse, Lookahead.sound_ofToken htree⟩

/-- Assuming a missing token keeps the invariant and gives a sound lookahead. -/
theorem RunInv.missing (hinv : RunInv g ctx.table s) {symbol examined : Nat}
    (h : (missing symbol examined).exec ctx s = some (.ok (la, s'))) :
    RunInv g ctx.table s' ∧ la.Sound g := by
  obtain ⟨hstack, hreuse, -, -, -, htree⟩ := exec_missing h
  have hleaf : la.tree.children = [] := htree ▸ missingLeaf_children ..
  exact ⟨hinv.of_eq hstack hreuse,
    .inl (Subtree.derived_of_leaf hleaf (htree ▸ missingLeaf_leafSymbol ..)), fun _ => hleaf⟩

end Steps

/-! ### Runs -/

section Runs

open ParseM

variable {ctx : ParseContext} {sets : ItemSets}

mutual

/-- Every finished run of feeding a sound lookahead keeps the invariant, and a root it
    returns is a derived root. The induction follows the run: one case for each action
    of the table and each way recovery goes. -/
theorem AdvanceRun.runInv (hb : ctx.table.Built g sets) :
    ∀ {la : Lookahead} {s s' : RunState} {r : Option Subtree}, AdvanceRun ctx la s r s' →
      RunInv g ctx.table s → la.Sound g →
      RunInv g ctx.table s' ∧ ∀ root, r = some root → root.DerivedRoot g
  | _, _, _, _, .shiftNode _ hcount hstate hgoto hshift, hinv, hla =>
    ⟨hinv.shiftNode hb hla hcount hstate hgoto hshift, fun _ h => nomatch h⟩
  | _, _, _, _, .breakdownTree _ hcount _ hbreak hrun, hinv, hla => by
    obtain ⟨hinv₁, hfound⟩ := hinv.breakdown hbreak
    exact AdvanceRun.runInv hb hrun hinv₁ (hla.part hcount (hfound _ rfl))
  | _, _, _, _, .breakdownRelex _ _ _ hbreak hrelex hrun, hinv, _ => by
    obtain ⟨hinv₂, hla'⟩ := (hinv.breakdown hbreak).1.relex hrelex
    exact AdvanceRun.runInv hb hrun hinv₂ hla'
  | _, _, _, _, .shiftLeaf hact hleaf hshift, hinv, hla =>
    ⟨hinv.shiftLeaf hb hla hact hleaf hshift, fun _ h => nomatch h⟩
  | _, _, _, _, .reduce hact hreduce hrun, hinv, hla =>
    AdvanceRun.runInv hb hrun (hinv.reduce hb hact hreduce) hla
  | _, _, _, _, .accept hact haccept, hinv, _ => by
    obtain ⟨hinv', hroot⟩ := hinv.accept hb hact haccept
    exact ⟨hinv', fun _ h => Option.some.inj h ▸ hroot⟩
  | _, _, _, _, .relexReused _ _ hrelex hrun, hinv, _ => by
    obtain ⟨hinv₁, hla'⟩ := hinv.relex hrelex
    exact AdvanceRun.runInv hb hrun hinv₁ hla'
  | _, _, _, _, .skipError _ hreused _ hskip, hinv, hla => by
    have hleaf := hla.2 hreused
    exact ⟨hinv.withLog.skipToken (hla.1.derived_of_leaf hleaf) hleaf hskip,
      fun _ h => nomatch h⟩
  | la, _, _, _, .insert _ hreused _ hchoose hmissing hrun₁ hrun₂, hinv, hla => by
    have hinv₂ : RunInv g ctx.table _ := (exec_chooseFor hchoose).symm ▸ hinv.withLog
    obtain ⟨hinv₃, hm⟩ := hinv₂.missing hmissing
    have hinv₄ := (AdvanceRun.runInv hb hrun₁ hinv₃ hm).1
    have hleaf := hla.2 hreused
    exact AdvanceRun.runInv hb hrun₂ (hinv₄.of_eq rfl rfl)
      (Lookahead.sound_fresh hleaf (hla.1.leaf hleaf))
  | _, _, _, _, .delete _ hreused _ hchoose hskip, hinv, hla => by
    have hinv₂ : RunInv g ctx.table _ := (exec_chooseFor hchoose).symm ▸ hinv.withLog
    have hleaf := hla.2 hreused
    exact ⟨hinv₂.skipToken (hla.1.derived_of_leaf hleaf) hleaf hskip,
      fun _ h => nomatch h⟩
  | _, _, _, _, .complete _ hreused _ hchoose _ hinserts hrun, hinv, hla => by
    have hinv₂ : RunInv g ctx.table _ := (exec_chooseFor hchoose).symm ▸ hinv.withLog
    have hleaf := hla.2 hreused
    exact AdvanceRun.runInv hb hrun (InsertsRun.runInv hb hinserts hinv₂)
      (Lookahead.sound_fresh hleaf (hla.1.leaf hleaf))
  | _, _, _, _, .recoverEof _ _ _ hchoose _, hinv, _ => by
    have hinv₂ : RunInv g ctx.table _ := (exec_chooseFor hchoose).symm ▸ hinv.withLog
    exact ⟨hinv₂.emptied rfl rfl, fun _ h => Option.some.inj h ▸ hinv₂.errorRoot _ _ _⟩

/-- Feeding assumed tokens one after another keeps the invariant. -/
theorem InsertsRun.runInv (hb : ctx.table.Built g sets) :
    ∀ {examinedEnd : Nat} {path : List Nat} {s s' : RunState},
      InsertsRun ctx examinedEnd path s s' → RunInv g ctx.table s → RunInv g ctx.table s'
  | _, _, _, _, .nil, hinv => hinv
  | _, _, _, _, .cons hmissing hrun hrest, hinv => by
    obtain ⟨hinv₁, hm⟩ := hinv.missing hmissing
    have hinv₂ := (AdvanceRun.runInv hb hrun hinv₁ hm).1
    exact InsertsRun.runInv hb hrest (hinv₂.of_eq rfl rfl)

end

/-- Taking the next lookahead keeps the invariant and gives a sound lookahead: a tree
    the reuse walk found, or a fresh leaf. -/
theorem RunInv.nextLookahead (hinv : RunInv g ctx.table s) {la : Lookahead}
    (h : nextLookahead.exec ctx s = some (.ok (la, s'))) : RunInv g ctx.table s' ∧ la.Sound g := by
  obtain ⟨hstack, hcases⟩ := exec_nextLookahead h
  have hwalk := ReuseCursor.good_reuseWalk ctx s.stack.state s.stack.position s.scannerState
    hinv.cursor
  rcases hcases with ⟨hr, hfound, hreuse, -, -⟩ | ⟨-, hreuse, -, -, htree⟩
  · refine ⟨hinv.of_cursor hstack (hreuse ▸ hwalk.1), hwalk.2 _ hfound, fun hr' => ?_⟩
    rw [hr] at hr'
    cases hr'
  · exact ⟨hinv.of_cursor hstack (hreuse ▸ hwalk.1), Lookahead.sound_ofToken htree⟩

/-- Every finished parse loop keeps the invariant and returns a derived root. -/
theorem LoopRun.runInv (hb : ctx.table.Built g sets) {s s' : RunState} {root : Subtree}
    (h : LoopRun ctx s root s') (hinv : RunInv g ctx.table s) :
    RunInv g ctx.table s' ∧ root.DerivedRoot g := by
  induction h with
  | last hround =>
    obtain ⟨la, s₁, hla, hrun⟩ := round_run hround
    obtain ⟨hinv₁, hsound⟩ := hinv.nextLookahead hla
    obtain ⟨hinv', hroot⟩ := hrun.runInv hb hinv₁ hsound
    exact ⟨hinv', hroot _ rfl⟩
  | next hround _ ih =>
    obtain ⟨la, s₁, hla, hrun⟩ := round_run hround
    obtain ⟨hinv₁, hsound⟩ := hinv.nextLookahead hla
    exact ih (hrun.runInv hb hinv₁ hsound).1

end Runs

/-- A parse starts in the invariant when the old tree it reuses is a derived root. -/
theorem RunInv.initial {options : ParseOptions} {logging : Bool} {old : Option Subtree}
    {next : Nat} (hold : ∀ o ∈ old, o.DerivedRoot g) :
    RunInv g t (RunState.initial options logging old next) := by
  refine ⟨.bottom rfl rfl, ?_, ?_⟩
  · intro e he x hx
    simp only [RunState.initial, Stack.new, List.mem_singleton] at he
    rw [he] at hx
    cases hx
  · cases old with
    | none => exact ReuseCursor.good_empty
    | some o => exact ReuseCursor.good_start (hold o rfl)

/-- A parse with a built table, reusing a derived root if any, returns a derived root. -/
theorem parseText_derivedRoot (hb : t.Built g sets) {options : ParseOptions} {logging : Bool}
    {input : ByteArray} {old : Option Subtree} {next next' : Nat} {root : Subtree}
    {log : Array LogLine} (hold : ∀ o ∈ old, o.DerivedRoot g)
    (h : parseText t options logging input old next = some (.ok (root, log, next'))) :
    root.DerivedRoot g := by
  obtain ⟨s', hrun⟩ := LoopRun.of_parseText h
  exact (hrun.runInv hb (RunInv.initial hold)).2


end IncrementalLR
