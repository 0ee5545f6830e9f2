import IncrementalLR.Proofs.Parse.YieldedTrees

/-!
# Skipped tokens merge into one error subtree

A token that recovery gives up on, and an error token from the lexer, is skipped: the parser
puts it on the stack inside an extra error subtree (a skipped subtree).
-/

namespace IncrementalLR

namespace Subtree

/-- Whether the subtree is skipped text: an extra error subtree. -/
def isSkipped (t : Subtree) : Bool := t.isError && t.isExtra

/-- Two neighbours that are not both skipped. -/
def Apart (a b : Subtree) : Prop := (a.isSkipped && b.isSkipped) = false

/-- No two neighbours in a list are both skipped. -/
def SkipsApart (cs : List Subtree) : Prop := cs.IsChain Apart

/-- Skipped runs are merged at a node: no two neighbouring children are both skipped, and
    the children of a skipped node are leaves that are not extras. -/
def MergedAt (x : Subtree) : Prop :=
  SkipsApart x.children ∧
    (x.isSkipped = true → ∀ c ∈ x.children, c.children = [] ∧ c.isExtra = false)

/-- Skipped runs are merged at every node of a subtree. -/
def RunsMerged (x : Subtree) : Prop := ∀ u ∈ x.subtrees, u.MergedAt

theorem apart_of_left {a b : Subtree} (ha : a.isSkipped = false) : Apart a b := by
  simp [Apart, ha]

theorem apart_of_right {a b : Subtree} (hb : b.isSkipped = false) : Apart a b := by
  simp [Apart, hb]

theorem Apart.symm {a b : Subtree} (h : Apart a b) : Apart b a := by
  unfold Apart at h ⊢
  rw [Bool.and_comm]
  exact h

/-- Next to a skipped subtree stands one that is not. -/
theorem Apart.right_of_skipped {a b : Subtree} (h : Apart a b) (ha : a.isSkipped = true) :
    b.isSkipped = false := by
  simpa [Apart, ha] using h

namespace SkipsApart

theorem reverse {cs : List Subtree} (h : SkipsApart cs) : SkipsApart cs.reverse :=
  List.isChain_reverse.2 (h.imp fun _ _ hab => hab.symm)

theorem cons {x : Subtree} {cs : List Subtree} (h : SkipsApart cs) (hx : ∀ y ∈ cs.head?, Apart x y) :
    SkipsApart (x :: cs) :=
  List.isChain_cons.2 ⟨hx, h⟩

/-- A list of subtrees none of which is skipped. -/
theorem of_unskipped : ∀ {cs : List Subtree}, (∀ c ∈ cs, c.isSkipped = false) → SkipsApart cs
  | [], _ => .nil
  | c :: _, h =>
    (of_unskipped fun d hd => h d (List.mem_cons_of_mem c hd)).cons
      fun _ _ => apart_of_left (h c List.mem_cons_self)

/-- Two skipped subtrees side by side. -/
theorem not_of_skipped {a b : Subtree} {cs : List Subtree} (ha : a.isSkipped = true)
    (hb : b.isSkipped = true) : ¬ SkipsApart (a :: b :: cs) := by
  intro h
  have hab := (List.isChain_cons_cons.1 h).1
  simp [Apart, ha, hb] at hab

end SkipsApart

namespace RunsMerged

variable {x : Subtree}

theorem of_children (hx : x.MergedAt) (hcs : ∀ c ∈ x.children, c.RunsMerged) : x.RunsMerged := by
  intro u hu
  rw [subtrees_eq, List.mem_cons] at hu
  rcases hu with rfl | hu
  · exact hx
  · obtain ⟨c, hc, huc⟩ := mem_subtreesOf.1 hu
    exact hcs c hc u huc

theorem leaf (hx : x.children = []) : x.RunsMerged :=
  of_children ⟨by rw [hx]; exact .nil, fun _ c hc => by rw [hx] at hc; cases hc⟩
    fun c hc => by rw [hx] at hc; cases hc

theorem here (h : x.RunsMerged) : x.MergedAt :=
  h x (by rw [subtrees_eq]; exact List.mem_cons_self)

theorem child (h : x.RunsMerged) {c : Subtree} (hc : c ∈ x.children) : c.RunsMerged :=
  fun u hu => h u (by
    rw [subtrees_eq]
    exact List.mem_cons_of_mem x (mem_subtreesOf.2 ⟨c, hc, hu⟩))

/-- A node that is not skipped, over children whose runs are merged and that stand apart. -/
theorem unskipped (hx : x.isSkipped = false) (hapart : SkipsApart x.children)
    (hcs : ∀ c ∈ x.children, c.RunsMerged) : x.RunsMerged :=
  of_children ⟨hapart, fun h => by rw [hx] at h; cases h⟩ hcs

/-- A subtree with no error node below it. -/
theorem of_clean (h : ∀ u ∈ x.subtrees, u.isError = false) : x.RunsMerged := by
  intro u hu
  have hchild : ∀ c ∈ u.children, c.isSkipped = false := fun c hc => by
    simp [isSkipped, h c (subtrees_trans x u hu c (mem_subtrees_of_mem_children hc
      (mem_subtrees_self c)))]
  exact ⟨.of_unskipped hchild, fun hs => by simp [isSkipped, h u hu] at hs⟩

/-- A node over leaves that are not extras. -/
theorem overLeaves (hcs : ∀ c ∈ x.children, c.children = [] ∧ c.isExtra = false) :
    x.RunsMerged :=
  of_children
    ⟨.of_unskipped fun c hc => by simp [isSkipped, (hcs c hc).2], fun _ => hcs⟩
    fun c hc => leaf (hcs c hc).1

theorem extendLookahead (h : x.RunsMerged) (n : Nat) : (x.extendLookahead n).RunsMerged := by
  unfold Subtree.extendLookahead
  split
  · exact of_children ⟨h.here.1, fun hs => h.here.2 hs⟩ fun c hc => h.child hc
  · exact h

end RunsMerged

end Subtree

open Subtree

/-- No state has an action on the error symbol, so a lookahead the table acts on is no
    error. -/
theorem ParseTable.isError_of_action {t : ParseTable} {state : Nat} {x : Subtree} {a : Action}
    (hact : t.action? state x.leafSymbol = some a) (hleaf : x.leafSymbol = x.symbol) :
    x.isError = false := by
  cases herr : x.isError
  · rfl
  · have hsym : x.symbol = errorSymbol := by simpa [isError] using herr
    rw [hleaf, hsym] at hact
    simp [ParseTable.action?, ParseTable.actionsAt] at hact

theorem FreshAt.isExtra {ctx : ParseContext} {P : Length} {la : Lookahead} (h : FreshAt ctx P la) :
    la.tree.isExtra = false := by
  cases h <;> rfl

/-! ### The subtrees on the stack -/

namespace Stack

/-- The subtrees a stack holds, top first. -/
def held (st : Stack) : List Subtree := st.entries.filterMap (·.subtree)

@[simp] theorem held_pushed (st : Stack) (state : Nat) (t : Subtree) :
    (st.pushed state t).held = t :: st.held := rfl

@[simp] theorem held_pushAll (st : Stack) (state : Nat) (l : List Subtree) :
    (st.pushAll state l).held = l.reverse ++ st.held := by
  induction l generalizing st with
  | nil => rfl
  | cons x l ih => simp [ih]

/-- The subtrees a reduction pops lie on top of those it leaves. -/
theorem held_popCount (st : Stack) (count : Nat) :
    st.held = (st.popCount count).1.reverse ++ (st.popCount count).2.held := by
  obtain ⟨pre, hes, hpopped⟩ := popFrom_split count [] st.entries
  rw [List.append_nil] at hpopped
  simp only [held, popCount]
  rw [hpopped, List.reverse_reverse, ← List.filterMap_append, ← hes]

end Stack

/-- Only the bottom entry of a stack whose extras keep their states holds no subtree, so the
    first subtree the stack holds is the one on top. -/
theorem ExtrasKeepState.held_head? {st : Stack} (h : ExtrasKeepState st.entries) :
    st.held.head? = st.topSubtree := by
  obtain ⟨es, maxDepth⟩ := st
  cases h with
  | bottom hsub => simp [Stack.held, Stack.topSubtree, hsub]
  | extra _ hx _ _ => simp [Stack.held, Stack.topSubtree, hx]
  | step _ hx _ => simp [Stack.held, Stack.topSubtree, hx]

/-! ### The invariant -/

/-- What the stack of a parse keeps about skipped text: the runs of every subtree on it are
    merged, and no two neighbouring subtrees on it are both skipped. -/
structure SkipInv (st : Stack) : Prop where
  merged : EntriesHold RunsMerged st.entries
  apart : SkipsApart st.held

namespace SkipInv

open ParseM

variable {ctx : ParseContext} {s s' : RunState} {st : Stack}

/-- A subtree that is not skipped goes on top of any stack. -/
theorem pushed (h : SkipInv st) (state : Nat) {t : Subtree} (hmerged : t.RunsMerged)
    (ht : t.isSkipped = false) : SkipInv (st.pushed state t) :=
  ⟨h.merged.pushed state hmerged, h.apart.cons fun _ _ => apart_of_left ht⟩

/-- A shifted lookahead is not skipped: a fresh leaf has a symbol the table acts on, and a
    reused subtree counts no error, so no error node lies below it. -/
theorem shift (hb : RunBase AllMarked s) (h : SkipInv s.stack) {la : Lookahead}
    {state next : Nat} {extra : Bool}
    (hshift : (ParseM.shift state la extra).exec ctx s = some (.ok ((), s')))
    (hla : Lookahead.Fed ctx s.reuse la)
    (hact : ctx.table.action? s.stack.state la.tree.leafSymbol = some (.shift next extra)) :
    SkipInv s'.stack := by
  have herr : la.tree.isError = false := by
    cases hre : la.reused
    · exact ParseTable.isError_of_action hact (hla.leafSymbol hre)
    · exact (hb.reused ReuseFamily.allMarked hla hre).2.2
  obtain ⟨hstack, -, -, -⟩ := exec_shift hshift
  rw [hstack]
  split
  · rename_i hcount
    have hleaf : la.tree.children = [] := List.eq_nil_of_length_eq_zero hcount
    exact h.pushed _ (.leaf (by simp [hleaf])) (by simp [isSkipped, herr])
  · rename_i hcount
    obtain ⟨hP, h0, -⟩ := hb.reused ReuseFamily.allMarked hla (hla.reused_of_childCount hcount)
    exact h.pushed _ (.of_clean fun u hu => ReuseFamily.allMarked.not_error_of_mem hP h0 hu)
      (by simp [isSkipped, herr])

/-- A reduction's node is no extra, and its children are a stretch of the stack, up to the
    extras it pushes back above it. -/
theorem reduce {symbol count production : Nat} {la : Subtree} {u : Unit}
    (hred : (ParseM.reduce symbol count production la).exec ctx s = some (.ok (u, s')))
    (h : SkipInv s.stack) : SkipInv s'.stack := by
  obtain ⟨-, -, -, k, hstack⟩ := exec_reduce hred
  have hsplit := splitTrailingExtras_append (s.stack.popCount count).1
  have hheld := h.apart
  rw [Stack.held_popCount s.stack count] at hheld
  -- the popped subtrees stand apart in document order, and so do those left below
  have hpopped : SkipsApart (s.stack.popCount count).1 := by
    simpa using SkipsApart.reverse hheld.left_of_append
  rw [← hsplit] at hpopped
  have hmerged : ∀ x ∈ (s.stack.popCount count).1, x.RunsMerged := h.merged.popFrom count
  have hbare : (node ctx.table s.nextId symbol (splitTrailingExtras (s.stack.popCount count).1).1
      production (s.stack.popCount count).2.state).RunsMerged :=
    RunsMerged.unskipped (by simp [isSkipped]) hpopped.left_of_append
      fun c hc => hmerged c (hsplit ▸ List.mem_append_left _ (by simpa using hc))
  have hnode := hbare.extendLookahead k
  rw [hstack]
  refine ⟨((h.merged.popFrom_rest count).pushed _ hnode).pushAll _
    fun x hx => hmerged x (hsplit ▸ List.mem_append_right _ hx), ?_⟩
  rw [Stack.held_pushAll, Stack.held_pushed]
  refine List.IsChain.append (SkipsApart.reverse hpopped.right_of_append)
    (SkipsApart.cons hheld.right_of_append fun _ _ => apart_of_left (by simp [isSkipped])) ?_
  intro _ _ y hy
  simp only [List.head?_cons, Option.mem_def, Option.some.injEq] at hy
  rw [← hy]
  exact apart_of_right (by simp [isSkipped])

/-- The error node that takes in a skipped token holds leaves that are not extras: the
    token, and what the skipped subtree on top held, or that subtree itself when it is a
    leaf. -/
theorem merged_children {top : Subtree} {o : Option Subtree} (ho : ∀ x, o = some x → x = top)
    (htop : top.RunsMerged) (hskipped : top.isSkipped = true) {token : Subtree}
    (htoken : token.children = [] ∧ token.isExtra = false) (run : Option (Nat × ChildSummary))
    (childId : Nat) :
    ∀ c ∈ (mergeSkipped o run token childId).1, c.children = [] ∧ c.isExtra = false := by
  intro c hc
  rcases (mem_mergeSkipped ho run token childId).2 c hc with rfl | hc | ⟨hnil, cid, rfl⟩
  · exact htoken
  · exact htop.here.2 hskipped c hc
  · simp [hnil]

/-- Skipping a fresh token merges it into the skipped subtree on top, or puts a skipped
    subtree over a stack whose top is not skipped. -/
theorem skipToken (hb : RunBase AllMarked s) (h : SkipInv s.stack) {la : Lookahead} {u : Unit}
    (hskip : (ParseM.skipToken la.tree).exec ctx s = some (.ok (u, s')))
    (hla : Lookahead.Fed ctx s.reuse la) (hfresh : la.reused = false) : SkipInv s'.stack := by
  obtain ⟨hleaf, hextra', -⟩ := hla.fresh hfresh
  obtain ⟨-, hcases⟩ := exec_skipToken_eq hskip
  rcases hcases with ⟨top, htop, herr, hextra, -, hstack, -⟩ |
    ⟨hnotop, -, ⟨-, hstack, -⟩ | ⟨-, hstack, -⟩⟩
  · -- the skipped subtree on top is popped, and the subtree below it is not skipped
    obtain ⟨hpop, -, e, hes, he⟩ := hb.keep.pop htop
    have hskipped : top.isSkipped = true := by simp [isSkipped, herr, hextra]
    have htop' : top.RunsMerged := h.merged e (by rw [hes]; exact List.mem_cons_self) top he
    have hheld : s.stack.held = top :: s.stack.pop.2.held := by
      simp only [Stack.held]
      rw [hes, List.filterMap_cons, he]
    have hapart := h.apart
    rw [hheld] at hapart
    rw [hstack]
    refine ⟨h.merged.pop.pushed _ (RunsMerged.overLeaves ?_),
      SkipsApart.cons hapart.tail fun y hy =>
        apart_of_right (((List.isChain_cons.1 hapart).1 y hy).right_of_skipped hskipped)⟩
    rw [errorNodeWith_children]
    exact merged_children (fun x hx => Option.some.inj (hx.symm.trans hpop)) htop' hskipped
      ⟨hleaf, hextra'⟩ _ _
  all_goals
    -- the top is not skipped, and the new subtree goes above it
    have hnotop' : ∀ y ∈ s.stack.held.head?, y.isSkipped = false := by
      intro y hy
      rw [hb.keep.held_head?] at hy
      cases herr : y.isError
      · simp [isSkipped, herr]
      · simp [isSkipped, hnotop y hy herr]
    rw [hstack]
    refine ⟨h.merged.pushed _ ?_, h.apart.cons fun y hy => apart_of_right (hnotop' y hy)⟩
  · exact .leaf (by simp [hleaf])
  · exact .overLeaves fun c hc => by
      simp only [errorNodeWith_children, List.mem_singleton] at hc
      rw [hc]
      exact ⟨hleaf, hextra'⟩

/-- Accepting makes a root over the whole stack, with the children of the subtree it takes
    the place of. -/
theorem accept {root : Subtree} (hacc : ParseM.accept.exec ctx s = some (.ok (root, s')))
    (h : SkipInv s.stack) : ∀ c ∈ root.children, c.RunsMerged :=
  children_of_accept hacc h.merged.popAll fun _ hx _ hc => hx.child hc

theorem initial (options : ParseOptions) (logging : Bool) (old : Option Subtree) (next : Nat) :
    SkipInv (RunState.initial options logging old next).stack :=
  ⟨entriesHold_initial _ options logging old next, .nil⟩

/-- Every step of a parse reusing trees that are marked throughout keeps the invariant, and
    every root it makes has children whose runs are merged. -/
theorem runSteps (ctx : ParseContext) :
    RunSteps ctx AllMarked (fun s => SkipInv s.stack) fun root => ∀ c ∈ root.children, c.RunsMerged where
  same h hstack _ _ := hstack ▸ h
  shift hshift hb h hla hact _ := shift hb h hshift hla hact
  reduce hred _ h := reduce hred h
  skipToken hskip hb h hla hfresh := skipToken hb h hskip hla hfresh
  accept hacc _ h := accept hacc h
  giveUp _ h := by simpa using h.merged.popAll

end SkipInv

/-- Nested pairs `y … z` around nothing, `s → ε | 'y' s 'z'`, with nothing skipped between
    tokens. -/
def GrammarSpec.nested : GrammarSpec :=
  (GrammarSpec.new "g").withSkip none |>.rule "s" ["", "'y' s 'z'"]

/-- The table the builder makes of the nested pairs. -/
def ParseTable.nested : ParseTable where
  name := "g"
  version := newestVersion
  symbolNames := #["end", "y", "z", "s"]
  symbolInfo := #[⟨false, true⟩, ⟨true, false⟩, ⟨true, false⟩, ⟨true, true⟩]
  tokenCount := 3
  stateCount := 6
  actions := #[[], [], [],
    [.reduce 3 0 0], [.shift 2 false], [.reduce 3 0 0],
    [.reduce 3 0 0], [.shift 2 false], [.reduce 3 0 0],
    [.accept], [], [],
    [], [], [.shift 5 false],
    [.reduce 3 3 0], [], [.reduce 3 3 0]]
  gotos := #[0, 3, 4, 0, 0, 0]
  lexModes := #[⟨0, 0⟩, ⟨0, 0⟩, ⟨0, 0⟩, ⟨1, 0⟩, ⟨2, 0⟩, ⟨2, 0⟩]
  lexTable := ⟨#[none, some (.literal [121]), some (.literal [122])], #[[1, 2], [], [2]], none⟩
  fieldNames := #[]
  fieldMaps := #[[]]
  externals := #[]
  scanner := none

theorem GrammarSpec.build_nested : GrammarSpec.nested.build = .ok ParseTable.nested := by
  decide +kernel

end IncrementalLR
