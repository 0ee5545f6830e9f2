import Mathlib.Logic.Relation
import IncrementalLR.Proofs.Parse.TiledRuns

/-!
# Properties that every step of a parse keeps, old trees reused

A parse that is given an old tree shifts whole subtrees of it next to fresh leaves. Every
property of the stack that the steps keep, given what the old tree's subtrees have, holds
along the whole parse, and a property of the roots it makes holds of the tree it returns.
Besides the client's property, every state keeps three things: the extras on the stack keep
the state below them, the reuse cursor offers subtrees of the old tree only, and the error
run's summary is that of the error node it made.
-/

namespace IncrementalLR

open ParseM Subtree

/-! ### Subtrees of subtrees -/

namespace Subtree

theorem mem_subtrees_self (t : Subtree) : t ∈ t.subtrees := by
  rw [subtrees_eq]
  exact List.mem_cons_self

theorem mem_subtrees_of_mem_children {t c : Subtree} (hc : c ∈ t.children) {u : Subtree}
    (hu : u ∈ c.subtrees) : u ∈ t.subtrees := by
  rw [subtrees_eq]
  exact List.mem_cons_of_mem _ (mem_subtreesOf.2 ⟨c, hc, hu⟩)

mutual

theorem subtrees_trans : ∀ (t : Subtree), ∀ u ∈ t.subtrees, ∀ v ∈ u.subtrees, v ∈ t.subtrees
  | .mk i cs, u, hu, v, hv => by
    rw [subtrees] at hu ⊢
    rcases List.mem_cons.1 hu with rfl | hu
    · rwa [subtrees] at hv
    · exact List.mem_cons_of_mem _ (subtreesOf_trans cs u hu v hv)

theorem subtreesOf_trans :
    ∀ (cs : List Subtree), ∀ u ∈ subtreesOf cs, ∀ v ∈ u.subtrees, v ∈ subtreesOf cs
  | [], u, hu, _, _ => by simp [subtreesOf] at hu
  | c :: cs, u, hu, v, hv => by
    rw [subtreesOf, List.mem_append] at hu ⊢
    rcases hu with hu | hu
    · exact .inl (subtrees_trans c u hu v hv)
    · exact .inr (subtreesOf_trans cs u hu v hv)

end

mutual

/-- A property that children inherit holds of every subtree. -/
theorem of_mem_subtrees {Q : Subtree → Prop} (hchild : ∀ x, Q x → ∀ c ∈ x.children, Q c) :
    ∀ (t : Subtree), Q t → ∀ u ∈ t.subtrees, Q u
  | .mk i cs, ht, u, hu => by
    rw [subtrees] at hu
    rcases List.mem_cons.1 hu with rfl | hu
    · exact ht
    · exact of_mem_subtreesOf hchild cs (fun c hc => hchild _ ht c hc) u hu

theorem of_mem_subtreesOf {Q : Subtree → Prop} (hchild : ∀ x, Q x → ∀ c ∈ x.children, Q c) :
    ∀ (cs : List Subtree), (∀ c ∈ cs, Q c) → ∀ u ∈ subtreesOf cs, Q u
  | [], _, u, hu => by simp [subtreesOf] at hu
  | c :: cs, hcs, u, hu => by
    rw [subtreesOf, List.mem_append] at hu
    rcases hu with hu | hu
    · exact of_mem_subtrees hchild c (hcs c List.mem_cons_self) u hu
    · exact of_mem_subtreesOf hchild cs (fun d hd => hcs d (List.mem_cons_of_mem c hd)) u hu

end

end Subtree

/-! ### Extras on the stack -/

namespace ExtrasKeepState

theorem ne_nil {es : List StackEntry} (h : ExtrasKeepState es) : es ≠ [] := by
  cases h <;> simp

variable {st : Stack}

/-- Pushing keeps extras in place when an extra goes into the top state. -/
theorem pushed (h : ExtrasKeepState st.entries) (state : Nat) {t : Subtree}
    (hstate : t.isExtra = true → state = st.state) : ExtrasKeepState (st.pushed state t).entries :=
  h.cons rfl fun hx => (hstate hx).trans (Stack.state_eq_topState st)

/-- Extras pushed into the top state keep extras in place. -/
theorem pushAll (h : ExtrasKeepState st.entries) {l : List Subtree}
    (hl : ∀ x ∈ l, x.isExtra = true) : ExtrasKeepState (st.pushAll st.state l).entries := by
  induction l generalizing st with
  | nil => exact h
  | cons x l ih =>
    rw [Stack.pushAll_cons]
    have hx : ExtrasKeepState (st.pushed st.state x).entries := h.pushed _ fun _ => rfl
    have := ih hx fun y hy => hl y (List.mem_cons_of_mem x hy)
    rwa [Stack.pushed_state] at this

/-- Popping keeps extras in place below what it pops. -/
theorem popCount (h : ExtrasKeepState st.entries) (count : Nat) :
    ExtrasKeepState (st.popCount count).2.entries := by
  rw [Stack.popCount_eq]
  obtain ⟨pre, hpre, -⟩ := Stack.popFrom_split count [] st.entries
  have hne := h.ne_nil
  rw [hpre] at h
  exact h.of_append (Stack.popFrom_ne_nil _ _ _ hne)

/-- The subtree on top of a stack whose extras keep their states sits above the rest, which
    keeps its extras in place. -/
theorem pop (h : ExtrasKeepState st.entries) {top : Subtree} (htop : st.topSubtree = some top) :
    st.pop.1.bind (·.subtree) = some top ∧ ExtrasKeepState st.pop.2.entries ∧
      ∃ e, st.entries = e :: st.pop.2.entries ∧ e.subtree = some top := by
  obtain ⟨es, maxDepth⟩ := st
  cases h with
  | bottom hsub => simp [Stack.topSubtree, hsub] at htop
  | @extra e below rest x hrest hx _ _ =>
    simp only [Stack.topSubtree, List.head?_cons, Option.bind_some, hx, Option.some.injEq] at htop
    subst htop
    exact ⟨by simp [Stack.pop, hx], hrest, e, rfl, hx⟩
  | @step e below rest x hrest hx _ =>
    simp only [Stack.topSubtree, List.head?_cons, Option.bind_some, hx, Option.some.injEq] at htop
    subst htop
    exact ⟨by simp [Stack.pop, hx], hrest, e, rfl, hx⟩

variable {ctx : ParseContext} {s s' : RunState}

/-- A reduction pushes a node that is no extra over what it pops, and the trailing extras
    above it in its state. -/
theorem reduce (h : ExtrasKeepState s.stack.entries) {symbol count production : Nat}
    {la : Subtree} {u : Unit}
    (hred : (ParseM.reduce symbol count production la).exec ctx s = some (.ok (u, s'))) :
    ExtrasKeepState s'.stack.entries := by
  obtain ⟨-, -, -, k, hstack⟩ := exec_reduce hred
  rw [hstack]
  have hnode := (h.popCount count).pushed (ctx.table.goto (s.stack.popCount count).2.state symbol)
    (t := (node ctx.table s.nextId symbol (splitTrailingExtras (s.stack.popCount count).1).1
      production (s.stack.popCount count).2.state).extendLookahead k) fun hx => by
    rw [extendLookahead_isExtra, node_isExtra] at hx
    cases hx
  exact hnode.pushAll (splitTrailingExtras_snd_extra _)

/-- Skipping a token pushes an extra error subtree in the state on top, in place of the
    error node it merges with. -/
theorem skipToken (h : ExtrasKeepState s.stack.entries) {token : Subtree} {u : Unit}
    (hskip : (ParseM.skipToken token).exec ctx s = some (.ok (u, s'))) :
    ExtrasKeepState s'.stack.entries := by
  obtain ⟨-, hcases⟩ := exec_skipToken_eq hskip
  rcases hcases with ⟨top, htop, -, hextra, -, hstack, -⟩ |
    ⟨-, -, ⟨-, hstack, -⟩ | ⟨-, hstack, -⟩⟩
  · obtain ⟨-, hrest, e, hes, he⟩ := h.pop htop
    have hkeep : ExtrasKeepState (e :: s.stack.pop.2.entries) := hes ▸ h
    -- the error node popped is an extra, so it has the state below it
    have hstate : s.stack.state = s.stack.pop.2.state := by
      rw [Stack.state_eq_topState, hes, topState_cons, hkeep.state_of_extra he hextra,
        ← Stack.state_eq_topState]
    rw [hstack]
    exact hrest.pushed _ fun _ => hstate
  all_goals
    rw [hstack]
    exact h.pushed _ fun _ => rfl

end ExtrasKeepState

/-! ### Trees whose subtrees a parse may reuse -/

namespace Subtree

/-- What the top node of a subtree a parse made shows of how it was made: an extra with
    children is an error node, and a subtree that counts no error is no error node, over
    children that count none. -/
structure Marked (x : Subtree) : Prop where
  extra : x.children ≠ [] → x.isExtra = true → x.isError = true
  clean : x.errorCost = 0 → x.isError = false ∧ ∀ c ∈ x.children, c.errorCost = 0

/-- Every node of the subtree is marked. -/
def AllMarked (x : Subtree) : Prop := ∀ u ∈ x.subtrees, u.Marked

namespace AllMarked

variable {x : Subtree}

theorem here (h : x.AllMarked) : x.Marked := h x (mem_subtrees_self x)

theorem child (h : x.AllMarked) {c : Subtree} (hc : c ∈ x.children) : c.AllMarked :=
  fun u hu => h u (mem_subtrees_of_mem_children hc hu)

theorem of_children (hx : x.Marked) (hcs : ∀ c ∈ x.children, c.AllMarked) : x.AllMarked := by
  intro u hu
  rw [subtrees_eq, List.mem_cons] at hu
  rcases hu with rfl | hu
  · exact hx
  · obtain ⟨c, hc, huc⟩ := mem_subtreesOf.1 hu
    exact hcs c hc u huc

end AllMarked

end Subtree

/-- A family of trees whose subtrees a parse may reuse: it holds the children of its trees,
    and its trees are marked. -/
structure ReuseFamily (P : Subtree → Prop) : Prop where
  child : ∀ x, P x → ∀ c ∈ x.children, P c
  marked : ∀ x, P x → x.Marked

namespace ReuseFamily

variable {P : Subtree → Prop}

theorem moves (hP : ReuseFamily P) : ReuseCursor.Moves P P := ⟨fun _ h => h, hP.child⟩

/-- Below a tree of the family that counts no error, no subtree counts one. -/
theorem clean_of_mem (hP : ReuseFamily P) {x : Subtree} (hx : P x) (h0 : x.errorCost = 0)
    {u : Subtree} (hu : u ∈ x.subtrees) : P u ∧ u.errorCost = 0 :=
  of_mem_subtrees (fun y hy c hc => ⟨hP.child y hy.1 c hc, ((hP.marked y hy.1).clean hy.2).2 c hc⟩)
    x (Q := fun y => P y ∧ y.errorCost = 0) ⟨hx, h0⟩ u hu

/-- Below a tree of the family that counts no error lies no error node. -/
theorem not_error_of_mem (hP : ReuseFamily P) {x : Subtree} (hx : P x) (h0 : x.errorCost = 0)
    {u : Subtree} (hu : u ∈ x.subtrees) : u.isError = false :=
  let ⟨hPu, hu0⟩ := hP.clean_of_mem hx h0 hu
  ((hP.marked u hPu).clean hu0).1

theorem allMarked : ReuseFamily Subtree.AllMarked :=
  ⟨fun _ hx _ hc => hx.child hc, fun _ hx => hx.here⟩

end ReuseFamily

/-! ### The lookaheads a parse feeds -/

/-- The lookaheads a parse feeds while the reuse cursor is `c`: a token lexed or assumed
    afresh, or the subtree the cursor stands on, when it counts no error. -/
inductive Lookahead.Fed (ctx : ParseContext) (c : ReuseCursor) : Lookahead → Prop
  | lexed {id state : Nat} {token : Token} : Fed ctx c ⟨ofToken ctx.table id token state, false⟩
  | assumed {id symbol state : Nat} : Fed ctx c ⟨missingLeaf ctx.table id symbol state, false⟩
  | reused {e : ReuseEntry} {rest : List ReuseEntry} :
      c.path = e :: rest → e.tree.errorCost = 0 → Fed ctx c ⟨e.tree, true⟩

namespace Lookahead.Fed

variable {ctx : ParseContext} {c : ReuseCursor} {la : Lookahead}

/-- A lookahead fed afresh is a leaf and no extra, fed whatever the cursor. -/
theorem fresh (h : Fed ctx c la) (hfresh : la.reused = false) :
    la.tree.children = [] ∧ la.tree.isExtra = false ∧ ∀ c', Fed ctx c' ⟨la.tree, false⟩ := by
  cases h with
  | lexed => exact ⟨rfl, rfl, fun _ => .lexed⟩
  | assumed => exact ⟨rfl, rfl, fun _ => .assumed⟩
  | reused => cases hfresh

/-- A lookahead fed afresh is a leaf of its own symbol. -/
theorem leafSymbol (h : Fed ctx c la) (hfresh : la.reused = false) :
    la.tree.leafSymbol = la.tree.symbol := by
  cases h with
  | lexed => simp
  | assumed => simp
  | reused => cases hfresh

/-- A reused lookahead is the subtree the cursor stands on, and counts no error. -/
theorem head (h : Fed ctx c la) (hreused : la.reused = true) :
    la.tree.errorCost = 0 ∧ ∃ e rest, c.path = e :: rest ∧ e.tree = la.tree := by
  cases h with
  | lexed => cases hreused
  | assumed => cases hreused
  | reused hpath h0 => exact ⟨h0, _, _, hpath, rfl⟩

/-- A lookahead with children was reused. -/
theorem reused_of_childCount (h : Fed ctx c la) (hcount : la.tree.childCount ≠ 0) :
    la.reused = true := by
  cases hre : la.reused
  · exact absurd (by simp [Subtree.childCount, (h.fresh hre).1]) hcount
  · rfl

end Lookahead.Fed

namespace ReuseCursor

/-- The usability checks pass only subtrees that count no error. -/
theorem errorCost_of_usable {ctx : ParseContext} {tree : Subtree} {endOffset : Nat}
    (h : unusable ctx tree endOffset = none) : tree.errorCost = 0 := by
  unfold unusable at h
  split_ifs at h with _ _ _ hcost
  exact Nat.eq_zero_of_not_pos hcost

/-- The reuse walk finds a subtree that counts no error, and leaves the cursor on it. -/
theorem reuseWalk_found (ctx : ParseContext) (state : Nat) (position : Length)
    (scanner : List UInt8) {c : ReuseCursor} {t : Subtree}
    (h : (reuseWalk ctx state position scanner c).1 = some t) :
    Lookahead.Fed ctx (reuseWalk ctx state position scanner c).2.1 ⟨t, true⟩ := by
  fun_induction reuseWalk ctx state position scanner c with
  | case1 => cases h
  | case2 => cases h
  | case3 c entry tail hpath tree offset endOffset symbol hgt hlt moved hmoved found c' log heq ih =>
    rw [heq] at ih
    exact ih h
  | case4 c entry tail hpath tree offset symbol hgt hlt hscan hmoved found c' log heq ih =>
    rw [heq] at ih
    exact ih h
  | case5 c entry tail hpath tree offset endOffset symbol hgt hlt hscan reason hreason moved hmoved
      found c' log heq ih =>
    rw [heq] at ih
    exact ih h
  | case6 => cases h
  | case7 c entry tail hpath tree offset endOffset symbol hgt hlt hscan hnone hmode =>
    obtain rfl : entry.tree = t := Option.some.inj h
    exact .reused hpath (errorCost_of_usable hnone)

/-- The breakdown walk finds a subtree of the one the cursor stands on, and leaves the
    cursor on it. -/
theorem breakdownWalk_found (ctx : ParseContext) (state : Nat) {c : ReuseCursor} {t : Subtree}
    (h : (breakdownWalk ctx state c).1 = some t) :
    (∀ e ∈ c.path.head?, t ∈ e.tree.subtrees) ∧
      ∃ e rest, (breakdownWalk ctx state c).2.1.path = e :: rest ∧ e.tree = t := by
  fun_induction breakdownWalk ctx state c with
  | case1 => cases h
  | case2 c entry tail hpath =>
    obtain rfl : entry.tree = t := Option.some.inj h
    refine ⟨fun e he => ?_, entry, tail, hpath, rfl⟩
    rw [hpath, List.head?_cons, Option.mem_some_iff] at he
    rw [← he]
    exact mem_subtrees_self _
  | case3 c entry tail hpath tree hcond note r hd hr found c' log heq ih =>
    rw [heq] at ih
    obtain ⟨hbelow, hhead⟩ := ih h
    refine ⟨fun e he => ?_, hhead⟩
    rw [hpath, List.head?_cons, Option.mem_some_iff] at he
    subst he
    -- the descent stands on the first child of the entry
    unfold descend? at hd
    rw [hpath] at hd
    dsimp only at hd
    split at hd
    · rename_i first later hchildren
      cases hd
      exact mem_subtrees_of_mem_children (by rw [hchildren]; exact List.mem_cons_self)
        (hbelow _ rfl)
    · cases hd
  | case4 => cases h

end ReuseCursor

/-! ### What every state of a parse keeps -/

/-- What every state of a parse reusing subtrees of trees of `P` keeps: the extras on the
    stack keep the state below them, and the reuse cursor offers trees of `P` only. -/
structure RunBase (P : Subtree → Prop) (s : RunState) : Prop where
  keep : ExtrasKeepState s.stack.entries
  cursor : s.reuse.Holds P P

/-- One operation of the parse loop on its state, with what the loop has checked before it:
    reading the next lookahead; shifting a fed lookahead that the table shifts, where a leaf
    shifted as an extra stays in the state on top; reducing; breaking a reused lookahead down; lexing afresh;
    assuming a missing token; skipping a token lexed or assumed afresh; noting log lines,
    and ending a repair. -/
inductive ParseStep (ctx : ParseContext) : RunState → RunState → Prop
  | lookahead {s s' : RunState} {la : Lookahead} :
      nextLookahead.exec ctx s = some (.ok (la, s')) → ParseStep ctx s s'
  | shift {s s' : RunState} {la : Lookahead} {state next : Nat} {extra : Bool} :
      (shift state la extra).exec ctx s = some (.ok ((), s')) → Lookahead.Fed ctx s.reuse la →
      ctx.table.action? s.stack.state la.tree.leafSymbol = some (.shift next extra) →
      (la.tree.childCount = 0 → extra = true → state = s.stack.state) → ParseStep ctx s s'
  | reduce {s s' : RunState} {symbol count production : Nat} {la : Subtree} :
      (reduce symbol count production la).exec ctx s = some (.ok ((), s')) → ParseStep ctx s s'
  | breakdown {s s' : RunState} {state : Nat} {found : Option Subtree} :
      (breakdown state).exec ctx s = some (.ok (found, s')) → ParseStep ctx s s'
  | relex {s s' : RunState} {state : Nat} {la : Lookahead} :
      (relex state).exec ctx s = some (.ok (la, s')) → ParseStep ctx s s'
  | missing {s s' : RunState} {symbol examinedEnd : Nat} {la : Lookahead} :
      (missing symbol examinedEnd).exec ctx s = some (.ok (la, s')) → ParseStep ctx s s'
  | skipToken {s s' : RunState} {la : Lookahead} :
      (skipToken la.tree).exec ctx s = some (.ok ((), s')) → Lookahead.Fed ctx s.reuse la →
      la.reused = false → ParseStep ctx s s'
  | note {s : RunState} (l : Array LogLine) : ParseStep ctx s { s with log := l }
  | clearRepair {s : RunState} : ParseStep ctx s { s with repairEnd := 0 }

namespace RunBase

variable {P : Subtree → Prop} {ctx : ParseContext} {s s' : RunState}

/-- A reused lookahead is a tree of the family that counts no error, so it is no error. -/
theorem reused (hP : ReuseFamily P) (h : RunBase P s) {la : Lookahead}
    (hla : Lookahead.Fed ctx s.reuse la) (hreused : la.reused = true) :
    P la.tree ∧ la.tree.errorCost = 0 ∧ la.tree.isError = false := by
  obtain ⟨h0, e, rest, hpath, he⟩ := hla.head hreused
  have hP' : P la.tree := he ▸ h.cursor.head hpath
  exact ⟨hP', h0, ((hP.marked _ hP').clean h0).1⟩

/-- A fed lookahead with children is no extra. -/
theorem not_extra (hP : ReuseFamily P) (h : RunBase P s) {la : Lookahead}
    (hla : Lookahead.Fed ctx s.reuse la) (hcount : la.tree.childCount ≠ 0) :
    la.tree.isExtra = false := by
  obtain ⟨hP', -, herr⟩ := h.reused hP hla (hla.reused_of_childCount hcount)
  have hcs : la.tree.children ≠ [] := fun hnil => hcount (by simp [Subtree.childCount, hnil])
  cases hextra : la.tree.isExtra
  · rfl
  · rw [(hP.marked _ hP').extra hcs hextra] at herr
    cases herr

end RunBase

namespace RunBase

variable {P : Subtree → Prop} {ctx : ParseContext} {s s' t : RunState}

theorem initial {old : Option Subtree} (hold : ∀ o ∈ old, P o) (options : ParseOptions)
    (logging : Bool) (next : Nat) : RunBase P (RunState.initial options logging old next) := by
  refine ⟨.bottom rfl, ?_⟩
  cases old with
  | none => exact ReuseCursor.holds_empty
  | some o => exact ReuseCursor.holds_start (hold o rfl)

theorem withLog (h : RunBase P s) (l : Array LogLine) : RunBase P { s with log := l } :=
  ⟨h.keep, h.cursor⟩

/-- Every step keeps the base: extras shifted or skipped go into the state on top, a reused
    node is no extra, and the cursor's moves keep to the subtrees of the family. -/
theorem step (hP : ReuseFamily P) (h : RunBase P s) (hstep : ParseStep ctx s s') : RunBase P s' := by
  cases hstep with
  | lookahead hla =>
    obtain ⟨hstack, hcases⟩ := exec_nextLookahead hla
    have hreuse : s'.reuse =
        (reuseWalk ctx s.stack.state s.stack.position s.scannerState s.reuse).2.1 := by
      rcases hcases with ⟨-, -, hreuse, -⟩ | ⟨-, hreuse, -⟩ <;> exact hreuse
    refine ⟨hstack ▸ h.keep, ?_⟩
    rw [hreuse]
    exact (ReuseCursor.holds_reuseWalk hP.moves ctx _ _ _ h.cursor).1
  | shift hshift hla _ hextra =>
    obtain ⟨hstack, hreuse, -, -⟩ := exec_shift hshift
    refine ⟨?_, ?_⟩
    · rw [hstack]
      refine h.keep.pushed _ fun hx => ?_
      split at hx
      · rename_i hcount
        rw [withExtra_isExtra] at hx
        exact hextra hcount hx
      · rename_i hcount
        rw [h.not_extra hP hla hcount] at hx
        cases hx
    · rw [hreuse]
      split
      · exact h.cursor.advance hP.moves
      · exact h.cursor
  | reduce hred =>
    obtain ⟨hreuse, -⟩ := exec_reduce hred
    exact ⟨h.keep.reduce hred, hreuse ▸ h.cursor⟩
  | breakdown hbreak =>
    obtain ⟨hstack, -, hreuse⟩ := exec_breakdown hbreak
    refine ⟨hstack ▸ h.keep, ?_⟩
    rw [hreuse]
    exact (ReuseCursor.holds_breakdownWalk hP.moves ctx _ h.cursor).1
  | relex hrelex =>
    obtain ⟨hstack, hreuse, -⟩ := exec_relex hrelex
    exact ⟨hstack ▸ h.keep, hreuse ▸ h.cursor⟩
  | missing hmissing =>
    obtain ⟨hstack, hreuse, -⟩ := exec_missing hmissing
    exact ⟨hstack ▸ h.keep, hreuse ▸ h.cursor⟩
  | skipToken hskip _ _ =>
    obtain ⟨hreuse, -⟩ := exec_skipToken_eq hskip
    exact ⟨h.keep.skipToken hskip, hreuse ▸ h.cursor⟩
  | note l => exact h.withLog l
  | clearRepair => exact ⟨h.keep, h.cursor⟩

/-- The base holds at every state the steps reach. -/
theorem reaches (hP : ReuseFamily P) (h : RunBase P s)
    (hr : Relation.ReflTransGen (ParseStep ctx) s t) : RunBase P t := by
  induction hr with
  | refl => exact h
  | tail _ hstep ih => exact ih.step hP hstep

end RunBase

/-! ### Feeds and parses as steps -/

namespace Lookahead.Fed

variable {P : Subtree → Prop} {ctx : ParseContext} {s s' : RunState} {la : Lookahead}

/-- The next lookahead is fed as the cursor stands after reading it. -/
theorem nextLookahead (hla : ParseM.nextLookahead.exec ctx s = some (.ok (la, s'))) :
    Fed ctx s'.reuse la := by
  obtain ⟨-, hcases⟩ := exec_nextLookahead hla
  obtain ⟨tree, reused⟩ := la
  rcases hcases with ⟨hre, hfound, hreuse, -⟩ | ⟨hre, -, -, -, htree⟩
  · dsimp only at hre hfound
    subst hre
    rw [hreuse]
    exact ReuseCursor.reuseWalk_found ctx _ _ _ hfound
  · dsimp only at hre htree
    subst hre htree
    exact .lexed

theorem relex {state : Nat} (h : (ParseM.relex state).exec ctx s = some (.ok (la, s')))
    (c : ReuseCursor) : Fed ctx c la := by
  obtain ⟨-, -, hre, -, -, htree⟩ := exec_relex h
  obtain ⟨tree, reused⟩ := la
  dsimp only at hre htree
  subst hre htree
  exact .lexed

theorem missing {symbol examinedEnd : Nat}
    (h : (ParseM.missing symbol examinedEnd).exec ctx s = some (.ok (la, s'))) (c : ReuseCursor) :
    Fed ctx c la := by
  obtain ⟨-, -, hre, -, -, htree⟩ := exec_missing h
  obtain ⟨tree, reused⟩ := la
  dsimp only at hre htree
  subst hre htree
  exact .assumed

/-- Breaking a reused lookahead down feeds a subtree of it, on which the cursor then stands;
    below a subtree that counts no error, it counts none either. -/
theorem breakdown (hP : ReuseFamily P) (hb : RunBase P s) (hla : Fed ctx s.reuse la)
    (hcount : 0 < la.tree.childCount) {state : Nat} {tree : Subtree}
    (hbreak : (ParseM.breakdown state).exec ctx s = some (.ok (some tree, s'))) :
    Fed ctx s'.reuse { la with tree } := by
  have hre := hla.reused_of_childCount (Nat.pos_iff_ne_zero.1 hcount)
  obtain ⟨h0, e, rest, hpath, he⟩ := hla.head hre
  obtain ⟨-, hfound, hreuse⟩ := exec_breakdown hbreak
  obtain ⟨hbelow, e', rest', hpath', he'⟩ := ReuseCursor.breakdownWalk_found ctx state hfound.symm
  have hmem : tree ∈ la.tree.subtrees := he ▸ hbelow e (by rw [hpath]; rfl)
  have hclean := (hP.clean_of_mem (he ▸ hb.cursor.head hpath) h0 hmem).2
  obtain ⟨t, reused⟩ := la
  dsimp only at hre ⊢
  subst hre he'
  rw [hreuse]
  exact .reused hpath' hclean

end Lookahead.Fed

theorem exec_breakdown_frame {ctx : ParseContext} {s s' : RunState} {state : Nat}
    {found : Option Subtree} (h : (breakdown state).exec ctx s = some (.ok (found, s'))) :
    s'.errorRun = s.errorRun ∧ s'.nextId = s.nextId := by
  unfold breakdown at h
  simp only [exec_bind, exec_read, exec_get, moveReuse, sayAll, exec_modify, exec_pure,
    Option.some.injEq, Except.ok.injEq, Prod.mk.injEq] at h
  obtain ⟨rfl, rfl⟩ := h
  exact ⟨rfl, rfl⟩

/-- How a parse ends from state `s`: it accepts, or it gives up and makes an error root over
    the whole stack. -/
inductive Finishes (ctx : ParseContext) (s : RunState) : Subtree → RunState → Prop
  | accept {root : Subtree} {s' : RunState} :
      ParseM.accept.exec ctx s = some (.ok (root, s')) → Finishes ctx s root s'
  | giveUp {s' : RunState} :
      Finishes ctx s (Subtree.root ctx.table s.nextId errorSymbol 0 s.stack.popAll.1 ctx.total) s'

/-- What feeding a lookahead from `s` is in steps of the loop: steps to the state it ends in
    when it makes no root, and steps to a state it finishes from when it makes one. -/
structure FeedReaches (ctx : ParseContext) (s : RunState) (r : Option Subtree) (s' : RunState) :
    Prop where
  stops : r = none → Relation.ReflTransGen (ParseStep ctx) s s'
  finishes : ∀ root, r = some root →
    ∃ t, Relation.ReflTransGen (ParseStep ctx) s t ∧ Finishes ctx t root s'

theorem FeedReaches.trans {ctx : ParseContext} {s s₁ s' : RunState} {r : Option Subtree}
    (h₁ : Relation.ReflTransGen (ParseStep ctx) s s₁) (h : FeedReaches ctx s₁ r s') :
    FeedReaches ctx s r s' :=
  ⟨fun hr => h₁.trans (h.stops hr),
    fun root hr => (h.finishes root hr).imp fun _ ht => ⟨h₁.trans ht.1, ht.2⟩⟩

section Runs

variable {P : Subtree → Prop} {ctx : ParseContext}

mutual

/-- Every finished feed of a lookahead the parse feeds is a run of steps, ending in a finish
    when it makes a root. The induction follows the feed; an assumed token is shifted, as the
    simulation that chose it says, so its feed makes no root. -/
theorem AdvanceRun.reaches (hP : ReuseFamily P) :
    ∀ {la : Lookahead} {s s' : RunState} {r : Option Subtree}, AdvanceRun ctx la s r s' →
      RunBase P s → Lookahead.Fed ctx s.reuse la → FeedReaches ctx s r s'
  | _, _, _, _, .shiftNode hact hcount _ _ hshift, _, hla =>
    ⟨fun _ => .single (.shift hshift hla hact fun h0 => absurd h0 (Nat.pos_iff_ne_zero.1 hcount)),
      fun _ h => nomatch h⟩
  | _, _, _, _, .breakdownTree _ hcount _ hbreak hrun, hb, hla => by
    have h₁ := ParseStep.breakdown hbreak
    exact FeedReaches.trans (.single h₁)
      (AdvanceRun.reaches hP hrun (hb.step hP h₁) (hla.breakdown hP hb hcount hbreak))
  | _, _, _, _, .breakdownRelex _ _ _ hbreak hrelex hrun, hb, _ => by
    have h₁ := ParseStep.breakdown hbreak
    have h₂ := ParseStep.relex hrelex
    exact FeedReaches.trans (.tail (.single h₁) h₂)
      (AdvanceRun.reaches hP hrun ((hb.step hP h₁).step hP h₂) (.relex hrelex _))
  | _, _, _, _, .shiftLeaf hact _ hshift, _, hla =>
    ⟨fun _ => .single (.shift hshift hla hact fun _ hx => by rw [if_pos hx]), fun _ h => nomatch h⟩
  | _, _, _, _, .reduce _ hred hrun, hb, hla => by
    have h₁ := ParseStep.reduce hred
    obtain ⟨hreuse, -⟩ := exec_reduce hred
    exact FeedReaches.trans (.single h₁) (AdvanceRun.reaches hP hrun (hb.step hP h₁) (hreuse ▸ hla))
  | _, _, _, _, .accept _ hacc, _, _ =>
    ⟨(fun h => nomatch h), fun _ h => ⟨_, .refl, .accept (Option.some.inj h ▸ hacc)⟩⟩
  | _, _, _, _, .relexReused _ _ hrelex hrun, hb, _ => by
    have h₁ := ParseStep.relex hrelex
    exact FeedReaches.trans (.single h₁) (AdvanceRun.reaches hP hrun (hb.step hP h₁) (.relex hrelex _))
  | _, _, _, _, .skipError _ hfresh _ hskip, _, hla =>
    have h₂ := ParseStep.skipToken hskip hla hfresh
    ⟨fun _ => .tail (.single (.note _)) h₂, fun _ h => nomatch h⟩
  | _, _, _, _, .insert _ hfresh _ hchoose hmissing hrun₁ hrun₂, hb, hla => by
    obtain ⟨rfl, -, σ, hfeed⟩ := chooseFor_insert
      (Nat.lt_of_lt_of_le Nat.one_pos (Nat.le_max_right _ _)) hchoose
    have h₁ := ParseStep.missing hmissing
    have hr₁ : Relation.ReflTransGen (ParseStep ctx) _ _ := .tail (.single (.note _)) h₁
    have hb₁ := hb.reaches hP hr₁
    obtain ⟨hstack, -, hre, -, -, htree⟩ := exec_missing hmissing
    -- the assumed token is shifted, as the simulation that chose it says
    obtain ⟨hnone, -, -⟩ := AdvanceRun.of_shifted _ hrun₁ (by rw [htree]; rfl) hre hb₁.keep
      (by rw [htree, missingLeaf_leafSymbol, hstack]; exact hfeed)
    have hr₂ := hr₁.trans (((AdvanceRun.reaches hP hrun₁ hb₁ (.missing hmissing _)).stops hnone).tail
      .clearRepair)
    exact FeedReaches.trans hr₂
      (AdvanceRun.reaches hP hrun₂ (hb.reaches hP hr₂) ((hla.fresh hfresh).2.2 _))
  | _, _, _, _, .delete _ hfresh _ hchoose hskip, _, hla => by
    obtain rfl := exec_chooseFor hchoose
    have h₂ := ParseStep.skipToken hskip hla hfresh
    exact ⟨fun _ => .tail (.single (.note _)) h₂, fun _ h => nomatch h⟩
  | _, _, _, _, @AdvanceRun.complete _ _ s s₂ s₃ _ _ l _ _ _ hfresh _ hchoose hpath hinserts hrun,
      hb, hla => by
    -- the completion starts from the state the choice left, which is the one it was made in
    have hs₂ : s₂ = { s with log := l } := exec_chooseFor hchoose
    have hr₁ : Relation.ReflTransGen (ParseStep ctx) s s₂ := hs₂ ▸ .single (.note l)
    have hr₂ : Relation.ReflTransGen (ParseStep ctx) s s₃ := hr₁.trans
      (InsertsRun.reaches hP hinserts (hb.reaches hP hr₁)
        (hs₂ ▸ ParseContext.shortestCompletion_assumable hpath))
    exact FeedReaches.trans hr₂
      (AdvanceRun.reaches hP hrun (hb.reaches hP hr₂) ((hla.fresh hfresh).2.2 _))
  | _, _, _, _, .recoverEof _ _ _ hchoose _, _, _ => by
    obtain rfl := exec_chooseFor hchoose
    refine ⟨(fun h => nomatch h), fun _ h => ?_⟩
    cases h
    exact ⟨_, .single (.note _), .giveUp⟩

/-- Feeding assumed tokens that the simulation shifts one after another is a run of steps. -/
theorem InsertsRun.reaches (hP : ReuseFamily P) :
    ∀ {examinedEnd : Nat} {path : List Nat} {s s' : RunState},
      InsertsRun ctx examinedEnd path s s' → RunBase P s → Assumable ctx s.stack.states path →
      Relation.ReflTransGen (ParseStep ctx) s s'
  | _, _, _, _, .nil, _, _ => .refl
  | _, _, _, _, .cons hmissing hrun hrest, hb, .cons _ hfeed hnext => by
    have h₁ := ParseStep.missing hmissing
    have hb₁ := hb.step hP h₁
    obtain ⟨hstack, -, hre, -, -, htree⟩ := exec_missing hmissing
    obtain ⟨hnone, -, hstates⟩ := AdvanceRun.of_shifted _ hrun (by rw [htree]; rfl) hre hb₁.keep
      (by rw [htree, missingLeaf_leafSymbol, hstack]; exact hfeed)
    have hr₂ := (Relation.ReflTransGen.single h₁).trans
      (((AdvanceRun.reaches hP hrun hb₁ (.missing hmissing _)).stops hnone).tail .clearRepair)
    exact hr₂.trans (InsertsRun.reaches hP hrest (hb.reaches hP hr₂) (by dsimp only; rw [hstates]; exact hnext))

end

/-- Every finished parse loop is a run of steps to a state it finishes from. -/
theorem LoopRun.reaches (hP : ReuseFamily P) {s s' : RunState} {root : Subtree}
    (h : LoopRun ctx s root s') (hb : RunBase P s) :
    ∃ t, Relation.ReflTransGen (ParseStep ctx) s t ∧ Finishes ctx t root s' := by
  induction h with
  | last hround =>
    obtain ⟨la, s₁, hla, hrun⟩ := round_run hround
    have h₁ := ParseStep.lookahead hla
    exact ((AdvanceRun.reaches hP hrun (hb.step hP h₁) (.nextLookahead hla)).finishes _ rfl).imp
      fun _ ht => ⟨.head h₁ ht.1, ht.2⟩
  | next hround _ ih =>
    obtain ⟨la, s₁, hla, hrun⟩ := round_run hround
    have h₁ := ParseStep.lookahead hla
    have hr := Relation.ReflTransGen.head h₁
      ((AdvanceRun.reaches hP hrun (hb.step hP h₁) (.nextLookahead hla)).stops rfl)
    exact (ih (hb.reaches hP hr)).imp fun _ ht => ⟨hr.trans ht.1, ht.2⟩

end Runs

/-! ### Properties that every step keeps -/

/-- A property `I` of the states of a parse reusing subtrees of trees of `P` that the steps
    changing the stack keep, next to the base, and a property `R` that every root made from a
    state with `I` has. -/
structure RunSteps (ctx : ParseContext) (P : Subtree → Prop) (I : RunState → Prop)
    (R : Subtree → Prop) : Prop where
  same : ∀ {s s' : RunState}, I s → s'.stack = s.stack → s'.errorRun = s.errorRun →
    s.nextId ≤ s'.nextId → I s'
  shift : ∀ {s s' : RunState} {la : Lookahead} {state next : Nat} {extra : Bool},
    (ParseM.shift state la extra).exec ctx s = some (.ok ((), s')) → RunBase P s → I s →
    Lookahead.Fed ctx s.reuse la →
    ctx.table.action? s.stack.state la.tree.leafSymbol = some (.shift next extra) →
    (la.tree.childCount = 0 → extra = true → state = s.stack.state) → I s'
  reduce : ∀ {s s' : RunState} {symbol count production : Nat} {la : Subtree},
    (ParseM.reduce symbol count production la).exec ctx s = some (.ok ((), s')) →
    RunBase P s → I s → I s'
  skipToken : ∀ {s s' : RunState} {la : Lookahead},
    (ParseM.skipToken la.tree).exec ctx s = some (.ok ((), s')) → RunBase P s → I s →
    Lookahead.Fed ctx s.reuse la → la.reused = false → I s'
  accept : ∀ {s s' : RunState} {root : Subtree},
    ParseM.accept.exec ctx s = some (.ok (root, s')) → RunBase P s → I s → R root
  giveUp : ∀ {s : RunState}, RunBase P s → I s →
    R (Subtree.root ctx.table s.nextId errorSymbol 0 s.stack.popAll.1 ctx.total)

namespace RunSteps

variable {ctx : ParseContext} {P : Subtree → Prop} {I : RunState → Prop} {R : Subtree → Prop}
  {s s' t : RunState}

/-- Every step keeps `I`; those that leave the stack and the error run alone keep it as any
    such change does. -/
theorem step (hk : RunSteps ctx P I R) (hstep : ParseStep ctx s s') (hb : RunBase P s)
    (hi : I s) : I s' := by
  cases hstep with
  | lookahead hla =>
    obtain ⟨hstack, hcases⟩ := exec_nextLookahead hla
    rcases hcases with ⟨-, -, -, hnext, hrun⟩ | ⟨-, -, hnext, hrun, -⟩
    · exact hk.same hi hstack hrun (Nat.le_of_eq hnext.symm)
    · exact hk.same hi hstack hrun (by omega)
  | shift hshift hla hact hextra => exact hk.shift hshift hb hi hla hact hextra
  | reduce hred => exact hk.reduce hred hb hi
  | breakdown hbreak =>
    obtain ⟨hstack, -, -⟩ := exec_breakdown hbreak
    obtain ⟨hrun, hnext⟩ := exec_breakdown_frame hbreak
    exact hk.same hi hstack hrun (Nat.le_of_eq hnext.symm)
  | relex hrelex =>
    obtain ⟨hstack, -, -, hnext, hrun, -⟩ := exec_relex hrelex
    exact hk.same hi hstack hrun (by omega)
  | missing hmissing =>
    obtain ⟨hstack, -, -, hnext, hrun, -⟩ := exec_missing hmissing
    exact hk.same hi hstack hrun (by omega)
  | skipToken hskip hla hfresh => exact hk.skipToken hskip hb hi hla hfresh
  | note => exact hk.same hi rfl rfl (Nat.le_refl _)
  | clearRepair => exact hk.same hi rfl rfl (Nat.le_refl _)

/-- `I` holds at every state the steps reach. -/
theorem reaches (hk : RunSteps ctx P I R) (hP : ReuseFamily P)
    (hr : Relation.ReflTransGen (ParseStep ctx) s t) (hb : RunBase P s) (hi : I s) : I t := by
  induction hr with
  | refl => exact hi
  | tail hst hstep ih => exact hk.step hstep (hb.reaches hP hst) ih

theorem finishes (hk : RunSteps ctx P I R) {root : Subtree} (h : Finishes ctx s root s')
    (hb : RunBase P s) (hi : I s) : R root := by
  cases h with
  | accept hacc => exact hk.accept hacc hb hi
  | giveUp => exact hk.giveUp hb hi

/-- The tree of every parse reusing subtrees of trees of `P` has the property of roots, when
    the steps keep a property that the state it starts in has. -/
theorem of_parseText {t : ParseTable} {options : ParseOptions} {logging : Bool}
    {input : ByteArray} {old : Option Subtree} {next next' : Nat} {root : Subtree}
    {log : Array LogLine}
    (hk : RunSteps ⟨t, options, input, Length.of input.toList, logging, old.isSome⟩ P I R)
    (hP : ReuseFamily P) (hold : ∀ o ∈ old, P o)
    (hinit : I (RunState.initial options logging old next))
    (h : parseText t options logging input old next = some (.ok (root, log, next'))) : R root := by
  obtain ⟨s', hrun⟩ := LoopRun.of_parseText h
  have hb := RunBase.initial hold options logging next
  obtain ⟨s, hreach, hfin⟩ := hrun.reaches hP hb
  exact hk.finishes hfin (hb.reaches hP hreach) (hk.reaches hP hreach hb hinit)

end RunSteps

end IncrementalLR
