import IncrementalLR.Proofs.Parse.FreshSteps
import IncrementalLR.Proofs.Tree.CursorWalk
import IncrementalLR.Proofs.Parse.Language

/-!
# The counts of a fresh parse, and the children its nodes report

Every subtree records how many visible, named and visible descendant nodes lie below it,
looking through hidden ones, and a `SyntaxNode` answers child queries from these counts.
-/

namespace IncrementalLR

open Subtree

/-! ### Summaries that count the children -/

namespace ChildSummary

/-- The counts a summary keeps are those the children `cs` add up. -/
structure Counts (s : ChildSummary) (cs : List Subtree) : Prop where
  visible : s.visibleChildren = (cs.map visibleShare).sum
  named : s.namedChildren = (cs.map namedShare).sum
  descendants : s.visibleDescendants = (cs.map descendantShare).sum

theorem Counts.add {s : ChildSummary} {cs : List Subtree} (h : s.Counts cs) (isError : Bool)
    (c : Subtree) : (s.add isError c).Counts (cs ++ [c]) where
  visible := by simp [ChildSummary.add, h.visible, visibleShare]
  named := by simp [ChildSummary.add, h.named, namedShare]
  descendants := by simp [ChildSummary.add, h.descendants, descendantShare, Nat.add_assoc]

/-- A summary added up from the children counts them. -/
theorem counts_ofChildren (isError : Bool) (cs : List Subtree) :
    (ofChildren isError cs).Counts cs := by
  -- the fold adds the children one at a time, from the left
  induction cs using List.reverseRecOn with
  | nil => exact ⟨rfl, rfl, rfl⟩
  | append_singleton cs c ih =>
    rw [ofChildren, List.foldl_append, List.foldl_cons, List.foldl_nil]
    exact ih.add isError c

end ChildSummary

/-! ### Subtrees made from summaries -/

namespace Subtree.CountsAgree

variable {t : Subtree}

/-- A record that takes its counts from a summary that counts the children agrees with
    them, over children whose counts agree. -/
theorem withSummary (i : NodeInfo) {s : ChildSummary} {cs : List Subtree} (first : Option Subtree)
    (hs : s.Counts cs) (hcs : ∀ c ∈ cs, c.CountsAgree) :
    (Subtree.mk (i.withSummary s first) cs).CountsAgree :=
  .mk hs.visible hs.named hs.descendants hcs

theorem leaf {i : NodeInfo} (hvisible : i.visibleChildCount = 0) (hnamed : i.namedChildCount = 0)
    (hdescendants : i.visibleDescendantCount = 0) : (Subtree.mk i []).CountsAgree :=
  .mk hvisible hnamed hdescendants fun _ h => nomatch h

/-- Counts agree whatever else the record says. -/
theorem congr (h : t.CountsAgree) {u : Subtree}
    (hvisible : u.info.visibleChildCount = t.info.visibleChildCount)
    (hnamed : u.info.namedChildCount = t.info.namedChildCount)
    (hdescendants : u.info.visibleDescendantCount = t.info.visibleDescendantCount)
    (hchildren : u.children = t.children) : u.CountsAgree := by
  obtain ⟨i, cs⟩ := u
  simp only [info_mk, children_mk] at hvisible hnamed hdescendants hchildren
  subst hchildren
  exact .mk (hvisible.trans h.visible) (hnamed.trans h.named) (hdescendants.trans h.descendants)
    fun c hc => h.child hc

theorem withExtra (h : t.CountsAgree) (extra : Bool) (id : Nat) : (t.withExtra extra id).CountsAgree := by
  unfold Subtree.withExtra
  split
  · exact h
  · exact h.congr rfl rfl rfl rfl

theorem extendLookahead (h : t.CountsAgree) (n : Nat) : (t.extendLookahead n).CountsAgree := by
  unfold Subtree.extendLookahead
  split
  · exact h.congr rfl rfl rfl rfl
  · exact h

theorem node (table : ParseTable) (id symbol : Nat) {cs : List Subtree} (production parseState : Nat)
    (hcs : ∀ c ∈ cs, c.CountsAgree) : (Subtree.node table id symbol cs production parseState).CountsAgree :=
  withSummary _ _ (ChildSummary.counts_ofChildren _ cs) hcs

theorem errorNodeWith (table : ParseTable) (id : Nat) {cs : List Subtree} {summary : ChildSummary}
    (extra : Bool) (parseState : Nat) (hs : summary.Counts cs) (hcs : ∀ c ∈ cs, c.CountsAgree) :
    (Subtree.errorNodeWith table id cs summary extra parseState).CountsAgree :=
  withSummary _ _ hs hcs

theorem root (table : ParseTable) (id symbol production : Nat) {cs : List Subtree} (total : Length)
    (hcs : ∀ c ∈ cs, c.CountsAgree) : (Subtree.root table id symbol production cs total).CountsAgree :=
  have hs := ChildSummary.counts_ofChildren (symbol == errorSymbol) cs
  .mk hs.visible hs.named hs.descendants hcs

end Subtree.CountsAgree

/-- A fresh lookahead is a leaf that counts nothing. -/
theorem FreshAt.countsAgree {ctx : ParseContext} {P : Length} {la : Lookahead} (h : FreshAt ctx P la) :
    la.tree.CountsAgree := by
  cases h <;> exact .leaf rfl rfl rfl

/-- The summary merging a skipped token into the error node on top counts the merged
    children, when the error run's summary counts the children of the node the run
    made. -/
theorem counts_mergeSkipped {top : Subtree} {run : Option (Nat × ChildSummary)} (token : Subtree)
    (k : Nat) (hrun : ∀ runId summary, run = some (runId, summary) → top.id = runId →
      top.children ≠ [] → summary.Counts top.children) :
    (mergeSkipped (some top) run token k).2.Counts (mergeSkipped (some top) run token k).1 :=
  mergeSkipped_summary ChildSummary.Counts token k (ChildSummary.counts_ofChildren true)
    (fun _ _ h => h.add true token) hrun

/-! ### The invariant -/

/-- What a subtree on the stack of a fresh parse keeps for the counted queries, `run` being
    the error run: its counts agree, and the summary of the run counts the children of the
    node the run made. -/
structure Subtree.Counted (run : Option (Nat × ChildSummary)) (x : Subtree) : Prop where
  agrees : x.CountsAgree
  run : ∀ runId summary, run = some (runId, summary) → x.id = runId → x.children ≠ [] →
    summary.Counts x.children

namespace Subtree.Counted

variable {run : Option (Nat × ChildSummary)} {x : Subtree}

theorem leaf (h : x.CountsAgree) (hx : x.children = []) : x.Counted run :=
  ⟨h, fun _ _ _ _ hne => absurd hx hne⟩

/-- A new error run under an identity that no node with children has. -/
theorem newRun (h : x.Counted run) {next : Nat} (hid : x.children ≠ [] → x.id < next)
    (summary : ChildSummary) : x.Counted (some (next, summary)) := by
  refine ⟨h.agrees, fun runId summary' hr hx hcs => ?_⟩
  simp only [Option.some.injEq, Prod.mk.injEq] at hr
  obtain ⟨rfl, -⟩ := hr
  have := hid hcs
  omega

end Subtree.Counted

/-- What the state of a fresh parse keeps for the counted queries: its tiling, and every
    subtree on its stack counted against its error run. -/
structure CountInv (ctx : ParseContext) (s : RunState) : Prop where
  tiles : TileInv ctx s
  counted : EntriesHold (Subtree.Counted s.errorRun) s.stack.entries

namespace CountInv

open ParseM

variable {ctx : ParseContext} {s s' : RunState}

/-- The stack's subtrees are counted against a new error run under the next identity: a
    node on the stack has an identity already given. -/
theorem newRun (h : CountInv ctx s) (summary : ChildSummary) :
    EntriesHold (Subtree.Counted (some (s.nextId, summary))) s.stack.entries :=
  fun e he x hx => (h.counted e he x hx).newRun (h.tiles.stack.kept e he x hx).id_lt summary

theorem popAll_agrees (h : CountInv ctx s) : ∀ x ∈ s.stack.popAll.1, x.CountsAgree :=
  fun x hx => (h.counted.popAll x hx).agrees

theorem shiftLeaf (h : CountInv ctx s) {la : Lookahead} (hla : FreshAt ctx s.stack.position la)
    {next : Nat} {extra : Bool}
    (hact : ctx.table.action? s.stack.state la.tree.leafSymbol = some (.shift next extra))
    (hshift : (shift (if extra then s.stack.state else next) la extra).exec ctx s =
      some (.ok ((), s'))) : CountInv ctx s' := by
  obtain ⟨hstack, -, -, hrun⟩ := exec_shift hshift
  rw [if_pos hla.childCount] at hstack
  refine ⟨(h.tiles.shiftLeaf hla hact hshift).1, ?_⟩
  rw [hstack, hrun]
  exact h.counted.pushed _ (.leaf (hla.countsAgree.withExtra extra s.nextId) (by simp [hla.children]))

/-- A reduction puts a new node over the subtrees it pops: no error run was made under its
    identity. -/
theorem reduce (h : CountInv ctx s) {symbol count production : Nat} {la : Subtree} {u : Unit}
    (hred : (ParseM.reduce symbol count production la).exec ctx s = some (.ok (u, s'))) :
    CountInv ctx s' ∧ s'.stack.position = s.stack.position := by
  obtain ⟨htiles, hpos⟩ := h.tiles.reduce hred
  obtain ⟨-, -, hrun, k, hstack⟩ := exec_reduce hred
  have hpopped : ∀ x ∈ (s.stack.popCount count).1, x.Counted s.errorRun := h.counted.popFrom count
  have hbelow : EntriesHold (Subtree.Counted s.errorRun) (s.stack.popCount count).2.entries :=
    h.counted.popFrom_rest count
  have hsplit := splitTrailingExtras_append (s.stack.popCount count).1
  have hnode : ((node ctx.table s.nextId symbol (splitTrailingExtras (s.stack.popCount count).1).1
      production (s.stack.popCount count).2.state).extendLookahead k).Counted s.errorRun := by
    refine ⟨(CountsAgree.node _ _ _ _ _ fun c hc =>
      (hpopped c (hsplit ▸ List.mem_append_left _ hc)).agrees).extendLookahead k,
      fun runId summary hr hid _ => ?_⟩
    have := h.tiles.runId runId summary hr
    simp only [extendLookahead_id, node_id] at hid
    omega
  refine ⟨⟨htiles, ?_⟩, hpos⟩
  rw [hstack, hrun]
  exact (hbelow.pushed _ hnode).pushAll _ fun x hx => hpopped x (hsplit ▸ List.mem_append_right _ hx)

/-- Skipping a fresh token puts an extra error node over it, or over it and what the error
    node on top held; a new error run counts the new node's children. -/
theorem skipToken (h : CountInv ctx s) {la : Lookahead} {u : Unit}
    (hskip : (skipToken la.tree).exec ctx s = some (.ok (u, s'))) (hla : FreshAt ctx s.stack.position la) :
    CountInv ctx s' ∧ s'.stack.position = s.stack.position.add la.tree.totalSize := by
  obtain ⟨htiles, hpos⟩ := h.tiles.skipToken hskip hla
  refine ⟨⟨htiles, ?_⟩, hpos⟩
  obtain ⟨-, hcases⟩ := exec_skipToken_eq hskip
  rcases hcases with ⟨top, htop, -, -, -, hstack, hrun⟩ |
    ⟨-, -, ⟨-, hstack, hrun⟩ | ⟨-, hstack, hrun⟩⟩
  · -- the error node on top is popped, and a new one holds its children and the token
    obtain ⟨hpop, -, -, -, e, hes, he⟩ := h.tiles.stack.tiled.pop htop
    rw [hpop] at hstack hrun
    have htop' : top.Counted s.errorRun := h.counted e (by rw [hes]; exact List.mem_cons_self) top he
    have hmerged : ∀ c ∈ (mergeSkipped (some top) s.errorRun la.tree (s.nextId + 1)).1,
        c.CountsAgree := by
      intro c hc
      rcases (mem_mergeSkipped (fun x hx => (Option.some.inj hx).symm) _ _ _).2 c hc with
        rfl | hc | ⟨-, cid, rfl⟩
      · exact hla.countsAgree
      · exact htop'.agrees.child hc
      · exact htop'.agrees.withExtra false cid
    have hcounts := counts_mergeSkipped la.tree (s.nextId + 1) htop'.run
    rw [hstack, hrun]
    refine (h.newRun _).pop.pushed _ ⟨.errorNodeWith _ _ _ _ hcounts hmerged, fun runId summary hr _ _ => ?_⟩
    simp only [Option.some.injEq, Prod.mk.injEq] at hr
    obtain ⟨-, rfl⟩ := hr
    exact hcounts
  · -- an error token is pushed as an extra
    rw [hstack, hrun]
    exact h.counted.pushed _ (.leaf (hla.countsAgree.withExtra true s.nextId) (by simp [hla.children]))
  · -- any other token is wrapped in an error node of its own
    have hcounts := ChildSummary.counts_ofChildren true [la.tree]
    rw [hstack, hrun]
    refine (h.newRun _).pushed _ ⟨.errorNodeWith _ _ _ _ hcounts (by simpa using hla.countsAgree),
      fun runId summary hr _ _ => ?_⟩
    simp only [Option.some.injEq, Prod.mk.injEq] at hr
    obtain ⟨-, rfl⟩ := hr
    exact hcounts

/-- Accepting makes a root over the whole stack, with the children of the subtree it takes
    the place of. -/
theorem accept (h : CountInv ctx s) {root : Subtree}
    (hacc : ParseM.accept.exec ctx s = some (.ok (root, s'))) : root.CountsAgree := by
  obtain ⟨-, -, id, hroot⟩ := exec_accept hacc
  rcases hroot with rfl | ⟨i, t, hi, -, -, -, -, rfl⟩
  · exact .root _ _ _ _ _ h.popAll_agrees
  · have ht := h.popAll_agrees t (List.mem_of_getElem? hi)
    refine .root _ _ _ _ _ fun c hc => ?_
    rcases List.mem_append.1 hc with hc | hc
    · rcases List.mem_append.1 hc with hc | hc
      · exact h.popAll_agrees c (List.mem_of_mem_take hc)
      · exact ht.child hc
    · exact h.popAll_agrees c (List.mem_of_mem_drop hc)

end CountInv

/-- Every step of a fresh parse keeps the stack counted against the error run, next to the
    tiling, and every root it makes has counts that agree. -/
theorem CountInv.freshSteps (ctx : ParseContext) :
    FreshSteps ctx (fun s => EntriesHold (Subtree.Counted s.errorRun) s.stack.entries)
      Subtree.CountsAgree where
  same h hstack hrun := by rw [hstack, hrun]; exact h
  shiftLeaf hshift ht h hla hact := (CountInv.shiftLeaf ⟨ht, h⟩ hla hact hshift).counted
  reduce hred ht h := (CountInv.reduce ⟨ht, h⟩ hred).1.counted
  skipToken hskip ht h hla := (CountInv.skipToken ⟨ht, h⟩ hskip hla).1.counted
  accept hacc ht h _ _ := CountInv.accept ⟨ht, h⟩ hacc
  giveUp _ ht h := .root _ _ _ _ _ (CountInv.popAll_agrees ⟨ht, h⟩)

/-- The counts every subtree of a fresh parse's tree records agree with its children. -/
theorem parseText_countsAgree {t : ParseTable} {options : ParseOptions} {logging : Bool}
    {input : ByteArray} {next next' : Nat} {root : Subtree} {log : Array LogLine}
    (h : parseText t options logging input none next = some (.ok (root, log, next'))) :
    root.CountsAgree :=
  (CountInv.freshSteps _).of_parseText (entriesHold_initial _ options logging none next) h

/-! ### The children the nodes of a fresh parse report -/

/-- A property that every child of a subtree with it has holds at the subtree a cursor
    below `top` stands on. -/
theorem CursorPath.parentIn_of_hereditary {table : ParseTable} {top : Subtree} {P : Subtree → Prop}
    (hP : ∀ t, P t → ∀ c ∈ t.children, P c) (htop : P top) {path : List CursorEntry}
    (h : CursorPath table top path) : P (CursorEntry.parentIn top path) := by
  induction h with
  | nil => exact htop
  | @cons e rest earlier _ hchildren _ _ _ _ ih => exact hP _ ih e.tree (by rw [hchildren]; simp)

/-- The walk from any node that moves reach in a fresh parse visits the node and then its
    visible descendants in pre-order, and the node counts what the walk visits. -/
theorem parseText_descendants_walk {t : ParseTable} {options : ParseOptions} {logging : Bool}
    {input : ByteArray} {next next' : Nat} {root : Subtree} {log : Array LogLine}
    (h : parseText t options logging input none next = some (.ok (root, log, next')))
    (table : ParseTable) {c : TreeCursor} (hc : ((SyntaxNode.ofRoot root).walk table).Reaches c) :
    c.node.descendants table = c.node :: c.node.visibleDescendants ∧
      c.node.descendantCount = (c.node.descendants table).length := by
  have hstart : ((SyntaxNode.ofRoot root).walk table).Settled :=
    ⟨parseText_countsAgree h, List.forall_mem_nil _, fun _ he => nomatch he⟩
  have hagree : c.node.tree.CountsAgree := (TreeCursor.settled_moves.reaches hstart hc).current
  exact ⟨SyntaxNode.descendants_eq hagree table, SyntaxNode.descendantCount_eq hagree table⟩

end IncrementalLR
