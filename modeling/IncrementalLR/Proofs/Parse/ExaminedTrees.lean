import IncrementalLR.Proofs.Parse.FreshSteps
import IncrementalLR.Proofs.Tree.KeptSubtrees
import IncrementalLR.Proofs.Parse.Language

/-!
# The text a fresh parse examined, and edits of its tree

The parser makes every node from a summary of its children, and the node's lookahead reaches
as far as the furthest text a child examined: every node examined as far as its children
(`Subtree.Examines`).
-/

namespace IncrementalLR

open Subtree

/-! ### Summaries that reach as far as the children -/

namespace ChildSummary

/-- The summary's total is that of the children `cs`, and its examined end is no earlier than
    the end of what any child examined, the children following one another from the start. -/
structure Reaches (s : ChildSummary) (cs : List Subtree) : Prop where
  total : s.total = totalOf cs
  examined : ∀ pre c post, cs = pre ++ c :: post →
    (totalOf pre).bytes + c.examinedBytes ≤ s.examinedEnd

theorem examinedEnd_le_foldl (b : Bool) :
    ∀ (cs : List Subtree) (s : ChildSummary), s.examinedEnd ≤ (cs.foldl (add b) s).examinedEnd
  | [], _ => Nat.le_refl _
  | c :: cs, s => Nat.le_trans (Nat.le_max_left _ _) (examinedEnd_le_foldl b cs (s.add b c))

/-- A summary added up from the children reaches as far as each of them. -/
theorem reaches_ofChildren (b : Bool) (cs : List Subtree) : (ofChildren b cs).Reaches cs := by
  refine ⟨ofChildren_total b cs, fun pre c post hcs => ?_⟩
  subst hcs
  have hpre : (pre.foldl (add b) empty).total = totalOf pre := ofChildren_total b pre
  rw [ofChildren, List.foldl_append, List.foldl_cons]
  calc (totalOf pre).bytes + c.examinedBytes
      = (pre.foldl (add b) empty).total.bytes + c.totalBytes + c.lookaheadBytes := by
        rw [hpre, examinedBytes, Nat.add_assoc]
    _ ≤ ((pre.foldl (add b) empty).add b c).examinedEnd := Nat.le_max_right _ _
    _ ≤ _ := examinedEnd_le_foldl b post _

/-- Adding a child to a summary that reaches as far as the children keeps it so. -/
theorem Reaches.add {s : ChildSummary} {cs : List Subtree} (h : s.Reaches cs) (b : Bool)
    (t : Subtree) : (s.add b t).Reaches (cs ++ [t]) := by
  have hend : (s.add b t).examinedEnd =
      max s.examinedEnd (s.total.bytes + t.totalBytes + t.lookaheadBytes) := rfl
  refine ⟨?_, fun pre c post hcs => ?_⟩
  · rw [totalOf_append, totalOf_cons, totalOf_nil, Length.add_zero, ← h.total]
    rfl
  rw [hend, h.total]
  rcases List.eq_nil_or_concat post with rfl | ⟨L, d, rfl⟩
  · -- the child added last
    obtain ⟨rfl, hc⟩ := List.append_inj' hcs rfl
    obtain rfl : t = c := by simpa using hc
    simp only [examinedBytes]
    omega
  · -- a child that was there before
    rw [List.concat_eq_append, show pre ++ c :: (L ++ [d]) = (pre ++ c :: L) ++ [d] by simp] at hcs
    obtain ⟨hcs', -⟩ := List.append_inj' hcs rfl
    have := h.examined pre c L hcs'
    omega

end ChildSummary

/-- A node whose record takes its geometry from a summary that reaches as far as its
    children examined as far as each of them. -/
theorem examinesChildren_withSummary (i : NodeInfo) {s : ChildSummary} {cs : List Subtree}
    (hs : s.Reaches cs) : (mk (i.withSummary s cs.head?) cs).ExaminesChildren := by
  intro pre c post hcs
  have hle := hs.examined pre c post hcs
  cases cs with
  | nil => simp at hcs
  | cons d rest =>
    -- the padding and size add up to the children's total, which the first child's padding
    -- starts
    have htotal := congrArg Length.bytes hs.total
    simp only [totalOf_cons, Length.bytes_add, totalSize_bytes] at htotal
    have hd : d.padding.bytes ≤ d.totalBytes := Nat.le_add_right _ _
    have hexam : (mk (i.withSummary s (d :: rest).head?) (d :: rest)).examinedBytes =
        d.padding.bytes + (s.total.bytes - d.padding.bytes) + (s.examinedEnd - s.total.bytes) :=
      rfl
    rw [hexam]
    omega

namespace Subtree.Examines

variable {t : Subtree}

theorem of_leaf (h : t.children = []) : t.Examines := by
  obtain ⟨i, cs⟩ := t
  rw [children_mk] at h
  subst h
  exact of_children (fun pre c post h => by simp at h) (by simp)

theorem withSummary (i : NodeInfo) {s : ChildSummary} {cs : List Subtree} (hs : s.Reaches cs)
    (hcs : ∀ c ∈ cs, c.Examines) : (mk (i.withSummary s cs.head?) cs).Examines :=
  of_children (examinesChildren_withSummary i hs) hcs

/-- A record over the same children that examined at least as far. -/
theorem of_wider (h : t.Examines) {i : NodeInfo}
    (hle : t.examinedBytes ≤ (mk i t.children).examinedBytes) : (mk i t.children).Examines :=
  of_children (fun pre c post hcs => Nat.le_trans (h.here pre c post hcs) hle) fun _ hc => h.child hc

theorem withExtra (h : t.Examines) (extra : Bool) (id : Nat) : (t.withExtra extra id).Examines := by
  unfold Subtree.withExtra
  split
  · exact h
  · exact h.of_wider (Nat.le_refl _)

theorem extendLookahead (h : t.Examines) (k : Nat) : (t.extendLookahead k).Examines := by
  unfold Subtree.extendLookahead
  split
  · rename_i hk
    refine h.of_wider ?_
    simp only [examinedBytes, totalBytes, padding, size, lookaheadBytes, info_mk] at hk ⊢
    omega
  · exact h

theorem node (table : ParseTable) (id symbol : Nat) {cs : List Subtree} (production parseState : Nat)
    (hcs : ∀ c ∈ cs, c.Examines) : (Subtree.node table id symbol cs production parseState).Examines :=
  withSummary _ (ChildSummary.reaches_ofChildren _ cs) hcs

theorem errorNodeWith (table : ParseTable) (id : Nat) {cs : List Subtree} {summary : ChildSummary}
    (extra : Bool) (parseState : Nat) (hs : summary.Reaches cs) (hcs : ∀ c ∈ cs, c.Examines) :
    (Subtree.errorNodeWith table id cs summary extra parseState).Examines :=
  withSummary _ hs hcs

end Subtree.Examines

/-! ### The invariant -/

/-- What a subtree on the stack of a fresh parse keeps about the text it examined, `run` being
    the error run: it examined as far as its children, and the summary of the run reaches as
    far as the children of the node the run made. -/
structure Subtree.RunExamined (run : Option (Nat × ChildSummary)) (x : Subtree) : Prop where
  examines : x.Examines
  run : ∀ runId summary, run = some (runId, summary) → x.id = runId → x.children ≠ [] →
    summary.Reaches x.children

namespace Subtree.RunExamined

variable {run : Option (Nat × ChildSummary)} {x : Subtree}

theorem leaf (hx : x.children = []) : x.RunExamined run :=
  ⟨.of_leaf hx, fun _ _ _ _ hne => absurd hx hne⟩

/-- A new error run under an identity that no node with children has. -/
theorem newRun (h : x.RunExamined run) {next : Nat} (hid : x.children ≠ [] → x.id < next)
    (summary : ChildSummary) : x.RunExamined (some (next, summary)) := by
  refine ⟨h.examines, fun runId summary' hr hx hcs => ?_⟩
  simp only [Option.some.injEq, Prod.mk.injEq] at hr
  obtain ⟨rfl, -⟩ := hr
  have := hid hcs
  omega

end Subtree.RunExamined

/-- Every subtree on the stack of a run state examined as far as its children, against the
    state's error run. -/
def StackExamined (s : RunState) : Prop :=
  EntriesHold (Subtree.RunExamined s.errorRun) s.stack.entries

namespace StackExamined

open ParseM

variable {ctx : ParseContext} {s s' : RunState}

/-- The stack's subtrees are examined against a new error run under the next identity: a
    node on the stack has an identity already given. -/
theorem newRun (ht : TileInv ctx s) (h : StackExamined s) (summary : ChildSummary) :
    EntriesHold (Subtree.RunExamined (some (s.nextId, summary))) s.stack.entries :=
  fun e he x hx => (h e he x hx).newRun (ht.stack.kept e he x hx).id_lt summary

theorem shiftLeaf {la : Lookahead} {next : Nat} {extra : Bool}
    (hshift : (shift (if extra then s.stack.state else next) la extra).exec ctx s =
      some (.ok ((), s')))
    (h : StackExamined s) (hla : FreshAt ctx s.stack.position la) : StackExamined s' := by
  obtain ⟨hstack, -, -, hrun⟩ := exec_shift hshift
  rw [if_pos hla.childCount] at hstack
  unfold StackExamined
  rw [hstack, hrun]
  exact h.pushed _ (.leaf (by simp [hla.children]))

/-- A reduction puts a new node over the subtrees it pops: no error run was made under its
    identity. -/
theorem reduce {symbol count production : Nat} {la : Subtree} {u : Unit}
    (hred : (ParseM.reduce symbol count production la).exec ctx s = some (.ok (u, s')))
    (ht : TileInv ctx s) (h : StackExamined s) : StackExamined s' := by
  obtain ⟨-, -, hrun, k, hstack⟩ := exec_reduce hred
  have hpopped : ∀ x ∈ (s.stack.popCount count).1, x.RunExamined s.errorRun := h.popFrom count
  have hsplit := splitTrailingExtras_append (s.stack.popCount count).1
  have hnode : ((node ctx.table s.nextId symbol (splitTrailingExtras (s.stack.popCount count).1).1
      production (s.stack.popCount count).2.state).extendLookahead k).RunExamined s.errorRun := by
    refine ⟨(Examines.node _ _ _ _ _ fun c hc =>
      (hpopped c (hsplit ▸ List.mem_append_left _ hc)).examines).extendLookahead k,
      fun runId summary hr hid _ => ?_⟩
    have := ht.runId runId summary hr
    simp only [extendLookahead_id, node_id] at hid
    omega
  unfold StackExamined
  rw [hstack, hrun]
  exact ((h.popFrom_rest count).pushed _ hnode).pushAll _
    fun x hx => hpopped x (hsplit ▸ List.mem_append_right _ hx)

/-- Skipping a fresh token puts an extra error node over it, or over it and what the error
    node on top held; a new error run reaches as far as the new node's children. -/
theorem skipToken {la : Lookahead} {u : Unit}
    (hskip : (ParseM.skipToken la.tree).exec ctx s = some (.ok (u, s'))) (ht : TileInv ctx s)
    (h : StackExamined s) (hla : FreshAt ctx s.stack.position la) : StackExamined s' := by
  obtain ⟨-, hcases⟩ := exec_skipToken_eq hskip
  have htoken : la.tree.Examines := .of_leaf hla.children
  unfold StackExamined
  rcases hcases with ⟨top, htop, -, -, -, hstack, hrun⟩ |
    ⟨-, -, ⟨-, hstack, hrun⟩ | ⟨-, hstack, hrun⟩⟩
  · -- the error node on top is popped, and a new one holds its children and the token
    obtain ⟨hpop, -, -, -, e, hes, he⟩ := ht.stack.tiled.pop htop
    rw [hpop] at hstack hrun
    have htop' : top.RunExamined s.errorRun := h e (by rw [hes]; exact List.mem_cons_self) top he
    have hmerged : ∀ c ∈ (mergeSkipped (some top) s.errorRun la.tree (s.nextId + 1)).1,
        c.Examines := by
      intro c hc
      rcases (mem_mergeSkipped (fun x hx => (Option.some.inj hx).symm) _ _ _).2 c hc with
        rfl | hc | ⟨hnil, cid, rfl⟩
      · exact htoken
      · exact htop'.examines.child hc
      · exact .of_leaf (by simp [hnil])
    have hreach := mergeSkipped_summary ChildSummary.Reaches la.tree (s.nextId + 1)
      (ChildSummary.reaches_ofChildren true) (fun _ _ h => h.add true la.tree) htop'.run
    rw [hstack, hrun]
    refine (newRun ht h _).pop.pushed _ ⟨.errorNodeWith _ _ _ _ hreach hmerged,
      fun runId summary hr _ _ => ?_⟩
    simp only [Option.some.injEq, Prod.mk.injEq] at hr
    obtain ⟨-, rfl⟩ := hr
    exact hreach
  · -- an error token is pushed as an extra
    rw [hstack, hrun]
    exact h.pushed _ (.leaf (by simp [hla.children]))
  · -- any other token is wrapped in an error node of its own
    have hreach := ChildSummary.reaches_ofChildren true [la.tree]
    rw [hstack, hrun]
    refine (newRun ht h _).pushed _ ⟨.errorNodeWith _ _ _ _ hreach (by simpa using htoken),
      fun runId summary hr _ _ => ?_⟩
    simp only [Option.some.injEq, Prod.mk.injEq] at hr
    obtain ⟨-, rfl⟩ := hr
    exact hreach

end StackExamined

/-- Every step of a fresh parse keeps the stack examined against the error run, and every
    root it makes has children that examined as far as theirs. -/
theorem StackExamined.freshSteps (ctx : ParseContext) :
    FreshSteps ctx StackExamined fun root => ∀ c ∈ root.children, c.Examines where
  same h hstack hrun := by
    unfold StackExamined at h ⊢
    rw [hstack, hrun]
    exact h
  shiftLeaf hshift _ h hla _ := StackExamined.shiftLeaf hshift h hla
  reduce hred ht h := StackExamined.reduce hred ht h
  skipToken hskip ht h hla := StackExamined.skipToken hskip ht h hla
  accept hacc _ h _ _ :=
    children_of_accept hacc (fun x hx => (h.popAll x hx).examines) fun _ hx _ hc => hx.child hc
  giveUp _ _ h := by simpa using fun x hx => (EntriesHold.popAll h x hx).examines

/-- Below the root of every fresh parse, every node examined as far as each of its
    children. -/
theorem parseText_examines {t : ParseTable} {options : ParseOptions} {logging : Bool}
    {input : ByteArray} {next next' : Nat} {root : Subtree} {log : Array LogLine}
    (h : parseText t options logging input none next = some (.ok (root, log, next'))) :
    ∀ c ∈ root.children, c.Examines :=
  (StackExamined.freshSteps _).of_parseText (entriesHold_initial _ options logging none next) h

end IncrementalLR
