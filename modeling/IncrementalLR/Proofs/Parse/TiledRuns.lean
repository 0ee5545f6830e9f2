import IncrementalLR.Proofs.Parse.Tiling

/-!
# The runs of a fresh parse

A parse without an old tree keeps its stack over its text (`TileInv`).
-/

namespace IncrementalLR

open Subtree

variable {X : List UInt8}

/-! ### Settled subtrees -/

theorem Subtree.subtrees_eq (t : Subtree) : t.subtrees = t :: subtreesOf t.children := by
  obtain ⟨i, cs⟩ := t
  rfl

theorem Subtree.mem_subtreesOf {u : Subtree} :
    ∀ {cs : List Subtree}, u ∈ subtreesOf cs ↔ ∃ c ∈ cs, u ∈ c.subtrees
  | [] => by simp [subtreesOf]
  | c :: cs => by
    rw [subtreesOf, List.mem_append, mem_subtreesOf]
    simp

/-- The assumed tokens in a subtree are empty. -/
def Subtree.MissingEmpty (x : Subtree) : Prop :=
  ∀ u ∈ x.subtrees, u.isMissing = true → u.totalBytes = 0

@[simp] theorem Subtree.withExtra_totalSize (t : Subtree) (extra : Bool) (id : Nat) :
    (t.withExtra extra id).totalSize = t.totalSize := by
  simp only [totalSize, withExtra_padding, withExtra_size]

@[simp] theorem Subtree.extendLookahead_totalSize (t : Subtree) (n : Nat) :
    (t.extendLookahead n).totalSize = t.totalSize := by
  simp only [totalSize, extendLookahead_padding, extendLookahead_size]

@[simp] theorem Subtree.withExtra_totalBytes (t : Subtree) (extra : Bool) (id : Nat) :
    (t.withExtra extra id).totalBytes = t.totalBytes := by
  simp only [totalBytes, withExtra_padding, withExtra_size]

@[simp] theorem Subtree.extendLookahead_totalBytes (t : Subtree) (n : Nat) :
    (t.extendLookahead n).totalBytes = t.totalBytes := by
  simp only [totalBytes, extendLookahead_padding, extendLookahead_size]

namespace Subtree.MissingEmpty

variable {x : Subtree}

/-- A subtree that is not an assumed token has empty assumed tokens when the subtrees of
    its children have. -/
theorem of_children (hmissing : x.isMissing = false)
    (hcs : ∀ c ∈ x.children, c.MissingEmpty) : x.MissingEmpty := by
  intro u hu hu'
  rw [subtrees_eq, List.mem_cons] at hu
  rcases hu with rfl | hu
  · rw [hmissing] at hu'
    cases hu'
  · obtain ⟨c, hc, huc⟩ := mem_subtreesOf.1 hu
    exact hcs c hc u huc hu'

theorem leaf (hx : x.children = []) (hmissing : x.isMissing = true → x.totalBytes = 0) :
    x.MissingEmpty := by
  intro u hu hu'
  rw [subtrees_eq, hx, List.mem_cons] at hu
  rcases hu with rfl | hu
  · exact hmissing hu'
  · simp [subtreesOf] at hu

theorem child (h : x.MissingEmpty) {c : Subtree} (hc : c ∈ x.children) : c.MissingEmpty :=
  fun u hu => h u (by rw [subtrees_eq]; exact List.mem_cons_of_mem _ (mem_subtreesOf.2 ⟨c, hc, hu⟩))

/-- A record changed in its flags or its examined text keeps the assumed tokens below. -/
theorem of_info {i i' : NodeInfo} {cs : List Subtree} (h : (Subtree.mk i cs).MissingEmpty)
    (hmissing : i'.missing = i.missing) (hpadding : i'.padding = i.padding)
    (hsize : i'.size = i.size) : (Subtree.mk i' cs).MissingEmpty := by
  intro u hu hu'
  rw [subtrees_eq, List.mem_cons] at hu
  rcases hu with rfl | hu
  · have := h (.mk i cs) (by rw [subtrees_eq]; exact List.mem_cons_self)
      (by simpa [isMissing, hmissing] using hu')
    simpa [totalBytes, padding, size, hpadding, hsize] using this
  · exact h u (by rw [subtrees_eq]; exact List.mem_cons_of_mem _ hu) hu'

theorem withExtra (h : x.MissingEmpty) (extra : Bool) (id : Nat) :
    (x.withExtra extra id).MissingEmpty := by
  unfold Subtree.withExtra
  split
  · exact h
  · obtain ⟨i, cs⟩ := x
    exact h.of_info rfl rfl rfl

theorem extendLookahead (h : x.MissingEmpty) (n : Nat) : (x.extendLookahead n).MissingEmpty := by
  unfold Subtree.extendLookahead
  split
  · obtain ⟨i, cs⟩ := x
    exact h.of_info rfl rfl rfl
  · exact h

end Subtree.MissingEmpty

/-- A subtree as a fresh parse leaves it on the stack: its assumed tokens are empty, and
    so is the subtree itself when it has no children and is neither an extra, an error
    nor a token. -/
structure Subtree.Settled (tokenCount : Nat) (x : Subtree) : Prop where
  missing : x.MissingEmpty
  childless : x.children = [] → x.isExtra = false → x.isError = false →
    tokenCount ≤ x.symbol → x.totalBytes = 0

namespace Subtree.Settled

variable {tc : Nat} {x : Subtree}

/-- A leaf is settled when it is empty as an assumed token, and as a childless subtree
    that is neither an extra, an error nor a token. -/
theorem leaf (hx : x.children = []) (hmissing : x.isMissing = true → x.totalBytes = 0)
    (hempty : x.isExtra = false → x.isError = false → tc ≤ x.symbol → x.totalBytes = 0) :
    x.Settled tc :=
  ⟨.leaf hx hmissing, fun _ => hempty⟩

theorem extendLookahead (h : x.Settled tc) (n : Nat) : (x.extendLookahead n).Settled tc := by
  refine ⟨h.missing.extendLookahead n, fun hcs hextra herr hsym => ?_⟩
  rw [extendLookahead_totalBytes]
  exact h.childless (by simpa using hcs) (by simpa using hextra)
    (by simpa [isError] using herr) (by simpa using hsym)

end Subtree.Settled

theorem settled_node {tc : Nat} (table : ParseTable) (id symbol : Nat) {cs : List Subtree}
    (production parseState : Nat) (hcs : ∀ c ∈ cs, c.MissingEmpty) :
    (node table id symbol cs production parseState).Settled tc :=
  ⟨.of_children (by simp) (by simpa using hcs), fun hnil _ _ _ => by
    rw [node_children] at hnil
    subst hnil
    exact node_nil_totalBytes table id symbol production parseState⟩

theorem settled_errorNodeWith {tc : Nat} (table : ParseTable) (id : Nat) {cs : List Subtree}
    (summary : ChildSummary) (extra : Bool) (parseState : Nat) (hcs : ∀ c ∈ cs, c.MissingEmpty) :
    (errorNodeWith table id cs summary extra parseState).Settled tc :=
  ⟨.of_children (by simp) (by simpa using hcs), fun _ _ herr _ => by simp [isError] at herr⟩

/-! ### Splicing a child into the root -/

/-- Putting a subtree's children in its place among spanning subtrees keeps them spanning
    the same text, when the subtree is empty if it has no children. -/
theorem Subtree.SpansList.splice {a : Nat} {xs ys : List Subtree} {t : Subtree}
    (h : SpansList X a (xs ++ t :: ys)) (ht : t.children = [] → t.totalBytes = 0) :
    SpansList X a (xs ++ t.children ++ ys) ∧
      totalOf (xs ++ t.children ++ ys) = totalOf (xs ++ t :: ys) := by
  obtain ⟨hxs, hrest⟩ := h.of_append
  cases hrest with
  | cons hspans hys =>
    -- the children span what the subtree spans, or the subtree spans nothing
    have hkids : SpansList X (a + (totalOf xs).bytes) t.children ∧
        totalOf t.children = t.totalSize := by
      by_cases hnil : t.children = []
      · have hzero := ht hnil
        refine ⟨by rw [hnil]; exact .nil (by have := hspans.le; omega), ?_⟩
        rw [hnil, totalOf_nil, hspans.covers.eq_zero hzero]
      · exact hspans.children hnil
    obtain ⟨hkl, hkt⟩ := hkids
    refine ⟨?_, ?_⟩
    · rw [List.append_assoc]
      refine hxs.append (hkl.append ?_)
      rw [hkt, totalSize_bytes]
      exact hys
    · rw [totalOf_append, totalOf_append, totalOf_append, totalOf_cons, hkt, Length.add_assoc]

/-! ### Merging a skipped token into an error node -/

/-- The children of the error node that skipping a token makes from the extra error node
    on top span the text of both, and the summary it is given adds them up, when the
    error run's summary adds up the children of the node that run made. -/
theorem spans_mergeSkipped {a : Nat} {top token : Subtree} {run : Option (Nat × ChildSummary)}
    {k : Nat} (htop : Spans X a top) (htoken : Spans X (a + top.totalBytes) token)
    (hrun : ∀ runId summary, run = some (runId, summary) → top.id = runId → top.children ≠ [] →
      summary.total = totalOf top.children) :
    SpansList X a (mergeSkipped (some top) run token k).1 ∧
      (mergeSkipped (some top) run token k).2.total =
        totalOf (mergeSkipped (some top) run token k).1 ∧
      totalOf (mergeSkipped (some top) run token k).1 = top.totalSize.add token.totalSize := by
  have hone : SpansList X (a + top.totalBytes) [token] := .cons htoken (.nil (by
    have := htoken.le
    omega))
  dsimp only [mergeSkipped]
  split
  · -- a leaf on top goes before the token
    refine ⟨.cons (htop.withExtra false k) (by rw [withExtra_totalBytes]; exact hone),
      ChildSummary.ofChildren_total _ _, ?_⟩
    rw [totalOf_cons, totalOf_cons, totalOf_nil, Length.add_zero, withExtra_totalSize]
  · -- a node on top gives its children, which span what it spans
    rename_i hne
    have hcs : top.children ≠ [] := fun h => hne (by simp [h])
    obtain ⟨hkids, htotal⟩ := htop.children hcs
    have hlist : SpansList X a (top.children ++ [token]) :=
      hkids.append (by rw [htotal, totalSize_bytes]; exact hone)
    have hsum : totalOf (top.children ++ [token]) = top.totalSize.add token.totalSize := by
      rw [totalOf_append, htotal, totalOf_cons, totalOf_nil, Length.add_zero]
    rcases run with _ | ⟨runId, summary⟩
    · exact ⟨hlist, ChildSummary.ofChildren_total _ _, hsum⟩
    · dsimp only
      split
      · rename_i hid
        refine ⟨hlist, ?_, hsum⟩
        rw [totalOf_append, ← hrun runId summary rfl (beq_iff_eq.1 hid).symm hcs, totalOf_cons,
          totalOf_nil, Length.add_zero]
        rfl
      · exact ⟨hlist, ChildSummary.ofChildren_total _ _, hsum⟩

/-! ### The invariant -/

/-- What a subtree on the stack of a fresh parse keeps, `next` being the next identity and
    `run` the error run: it is settled, a node has an identity already given, and the node
    the error run made has the children its summary adds up. -/
structure Subtree.Kept (tokenCount next : Nat) (run : Option (Nat × ChildSummary))
    (x : Subtree) : Prop where
  settled : x.Settled tokenCount
  id_lt : x.children ≠ [] → x.id < next
  run : ∀ runId summary, run = some (runId, summary) → x.id = runId → x.children ≠ [] →
    summary.total = totalOf x.children

namespace Subtree.Kept

variable {tc next : Nat} {run : Option (Nat × ChildSummary)} {x : Subtree}

theorem leaf (h : x.Settled tc) (hx : x.children = []) : x.Kept tc next run :=
  ⟨h, fun hne => absurd hx hne, fun _ _ _ _ hne => absurd hx hne⟩

theorem mono (h : x.Kept tc next run) {next' : Nat} (hle : next ≤ next') : x.Kept tc next' run :=
  { h with id_lt := fun hcs => Nat.lt_of_lt_of_le (h.id_lt hcs) hle }

/-- A new error run under the next identity, which no node kept has. -/
theorem newRun (h : x.Kept tc next run) (summary : ChildSummary) :
    x.Kept tc next (some (next, summary)) := by
  refine { h with run := fun runId summary' hr hid hcs => ?_ }
  simp only [Option.some.injEq, Prod.mk.injEq] at hr
  have := h.id_lt hcs
  omega

end Subtree.Kept

/-- An error node that starts an error run is kept when its summary adds up its children. -/
theorem kept_errorNodeWith {tc next : Nat} (table : ParseTable) {id : Nat} {cs : List Subtree}
    {summary : ChildSummary} (extra : Bool) (parseState : Nat) (hcs : ∀ c ∈ cs, c.MissingEmpty)
    (htotal : summary.total = totalOf cs) (hid : id < next) :
    (errorNodeWith table id cs summary extra parseState).Kept tc next (some (id, summary)) := by
  refine ⟨settled_errorNodeWith table id summary extra parseState hcs, fun _ => by simpa using hid,
    fun runId summary' hr _ _ => ?_⟩
  simp only [Option.some.injEq, Prod.mk.injEq] at hr
  obtain ⟨-, rfl⟩ := hr
  simpa using htotal

/-- What the entries of a fresh parse's stack keep: they tile the text, keep extras in
    their states and hold kept subtrees. -/
structure StackInv (ctx : ParseContext) (next : Nat) (run : Option (Nat × ChildSummary))
    (es : List StackEntry) : Prop where
  tiled : Tiled ctx.input.toList es
  keep : ExtrasKeepState es
  kept : EntriesHold (Subtree.Kept ctx.table.tokenCount next run) es

/-- What the state of a fresh parse keeps: its stack, an error run made under an identity
    already given, and no old tree to reuse. -/
structure TileInv (ctx : ParseContext) (s : RunState) : Prop where
  stack : StackInv ctx s.nextId s.errorRun s.stack.entries
  runId : ∀ runId summary, s.errorRun = some (runId, summary) → runId < s.nextId
  reuse : s.reuse = ReuseCursor.empty

namespace StackInv

variable {ctx : ParseContext} {next : Nat} {run : Option (Nat × ChildSummary)}

theorem mono {es : List StackEntry} (h : StackInv ctx next run es) {next' : Nat}
    (hle : next ≤ next') : StackInv ctx next' run es :=
  { h with kept := h.kept.mono fun _ hx => hx.mono hle }

theorem newRun {es : List StackEntry} (h : StackInv ctx next run es) (summary : ChildSummary) :
    StackInv ctx next (some (next, summary)) es :=
  { h with kept := h.kept.mono fun _ hx => hx.newRun summary }

/-- Entries below others keep the invariant. -/
theorem of_append {pre es : List StackEntry} (h : StackInv ctx next run (pre ++ es))
    (hes : es ≠ []) : StackInv ctx next run es :=
  ⟨(h.tiled.split hes).1, h.keep.of_append hes, h.kept.of_append⟩

theorem of_cons {e : StackEntry} {es : List StackEntry} (h : StackInv ctx next run (e :: es))
    (hes : es ≠ []) : StackInv ctx next run es :=
  have h' : StackInv ctx next run ([e] ++ es) := h
  h'.of_append hes

variable {st : Stack}

/-- Pushing a kept subtree that spans the text from where the stack stands keeps the
    invariant, when an extra goes into the top state. -/
theorem pushed (h : StackInv ctx next run st.entries) (state : Nat) {t : Subtree}
    (hspans : Spans ctx.input.toList st.position.bytes t)
    (hstate : t.isExtra = true → state = st.state) (ht : t.Kept ctx.table.tokenCount next run) :
    StackInv ctx next run (st.pushed state t).entries :=
  ⟨h.tiled.pushed state hspans,
    h.keep.cons rfl fun hx => (hstate hx).trans (Stack.state_eq_topState st),
    h.kept.pushed state ht⟩

/-- Pushing kept extras that span the text from where the stack stands into its top state
    keeps the invariant, and the stack then stands where they end. -/
theorem pushAll (h : StackInv ctx next run st.entries) {l : List Subtree}
    (hl : SpansList ctx.input.toList st.position.bytes l) (hextra : ∀ x ∈ l, x.isExtra = true)
    (hkept : ∀ x ∈ l, x.Kept ctx.table.tokenCount next run) :
    StackInv ctx next run (st.pushAll st.state l).entries ∧
      (st.pushAll st.state l).position = st.position.add (totalOf l) := by
  induction l generalizing st with
  | nil => exact ⟨h, by simp⟩
  | cons x l ih =>
    cases hl with
    | cons hx hrest =>
      have hnext : SpansList ctx.input.toList (st.pushed st.state x).position.bytes l := by
        rw [Stack.pushed_position, Length.bytes_add, totalSize_bytes]
        exact hrest
      obtain ⟨hinv, hpos⟩ := ih (h.pushed st.state hx (fun _ => rfl) (hkept x List.mem_cons_self))
        hnext (fun y hy => hextra y (List.mem_cons_of_mem x hy))
        (fun y hy => hkept y (List.mem_cons_of_mem x hy))
      rw [Stack.pushAll_cons, totalOf_cons, ← Length.add_assoc]
      exact ⟨hinv, hpos⟩

/-- Popping subtrees leaves a stack that keeps the invariant below them; they are kept,
    and span the text from where it stands up to where the whole stood. -/
theorem popCount (h : StackInv ctx next run st.entries) (count : Nat) :
    StackInv ctx next run (st.popCount count).2.entries ∧
      SpansList ctx.input.toList (st.popCount count).2.position.bytes (st.popCount count).1 ∧
      st.position = (st.popCount count).2.position.add (totalOf (st.popCount count).1) ∧
      ∀ x ∈ (st.popCount count).1, x.Kept ctx.table.tokenCount next run := by
  obtain ⟨pre, hpre, -⟩ := Stack.popFrom_split count [] st.entries
  obtain ⟨-, hspans, htop⟩ := h.tiled.popFrom count
  have hsplit := h
  rw [hpre] at hsplit
  exact ⟨hsplit.of_append (Stack.popFrom_ne_nil _ _ _ h.tiled.ne_nil), hspans, htop,
    h.kept.popFrom count⟩

end StackInv

/-- An entry holding an extra has the state of the entries below. -/
theorem ExtrasKeepState.state_of_extra {e : StackEntry} {es : List StackEntry} {x : Subtree}
    (h : ExtrasKeepState (e :: es)) (hx : e.subtree = some x) (hextra : x.isExtra = true) :
    e.state = topState es := by
  cases h with
  | bottom hnone => rw [hnone] at hx; cases hx
  | extra _ _ _ hstate => exact hstate
  | step _ hx' hextra' =>
    rw [hx] at hx'
    cases hx'
    rw [hextra] at hextra'
    cases hextra'

/-- Feeding a lookahead again as a fresh one. -/
theorem FreshAt.refresh {ctx : ParseContext} {P : Length} {la : Lookahead} (h : FreshAt ctx P la) :
    FreshAt ctx P ⟨la.tree, false⟩ := by
  rw [h.unreused]
  exact h

/-- The lookahead of a fresh parse is a leaf whose assumed tokens are empty. -/
theorem FreshAt.missingEmpty {ctx : ParseContext} {P : Length} {la : Lookahead}
    (h : FreshAt ctx P la) : la.tree.MissingEmpty :=
  .leaf h.children h.empty_of_missing

/-! ### One step -/

namespace TileInv

open ParseM

variable {ctx : ParseContext} {s s' : RunState}

/-- A step that keeps the stack and the error run, and gives identities away, keeps the
    invariant. -/
theorem of_eq (h : TileInv ctx s) (hstack : s'.stack = s.stack) (hreuse : s'.reuse = s.reuse)
    (hnext : s.nextId ≤ s'.nextId) (hrun : s'.errorRun = s.errorRun) : TileInv ctx s' := by
  refine ⟨?_, fun runId summary hr => ?_, hreuse.trans h.reuse⟩
  · rw [hstack, hrun]
    exact h.stack.mono hnext
  · exact Nat.lt_of_lt_of_le (h.runId runId summary (hrun ▸ hr)) hnext

theorem withLog (h : TileInv ctx s) {l : Array LogLine} : TileInv ctx { s with log := l } :=
  h.of_eq rfl rfl (Nat.le_refl _) rfl

/-- A fresh parse stands at a position of its text. -/
theorem at_position (h : TileInv ctx s) : Length.At ctx.input.toList s.stack.position :=
  h.stack.tiled.at_top

/-- With nothing to reuse, the next lookahead is a token lexed where the stack stands. -/
theorem nextLookahead (h : TileInv ctx s) {la : Lookahead}
    (hla : nextLookahead.exec ctx s = some (.ok (la, s'))) :
    TileInv ctx s' ∧ FreshAt ctx s'.stack.position la := by
  obtain ⟨hstack, hcases⟩ := exec_nextLookahead hla
  have hwalk : reuseWalk ctx s.stack.state s.stack.position s.scannerState s.reuse =
      (none, ReuseCursor.empty, []) := by
    rw [h.reuse, reuseWalk]
    rfl
  rw [hwalk] at hcases
  rcases hcases with ⟨-, hfound, -⟩ | ⟨hfresh, hreuse, hnext, hrun, htree⟩
  · cases hfound
  · refine ⟨h.of_eq hstack (hreuse.trans h.reuse.symm) (by omega) hrun, ?_⟩
    obtain ⟨tree, reused⟩ := la
    dsimp only at hfresh htree
    subst hfresh htree
    rw [hstack]
    exact .lexed

/-- Shifting a fresh leaf pushes it where the stack stands. -/
theorem shiftLeaf (h : TileInv ctx s) {la : Lookahead} (hla : FreshAt ctx s.stack.position la)
    {next : Nat} {extra : Bool}
    (hact : ctx.table.action? s.stack.state la.tree.leafSymbol = some (.shift next extra))
    (hshift : (shift (if extra then s.stack.state else next) la extra).exec ctx s =
      some (.ok ((), s'))) :
    TileInv ctx s' ∧ s'.stack.position = s.stack.position.add la.tree.totalSize := by
  obtain ⟨hstack, hreuse, hnext, hrun⟩ := exec_shift hshift
  rw [if_pos hla.childCount] at hstack
  rw [hla.reused, if_neg Bool.false_ne_true] at hreuse
  -- the leaf is settled: an assumed token is empty, and a token has a terminal symbol
  have hsettled : (la.tree.withExtra extra s.nextId).Settled ctx.table.tokenCount := by
    refine .leaf (by simp [hla.children]) (fun hm => ?_) fun _ _ hsym => ?_
    · rw [withExtra_totalBytes]
      exact hla.empty_of_missing (by simpa using hm)
    · have hlt := ParseTable.lt_tokenCount_of_action hact
      rw [hla.leafSymbol] at hlt
      rw [withExtra_symbol] at hsym
      omega
  refine ⟨⟨?_, fun runId summary hr => ?_, hreuse.trans h.reuse⟩, ?_⟩
  · rw [hstack, hnext, hrun]
    refine (h.stack.mono (Nat.le_succ _)).pushed _
      ((hla.spans h.at_position).withExtra extra s.nextId) (fun hx => ?_)
      (.leaf hsettled (by simp [hla.children]))
    rw [withExtra_isExtra] at hx
    rw [if_pos hx]
  · rw [hrun] at hr
    rw [hnext]
    exact Nat.lt_succ_of_lt (h.runId runId summary hr)
  · rw [hstack, Stack.pushed_position, withExtra_totalSize]

/-- A reduction puts a node over the subtrees it pops, spanning what they spanned, with
    the trailing extras after it. -/
theorem reduce (h : TileInv ctx s) {symbol count production : Nat} {la : Subtree} {u : Unit}
    (hred : (ParseM.reduce symbol count production la).exec ctx s = some (.ok (u, s'))) :
    TileInv ctx s' ∧ s'.stack.position = s.stack.position := by
  obtain ⟨hreuse, hnext, hrun, k, hstack⟩ := exec_reduce hred
  obtain ⟨hbelow, hspans, hpos, hkept⟩ := h.stack.popCount count
  have hextra := splitTrailingExtras_snd_extra (s.stack.popCount count).1
  have hsplit := splitTrailingExtras_append (s.stack.popCount count).1
  generalize s.stack.popCount count = p at hbelow hspans hpos hkept hstack hextra hsplit
  generalize splitTrailingExtras p.1 = parts at hstack hextra hsplit
  obtain ⟨kids, trailing⟩ := parts
  dsimp only at hstack hextra hsplit
  rw [← hsplit] at hspans hpos hkept
  obtain ⟨hkids, htrailing⟩ := hspans.of_append
  -- the node over the popped subtrees before the trailing extras
  have hnode := (spans_node ctx.table s.nextId symbol production p.2.state hkids).extendLookahead k
  have htotal : ((node ctx.table s.nextId symbol kids production p.2.state).extendLookahead k).totalSize =
      totalOf kids := by
    rw [extendLookahead_totalSize, node_totalSize]
  have hnodeKept : ((node ctx.table s.nextId symbol kids production p.2.state).extendLookahead k).Kept
      ctx.table.tokenCount (s.nextId + 1) s.errorRun := by
    refine ⟨(settled_node ctx.table s.nextId symbol production p.2.state fun c hc =>
        (hkept c (List.mem_append_left _ hc)).settled.missing).extendLookahead k,
      fun _ => by simp, fun runId summary hr hid _ => ?_⟩
    have := h.runId runId summary hr
    simp only [extendLookahead_id, node_id] at hid
    omega
  have hpushed := (hbelow.mono (Nat.le_succ _)).pushed (ctx.table.goto p.2.state symbol) hnode
    (fun hx => by simp at hx) hnodeKept
  obtain ⟨hinv, hpos'⟩ := hpushed.pushAll (l := trailing)
    (by rw [Stack.pushed_position, htotal, Length.bytes_add]; exact htrailing) hextra
    fun x hx => (hkept x (List.mem_append_right _ hx)).mono (Nat.le_succ _)
  rw [Stack.pushed_state] at hinv hpos'
  refine ⟨⟨by rw [hstack, hnext, hrun]; exact hinv, fun runId summary hr => ?_,
    hreuse.trans h.reuse⟩, ?_⟩
  · rw [hrun] at hr
    rw [hnext]
    exact Nat.lt_succ_of_lt (h.runId runId summary hr)
  · rw [hstack, hpos', Stack.pushed_position, htotal, hpos, totalOf_append, Length.add_assoc]

/-- Skipping a fresh token puts an extra error node over it, or over it and the error
    node on top, which it replaces. -/
theorem skipToken (h : TileInv ctx s) {la : Lookahead} {u : Unit}
    (hskip : (skipToken la.tree).exec ctx s = some (.ok (u, s'))) (hla : FreshAt ctx s.stack.position la) :
    TileInv ctx s' ∧ s'.stack.position = s.stack.position.add la.tree.totalSize := by
  obtain ⟨hreuse, hcases⟩ := exec_skipToken_eq hskip
  have htoken := hla.spans h.at_position
  rcases hcases with ⟨top, htop, -, hextra, hnext, hstack, hrun⟩ |
    ⟨-, hnext, ⟨-, hstack, hrun⟩ | ⟨-, hstack, hrun⟩⟩
  · -- the error node on top is popped, and a new one holds its children and the token
    obtain ⟨hpop, htiled, hspansTop, hposTop, e, hes, he⟩ := h.stack.tiled.pop htop
    rw [hpop] at hstack hrun
    have hentries : StackInv ctx s.nextId s.errorRun (e :: s.stack.pop.2.entries) :=
      hes ▸ h.stack
    have hkeep := hentries.keep
    have hbelow := hentries.of_cons htiled.ne_nil
    have hkeptTop : top.Kept ctx.table.tokenCount s.nextId s.errorRun :=
      h.stack.kept e (by rw [hes]; exact List.mem_cons_self) top he
    -- the popped node is an extra, so the state on top is the one below it
    have hstate : s.stack.state = s.stack.pop.2.state := by
      rw [Stack.state_eq_topState, hes, topState_cons, hkeep.state_of_extra he hextra,
        ← Stack.state_eq_topState]
    have htoken' : Spans ctx.input.toList (s.stack.pop.2.position.bytes + top.totalBytes) la.tree := by
      rw [← totalSize_bytes, ← Length.bytes_add, ← hposTop]
      exact htoken
    obtain ⟨hlist, hsum, htotal⟩ := spans_mergeSkipped (k := s.nextId + 1) hspansTop htoken'
      hkeptTop.run
    have hmissing : ∀ c ∈ (mergeSkipped (some top) s.errorRun la.tree (s.nextId + 1)).1,
        c.MissingEmpty := by
      intro c hc
      rcases (mem_mergeSkipped (fun x hx => (Option.some.inj hx).symm) _ _ _).2 c hc with
        rfl | hc | ⟨-, cid, rfl⟩
      · exact hla.missingEmpty
      · exact hkeptTop.settled.missing.child hc
      · exact hkeptTop.settled.missing.withExtra false cid
    refine ⟨⟨?_, fun runId summary hr => ?_, hreuse.trans h.reuse⟩, ?_⟩
    · rw [hstack, hnext, hrun]
      exact ((hbelow.newRun _).mono (by omega)).pushed _
        (spans_errorNodeWith ctx.table s.nextId true _ hlist hsum) (fun _ => hstate)
        (kept_errorNodeWith ctx.table true _ hmissing hsum (by omega))
    · rw [hrun] at hr
      simp only [Option.some.injEq, Prod.mk.injEq] at hr
      omega
    · rw [hstack, Stack.pushed_position, errorNodeWith_totalSize ctx.table s.nextId true _ hsum,
        htotal, ← Length.add_assoc, ← hposTop]
  · -- an error token is pushed as an extra
    have hsettled : (la.tree.withExtra true s.nextId).Settled ctx.table.tokenCount :=
      .leaf (by simp [hla.children])
        (fun hm => by rw [withExtra_totalBytes]; exact hla.empty_of_missing (by simpa using hm))
        (fun hx => by simp at hx)
    refine ⟨⟨?_, fun runId summary hr => ?_, hreuse.trans h.reuse⟩, ?_⟩
    · rw [hstack, hnext, hrun]
      exact (h.stack.mono (Nat.le_succ _)).pushed _ (htoken.withExtra true s.nextId)
        (fun _ => rfl) (.leaf hsettled (by simp [hla.children]))
    · rw [hrun] at hr
      rw [hnext]
      exact Nat.lt_succ_of_lt (h.runId runId summary hr)
    · rw [hstack, Stack.pushed_position, withExtra_totalSize]
  · -- any other token is wrapped in an error node of its own
    have hone : SpansList ctx.input.toList s.stack.position.bytes [la.tree] :=
      .cons htoken (.nil htoken.le)
    have htotal := ChildSummary.ofChildren_total true [la.tree]
    refine ⟨⟨?_, fun runId summary hr => ?_, hreuse.trans h.reuse⟩, ?_⟩
    · rw [hstack, hnext, hrun]
      exact ((h.stack.newRun _).mono (Nat.le_succ _)).pushed _
        (spans_errorNodeWith ctx.table s.nextId true _ hone htotal) (fun _ => rfl)
        (kept_errorNodeWith ctx.table true _ (by simpa using hla.missingEmpty) htotal
          (Nat.lt_succ_self _))
    · rw [hrun] at hr
      simp only [Option.some.injEq, Prod.mk.injEq] at hr
      omega
    · rw [hstack, Stack.pushed_position, errorNodeWith_totalSize ctx.table s.nextId true _ htotal,
        totalOf_cons, totalOf_nil, Length.add_zero]

/-- An assumed token is an empty lookahead where the stack stands. -/
theorem missing (h : TileInv ctx s) {symbol examinedEnd : Nat} {m : Lookahead} (hsym : 1 ≤ symbol)
    (hm : (missing symbol examinedEnd).exec ctx s = some (.ok (m, s'))) :
    TileInv ctx s' ∧ s'.stack = s.stack ∧ FreshAt ctx s'.stack.position m ∧
      m.tree.leafSymbol = symbol ∧ m.tree.totalSize = Length.zero := by
  obtain ⟨hstack, hreuse, hfresh, hnext, hrun, htree⟩ := exec_missing hm
  refine ⟨h.of_eq hstack hreuse (by omega) hrun, hstack, ?_, by simp [htree], by simp [htree]⟩
  obtain ⟨tree, reused⟩ := m
  dsimp only at hfresh htree
  subst hfresh htree
  exact .assumed hsym

/-- Emptying the stack gives kept subtrees that span the text from its start up to where
    the stack stood. -/
theorem popAll (h : TileInv ctx s) :
    SpansList ctx.input.toList 0 s.stack.popAll.1 ∧ totalOf s.stack.popAll.1 = s.stack.position ∧
      ∀ x ∈ s.stack.popAll.1, x.Kept ctx.table.tokenCount s.nextId s.errorRun := by
  obtain ⟨hspans, htotal, -⟩ := h.stack.tiled.popAll
  exact ⟨hspans, htotal, h.stack.kept.popAll⟩

end TileInv

/-! ### Roots -/

/-- A root a fresh parse makes: it has no padding and the size of the whole text, its
    children span the text from its start, the assumed tokens below it are empty, and
    the last lookahead, lexed or assumed where the children end, is the end of the input
    or one the table accepts. -/
structure RootTiles (ctx : ParseContext) (root : Subtree) : Prop where
  padding : root.padding = Length.zero
  size : root.size = ctx.total
  children : SpansList ctx.input.toList 0 root.children
  missing : ∀ u ∈ subtreesOf root.children, u.isMissing = true → u.totalBytes = 0
  last : ∃ la, FreshAt ctx (totalOf root.children) la ∧
    (la.tree.isEnd = true ∨ ∃ state, ctx.table.action? state la.tree.leafSymbol = some .accept)

/-- Subtrees whose assumed tokens are empty have empty assumed tokens below them. -/
theorem missing_of_subtreesOf {cs : List Subtree} (hcs : ∀ c ∈ cs, c.MissingEmpty) :
    ∀ u ∈ subtreesOf cs, u.isMissing = true → u.totalBytes = 0 := by
  intro u hu
  obtain ⟨c, hc, hcu⟩ := mem_subtreesOf.1 hu
  exact hcs c hc u hcu

/-- A root over spanning children after the last lookahead is a root of a fresh parse. -/
theorem rootTiles_root {ctx : ParseContext} (id symbol production : Nat) {cs : List Subtree}
    {la : Lookahead} (hcs : SpansList ctx.input.toList 0 cs) (hmissing : ∀ c ∈ cs, c.MissingEmpty)
    (hla : FreshAt ctx (totalOf cs) la)
    (hlast : la.tree.isEnd = true ∨ ∃ state, ctx.table.action? state la.tree.leafSymbol = some .accept) :
    RootTiles ctx (Subtree.root ctx.table id symbol production cs ctx.total) := by
  refine ⟨root_padding .., root_size .., by simpa using hcs, ?_, ⟨la, by simpa using hla, hlast⟩⟩
  rw [root_children]
  exact missing_of_subtreesOf hmissing

namespace TileInv

open ParseM

variable {ctx : ParseContext} {s s' : RunState}

/-- Accepting makes a root over the whole stack, in which the children of the subtree it
    takes the place of span what that subtree spanned. -/
theorem accept (h : TileInv ctx s) {la : Lookahead} (hla : FreshAt ctx s.stack.position la)
    (hact : ctx.table.action? s.stack.state la.tree.leafSymbol = some .accept) {root : Subtree}
    (hacc : ParseM.accept.exec ctx s = some (.ok (root, s'))) : RootTiles ctx root := by
  obtain ⟨-, -, id, hroot⟩ := exec_accept hacc
  obtain ⟨hspans, htotal, hkept⟩ := h.popAll
  have hmissing : ∀ x ∈ s.stack.popAll.1, x.MissingEmpty := fun x hx => (hkept x hx).settled.missing
  rcases hroot with rfl | ⟨i, t, hi, hextra, -, hsym, herr, rfl⟩
  · exact rootTiles_root _ _ _ hspans hmissing (htotal ▸ hla) (.inr ⟨_, hact⟩)
  -- the subtree put in place of its children is a node, or an empty reduction
  · have hsplit : s.stack.popAll.1 = s.stack.popAll.1.take i ++ t :: s.stack.popAll.1.drop (i + 1) := by
      obtain ⟨hlt, rfl⟩ := List.getElem?_eq_some_iff.1 hi
      rw [← List.drop_eq_getElem_cons hlt, List.take_append_drop]
    have ht : t.Kept ctx.table.tokenCount s.nextId s.errorRun :=
      hkept t (List.mem_of_getElem? hi)
    rw [hsplit] at hspans htotal hmissing
    obtain ⟨hspans', htotal'⟩ := hspans.splice fun hnil =>
      ht.settled.childless hnil hextra (by simpa [isError] using herr) hsym
    refine rootTiles_root _ _ _ hspans' (fun c hc => ?_) (by rw [htotal', htotal]; exact hla)
      (.inr ⟨_, hact⟩)
    rcases List.mem_append.1 hc with hc | hc
    · rcases List.mem_append.1 hc with hc | hc
      · exact hmissing c (List.mem_append_left _ hc)
      · exact (hmissing t (by simp)).child hc
    · exact hmissing c (List.mem_append_right _ (List.mem_cons_of_mem _ hc))

end TileInv

/-! ### Runs -/

section Runs

open ParseM

variable {ctx : ParseContext}

mutual

/-- Feeding a lookahead of a fresh parse moves the stack over the lookahead's text when it
    makes no root, and a root it makes is one of a fresh parse. The induction follows the
    run; the assumed tokens recovery feeds are shifted, as their simulation says, so they
    make no root of their own. -/
theorem AdvanceRun.tileInv :
    ∀ {la : Lookahead} {s s' : RunState} {r : Option Subtree}, AdvanceRun ctx la s r s' →
      TileInv ctx s → FreshAt ctx s.stack.position la →
      (r = none → TileInv ctx s' ∧ s'.stack.position = s.stack.position.add la.tree.totalSize) ∧
        ∀ root, r = some root → RootTiles ctx root
  | _, _, _, _, .shiftNode _ hcount .., _, hla => absurd hcount (by rw [hla.childCount]; omega)
  | _, _, _, _, .breakdownTree _ hcount .., _, hla => absurd hcount (by rw [hla.childCount]; omega)
  | _, _, _, _, .breakdownRelex _ hcount .., _, hla => absurd hcount (by rw [hla.childCount]; omega)
  | _, _, _, _, .shiftLeaf hact _ hshift, hinv, hla =>
    ⟨fun _ => hinv.shiftLeaf hla hact hshift, fun _ h => nomatch h⟩
  | _, _, _, _, .reduce _ hred hrun, hinv, hla => by
    obtain ⟨hinv₁, hpos₁⟩ := hinv.reduce hred
    obtain ⟨hnone, hroot⟩ := AdvanceRun.tileInv hrun hinv₁ (hpos₁ ▸ hla)
    exact ⟨fun hr => hpos₁ ▸ hnone hr, hroot⟩
  | _, _, _, _, .accept hact hacc, hinv, hla =>
    ⟨(fun h => nomatch h), fun _ h => Option.some.inj h ▸ hinv.accept hla hact hacc⟩
  | _, _, _, _, .relexReused _ hreused .., _, hla => absurd hreused (by rw [hla.reused]; simp)
  | _, _, _, _, .skipError _ _ _ hskip, hinv, hla => by
    have hskipped := TileInv.skipToken hinv.withLog hskip hla
    exact ⟨fun _ => hskipped, fun _ h => nomatch h⟩
  | _, _, _, _, .insert _ _ _ hchoose hmissing hrun₁ hrun₂, hinv, hla => by
    obtain ⟨hs₂, hcand, σ, hfeed⟩ := chooseFor_insert (Nat.lt_of_lt_of_le Nat.one_pos (Nat.le_max_right _ _))
      hchoose
    have hinv₂ : TileInv ctx _ := hs₂.symm ▸ hinv.withLog
    obtain ⟨hinv₃, hstack₃, hm, hsym, hsize⟩ := hinv₂.missing (ctx.pos_of_mem_candidates hcand) hmissing
    -- the assumed token is shifted, as the simulation that chose it says
    have hfirst := AdvanceRun.tileInv hrun₁ hinv₃ hm
    obtain ⟨hnone, -, -⟩ := AdvanceRun.of_shifted _ hrun₁ hm.childCount hm.reused hinv₃.stack.keep
      (by rw [hsym, hstack₃, hs₂]; exact hfeed)
    obtain ⟨hinv₄, hpos₄⟩ := hfirst.1 hnone
    rw [hsize, Length.add_zero, hstack₃, hs₂] at hpos₄
    have hrest := AdvanceRun.tileInv hrun₂ (hinv₄.of_eq rfl rfl (Nat.le_refl _) rfl)
      (by rw [hpos₄]; exact hla.refresh)
    refine ⟨fun hr => ?_, hrest.2⟩
    obtain ⟨hinv', hpos'⟩ := hrest.1 hr
    exact ⟨hinv', hpos'.trans (by rw [hpos₄])⟩
  | _, _, _, _, .delete _ _ _ hchoose hskip, hinv, hla => by
    have hs₂ := exec_chooseFor hchoose
    have hinv₂ : TileInv ctx _ := hs₂.symm ▸ hinv.withLog
    have hskipped := hinv₂.skipToken hskip (by rw [hs₂]; exact hla)
    exact ⟨fun _ => ⟨hskipped.1, hskipped.2.trans (by rw [hs₂])⟩, fun _ h => nomatch h⟩
  | _, _, _, _, .complete _ _ _ hchoose hpath hinserts hrun, hinv, hla => by
    have hs₂ := exec_chooseFor hchoose
    have hinv₂ : TileInv ctx _ := hs₂.symm ▸ hinv.withLog
    obtain ⟨hinv₃, hpos₃⟩ := InsertsRun.tileInv hinserts hinv₂
      (hs₂ ▸ ParseContext.shortestCompletion_assumable hpath)
    have hrest := AdvanceRun.tileInv hrun hinv₃ (by rw [hpos₃, hs₂]; exact hla.refresh)
    refine ⟨fun hr => ?_, hrest.2⟩
    obtain ⟨hinv', hpos'⟩ := hrest.1 hr
    exact ⟨hinv', hpos'.trans (by rw [hpos₃, hs₂])⟩
  | _, _, _, _, .recoverEof _ _ _ hchoose _, hinv, hla => by
    have hend := chooseFor_none hchoose
    have hs₂ := exec_chooseFor hchoose
    have hinv₂ : TileInv ctx _ := hs₂.symm ▸ hinv.withLog
    obtain ⟨hspans, htotal, hkept⟩ := hinv₂.popAll
    refine ⟨(fun h => nomatch h), fun _ h => ?_⟩
    cases h
    exact rootTiles_root _ _ _ hspans (fun x hx => (hkept x hx).settled.missing)
      (by rw [htotal, hs₂]; exact hla) (.inl hend)

/-- Feeding assumed tokens that the simulation shifts one after another keeps the
    invariant, and the stack where it stands. -/
theorem InsertsRun.tileInv :
    ∀ {examinedEnd : Nat} {path : List Nat} {s s' : RunState},
      InsertsRun ctx examinedEnd path s s' → TileInv ctx s → Assumable ctx s.stack.states path →
      TileInv ctx s' ∧ s'.stack.position = s.stack.position
  | _, _, _, _, .nil, hinv, _ => ⟨hinv, rfl⟩
  | _, _, _, _, .cons hmissing hrun hrest, hinv, .cons hpos hfeed hnext => by
    obtain ⟨hinv₁, hstack₁, hm, hsym, hsize⟩ := hinv.missing hpos hmissing
    have hfirst := AdvanceRun.tileInv hrun hinv₁ hm
    obtain ⟨hnone, -, hstates⟩ := AdvanceRun.of_shifted _ hrun hm.childCount hm.reused
      hinv₁.stack.keep (by rw [hsym, hstack₁]; exact hfeed)
    obtain ⟨hinv₂, hpos₂⟩ := hfirst.1 hnone
    rw [hsize, Length.add_zero, hstack₁] at hpos₂
    obtain ⟨hinv', hpos'⟩ := InsertsRun.tileInv hrest (hinv₂.of_eq rfl rfl (Nat.le_refl _) rfl)
      (by rw [hstates]; exact hnext)
    exact ⟨hinv', hpos'.trans hpos₂⟩

end

/-- Every finished parse loop from a state in the invariant returns a root of a fresh
    parse. -/
theorem LoopRun.rootTiles {s s' : RunState} {root : Subtree} (h : LoopRun ctx s root s')
    (hinv : TileInv ctx s) : RootTiles ctx root := by
  induction h with
  | last hround =>
    obtain ⟨la, s₁, hla, hrun⟩ := round_run hround
    obtain ⟨hinv₁, hfresh⟩ := hinv.nextLookahead hla
    exact (hrun.tileInv hinv₁ hfresh).2 _ rfl
  | next hround _ ih =>
    obtain ⟨la, s₁, hla, hrun⟩ := round_run hround
    obtain ⟨hinv₁, hfresh⟩ := hinv.nextLookahead hla
    exact ih ((hrun.tileInv hinv₁ hfresh).1 rfl).1

end Runs

/-- A fresh parse starts with the bottom entry alone at the start of the text. -/
theorem TileInv.initial (ctx : ParseContext) (options : ParseOptions) (logging : Bool) (next : Nat) :
    TileInv ctx (RunState.initial options logging none next) := by
  refine ⟨⟨.bottom rfl rfl, .bottom rfl, ?_⟩, (fun _ _ h => nomatch h), rfl⟩
  intro e he x hx
  simp only [RunState.initial, Stack.new, List.mem_singleton] at he
  rw [he] at hx
  cases hx

/-- The root of every fresh parse tiles its text: it has no padding and the size of the
    whole text, its children span the text from its start, the assumed tokens below it are
    empty, and the last lookahead was lexed or assumed where the children end. -/
theorem parseText_rootTiles {t : ParseTable} {options : ParseOptions} {logging : Bool}
    {input : ByteArray} {next next' : Nat} {root : Subtree} {log : Array LogLine}
    (h : parseText t options logging input none next = some (.ok (root, log, next'))) :
    RootTiles ⟨t, options, input, Length.of input.toList, logging, false⟩ root := by
  obtain ⟨s', hrun⟩ := LoopRun.of_parseText h
  exact hrun.rootTiles (TileInv.initial _ options logging next)

end IncrementalLR
