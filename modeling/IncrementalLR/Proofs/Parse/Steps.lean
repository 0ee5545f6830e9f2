import Mathlib.Data.List.Induction
import IncrementalLR.Proofs.Parse.Runs
import IncrementalLR.Proofs.Tree.Shape

/-!
# What each parsing step does to the stack

One lemma for each step of `ParseM` says what a finished run of it does to the stack, the
reuse cursor, the identity counter and the error run, and what it returns.
-/

namespace IncrementalLR

/-- The last subtree that is not an extra, found by its index in the list. -/
theorem lastNonExtra_spec {l : List Subtree} {i : Nat}
    (h : ((l.zipIdx.filter fun x => !x.1.isExtra).getLast?.map (·.2)) = some i) :
    (∃ t, l[i]? = some t ∧ t.isExtra = false) ∧
      ∀ j x, i < j → l[j]? = some x → x.isExtra = true := by
  induction l using List.reverseRecOn generalizing i with
  | nil => simp at h
  | append_singleton l a ih =>
    rw [List.zipIdx_append, List.filter_append] at h
    cases ha : a.isExtra with
    | true =>
      simp only [List.zipIdx_cons, List.zipIdx_nil, Nat.zero_add, List.filter_cons, ha,
        Bool.not_true, Bool.false_eq_true, ↓reduceIte, List.filter_nil, List.append_nil] at h
      obtain ⟨⟨t, ht, hte⟩, hlater⟩ := ih h
      have hi : i < l.length := (List.getElem?_eq_some_iff.1 ht).1
      refine ⟨⟨t, by rw [List.getElem?_append_left hi]; exact ht, hte⟩, fun j x hij hx => ?_⟩
      rcases Nat.lt_or_ge j l.length with hj | hj
      · rw [List.getElem?_append_left hj] at hx
        exact hlater j x hij hx
      · rw [List.getElem?_append_right hj] at hx
        obtain ⟨-, rfl⟩ := List.getElem?_eq_some_iff.1 hx
        simpa using ha
    | false =>
      simp only [List.zipIdx_cons, List.zipIdx_nil, Nat.zero_add, List.filter_cons, ha,
        Bool.not_false, ↓reduceIte, List.filter_nil, List.getLast?_append, List.getLast?_singleton,
        Option.some_or, Option.map_some, Option.some.injEq] at h
      subst h
      refine ⟨⟨a, by simp, ha⟩, fun j x hij hx => ?_⟩
      have : (l ++ [a]).length ≤ j := by simp; omega
      rw [List.getElem?_eq_none this] at hx
      cases hx

theorem Stack.topSubtree_of_pop {st : Stack} {top : Subtree}
    (h : st.pop.1.bind (·.subtree) = some top) : st.topSubtree = some top := by
  unfold Stack.pop at h
  unfold Stack.topSubtree
  split at h
  · rename_i e rest _ heq
    rw [heq]
    simpa using h
  · simp at h

/-- The state and subtree of a stack entry. -/
def StackEntry.view (e : StackEntry) : Nat × Option Subtree := (e.state, e.subtree)

namespace Stack

/-- The stack with `t` pushed into `state`: what `Stack.push` makes when there is room.
    The new entry stands where `t` ends. -/
def pushed (st : Stack) (state : Nat) (t : Subtree) : Stack :=
  { st with entries := ⟨state, some t, st.position.add t.totalSize, st.depth + 1⟩ :: st.entries }

/-- The stack with the subtrees of `l` pushed one after another into `state`. -/
def pushAll (st : Stack) (state : Nat) (l : List Subtree) : Stack :=
  l.foldl (fun st x => st.pushed state x) st

variable {st : Stack} {state : Nat} {t : Subtree}

@[simp] theorem pushed_entries :
    (st.pushed state t).entries =
      ⟨state, some t, st.position.add t.totalSize, st.depth + 1⟩ :: st.entries := rfl

@[simp] theorem pushed_state : (st.pushed state t).state = state := rfl

@[simp] theorem pushed_position : (st.pushed state t).position = st.position.add t.totalSize := rfl

@[simp] theorem pushed_topSubtree : (st.pushed state t).topSubtree = some t := rfl

@[simp] theorem pushAll_nil : st.pushAll state [] = st := rfl

@[simp] theorem pushAll_cons (x : Subtree) (l : List Subtree) :
    st.pushAll state (x :: l) = (st.pushed state x).pushAll state l := rfl

theorem push_eq_ok {st' : Stack} (h : st.push state t = .ok st') : st' = st.pushed state t := by
  unfold push at h
  split at h
  · cases h
  · exact (Except.ok.inj h).symm

/-- Pushing a list adds entries above the old ones that hold its subtrees, the last one
    on top. -/
theorem pushAll_entries (st : Stack) (state : Nat) (l : List Subtree) :
    ∃ es, (st.pushAll state l).entries = es ++ st.entries ∧
      es.map StackEntry.view = (l.map fun x => (state, some x)).reverse := by
  induction l generalizing st with
  | nil => exact ⟨[], rfl, rfl⟩
  | cons x l ih =>
    obtain ⟨es, hes, hview⟩ := ih (st.pushed state x)
    refine ⟨es ++ [⟨state, some x, st.position.add x.totalSize, st.depth + 1⟩], ?_, ?_⟩
    · rw [pushAll_cons, hes, pushed_entries, List.append_assoc, List.singleton_append]
    · simp [hview, StackEntry.view]

/-- Pushing `t` and then the subtrees of `l` adds `t`'s entry above the old ones, and the
    entries of `l` above it. -/
theorem pushed_pushAll_entries (st : Stack) (state : Nat) (t : Subtree) (l : List Subtree) :
    ∃ es pos height, ((st.pushed state t).pushAll state l).entries =
      es ++ ⟨state, some t, pos, height⟩ :: st.entries ∧
      es.map StackEntry.view = (l.map fun x => (state, some x)).reverse := by
  obtain ⟨es, hes, hview⟩ := pushAll_entries (st.pushed state t) state l
  exact ⟨es, _, _, hes, hview⟩

end Stack

/-- The children and summary of the error node that skipping `token` makes from `top`,
    the subtree popped off the stack, as `skipToken` computes them: a leaf goes before the
    token, and so do a node's children, with the summary of the last error run extended
    by the token when `top` is the node that run made. -/
def mergeSkipped (top : Option Subtree) (run : Option (Nat × ChildSummary)) (token : Subtree)
    (childId : Nat) : List Subtree × ChildSummary :=
  match top with
  | some top =>
    if top.children.isEmpty then
      let children := [top.withExtra false childId, token]
      (children, ChildSummary.ofChildren true children)
    else
      let children := top.children ++ [token]
      match run with
      | some (runId, summary) =>
        if runId == top.id then (children, summary.add true token)
        else (children, ChildSummary.ofChildren true children)
      | none => (children, ChildSummary.ofChildren true children)
  | none => ([token], ChildSummary.ofChildren true [token])

/-- The merged children are the token and what `top` gives: its children, or itself when
    it is a leaf. -/
theorem mem_mergeSkipped {top : Subtree} {o : Option Subtree} (ho : ∀ x, o = some x → x = top)
    (run : Option (Nat × ChildSummary)) (token : Subtree) (childId : Nat) :
    token ∈ (mergeSkipped o run token childId).1 ∧
      ∀ c ∈ (mergeSkipped o run token childId).1, c = token ∨ c ∈ top.children ∨
        (top.children = [] ∧ ∃ cid, c = top.withExtra false cid) := by
  rcases o with _ | x
  · simp [mergeSkipped]
  obtain rfl := ho x rfl
  dsimp only [mergeSkipped]
  split
  · rename_i hempty
    refine ⟨by simp, fun c hc => ?_⟩
    simp only [List.mem_cons, List.not_mem_nil, or_false] at hc
    rcases hc with rfl | rfl
    · exact .inr (.inr ⟨List.isEmpty_iff.1 hempty, _, rfl⟩)
    · exact .inl rfl
  · -- a node's children come first, whatever the summary
    have hmem : token ∈ x.children ++ [token] ∧ ∀ c ∈ x.children ++ [token], c = token ∨
        c ∈ x.children ∨ (x.children = [] ∧ ∃ cid, c = x.withExtra false cid) :=
      ⟨List.mem_append_right _ (List.mem_singleton_self _), fun c hc =>
        (List.mem_append.1 hc).elim (fun h => .inr (.inl h)) fun h => .inl (List.mem_singleton.1 h)⟩
    split
    · split <;> exact hmem
    · exact hmem

/-- A property of a summary and the children it adds up, that every summary added up afresh
    has and that adding the token keeps, holds of the merged summary and children, when the
    error run's summary has it for the children of the node the run made. -/
theorem mergeSkipped_summary (P : ChildSummary → List Subtree → Prop) {top : Subtree}
    {run : Option (Nat × ChildSummary)} (token : Subtree) (childId : Nat)
    (hfresh : ∀ cs, P (ChildSummary.ofChildren true cs) cs)
    (hadd : ∀ s cs, P s cs → P (s.add true token) (cs ++ [token]))
    (hrun : ∀ runId summary, run = some (runId, summary) → top.id = runId →
      top.children ≠ [] → P summary top.children) :
    P (mergeSkipped (some top) run token childId).2 (mergeSkipped (some top) run token childId).1 := by
  dsimp only [mergeSkipped]
  split
  · exact hfresh _
  · rename_i hne
    have hcs : top.children ≠ [] := fun h => hne (by simp [h])
    rcases run with _ | ⟨runId, summary⟩
    · exact hfresh _
    · dsimp only
      split
      · rename_i hid
        exact hadd _ _ (hrun runId summary rfl (beq_iff_eq.1 hid).symm hcs)
      · exact hfresh _

namespace ParseM

variable {ctx : ParseContext} {s s' : RunState}

/-- A sequence whose first step was run returns exactly when that step returned and the
    rest returned from where it left off; this is `exec_bind_eq_ok` after `exec_bind`. -/
theorem exec_match_eq_ok {α β : Type} {x : Option (Except ParseError (α × RunState))}
    {k : α → RunState → Option (Except ParseError (β × RunState))} {b : β} :
    (match x with
      | some (.ok (a, s')) => k a s'
      | some (.error e) => some (.error e)
      | none => none) = some (.ok (b, s')) ↔
      ∃ a s₁, x = some (.ok (a, s₁)) ∧ k a s₁ = some (.ok (b, s')) := by
  rcases x with _ | (e | ⟨a, s₁⟩)
  · simp
  · simp
  · exact ⟨fun h => ⟨a, s₁, rfl, h⟩, fun ⟨_, _, h, hk⟩ => by cases h; exact hk⟩

/-- A push that succeeded pushed the subtree where the stack ended. -/
theorem exec_push {state : Nat} {t : Subtree} {u : Unit}
    (h : (push state t).exec ctx s = some (.ok (u, s'))) :
    s' = { s with stack := s.stack.pushed state t } := by
  unfold push at h
  simp only [exec_bind, exec_get] at h
  cases hp : s.stack.push state t with
  | error e => simp [hp] at h
  | ok stack =>
    simp only [hp, exec_set, Option.some.injEq, Except.ok.injEq, Prod.mk.injEq] at h
    rw [← h.2, Stack.push_eq_ok hp]

/-- Pushing the subtrees of a list one after another, all into `state`. -/
theorem exec_forIn_push {state : Nat} {u : PUnit} :
    ∀ {l : List Subtree} {s s' : RunState},
      (forIn l PUnit.unit fun x _ => do
        push state x
        pure (ForInStep.yield PUnit.unit) : ParseM PUnit).exec ctx s = some (.ok (u, s')) →
      s' = { s with stack := s.stack.pushAll state l }
  | [], s, s', h => by
    simp only [List.forIn_nil, exec_pure, Option.some.injEq, Except.ok.injEq,
      Prod.mk.injEq] at h
    rw [← h.2]
    rfl
  | x :: l, s, s', h => by
    rw [List.forIn_cons] at h
    obtain ⟨step, s₁, hstep, h⟩ := exec_bind_eq_ok.1 h
    obtain ⟨v, s₂, hpush, hpure⟩ := exec_bind_eq_ok.1 hstep
    obtain ⟨rfl, rfl⟩ := exec_pure_eq_ok.1 hpure
    rw [exec_forIn_push h, exec_push hpush]
    rfl

/-- Shifting pushes the lookahead, a leaf with its extra flag set as asked under a new
    identity, and moves the reuse cursor past a reused lookahead. -/
theorem exec_shift {state : Nat} {la : Lookahead} {extra : Bool} {u : Unit}
    (h : (shift state la extra).exec ctx s = some (.ok (u, s'))) :
    s'.stack = s.stack.pushed state
        (if la.tree.childCount = 0 then la.tree.withExtra extra s.nextId else la.tree) ∧
      s'.reuse = (if la.reused then s.reuse.advance else s.reuse) ∧
      s'.nextId = s.nextId + 1 ∧ s'.errorRun = s.errorRun := by
  unfold shift at h
  simp only [exec_bind, exec_fresh] at h
  -- the scanner state of an external token changes nothing the statement reads
  split at h
  all_goals
    simp only [exec_bind, exec_modify, exec_say] at h
    obtain ⟨v, s₁, hpush, h⟩ := exec_match_eq_ok.1 h
    obtain rfl := exec_push hpush
    split at h
    all_goals
      simp only [exec_bind, moveReuse, exec_modify, Option.some.injEq, Except.ok.injEq,
        Prod.mk.injEq] at h
      obtain ⟨-, rfl⟩ := h
      simp_all

/-- Lexing makes the leaf of the token the lexer finds at `position`, with a new
    identity. -/
theorem exec_lex {state : Nat} {position : Length} {tree : Subtree}
    (h : (lex state position).exec ctx s = some (.ok (tree, s'))) :
    s'.stack = s.stack ∧ s'.reuse = s.reuse ∧ s'.nextId = s.nextId + 1 ∧
      s'.errorRun = s.errorRun ∧
      tree = Subtree.ofToken ctx.table s.nextId
        (nextToken ctx.table ((Cursor.new ctx.input).reset position) state s.scannerState).1
        state := by
  unfold lex at h
  simp only [exec_bind, exec_read, exec_say, exec_get, exec_fresh, exec_name, exec_pure,
    Option.some.injEq, Except.ok.injEq, Prod.mk.injEq] at h
  obtain ⟨rfl, rfl⟩ := h
  exact ⟨rfl, rfl, rfl, rfl, rfl⟩

theorem exec_relex {state : Nat} {la : Lookahead}
    (h : (relex state).exec ctx s = some (.ok (la, s'))) :
    s'.stack = s.stack ∧ s'.reuse = s.reuse ∧ la.reused = false ∧ s'.nextId = s.nextId + 1 ∧
      s'.errorRun = s.errorRun ∧
      la.tree = Subtree.ofToken ctx.table s.nextId
        (nextToken ctx.table ((Cursor.new ctx.input).reset s.stack.position) state
          s.scannerState).1 state := by
  unfold relex at h
  simp only [exec_bind, exec_get] at h
  obtain ⟨tree, s₁, hlex, h⟩ := exec_match_eq_ok.1 h
  obtain ⟨rfl, rfl⟩ := exec_pure_eq_ok.1 h
  obtain ⟨hstack, hreuse, hnext, hrun, htree⟩ := exec_lex hlex
  exact ⟨hstack, hreuse, rfl, hnext, hrun, htree⟩

theorem exec_missing {symbol examinedEnd : Nat} {la : Lookahead}
    (h : (missing symbol examinedEnd).exec ctx s = some (.ok (la, s'))) :
    s'.stack = s.stack ∧ s'.reuse = s.reuse ∧ la.reused = false ∧ s'.nextId = s.nextId + 1 ∧
      s'.errorRun = s.errorRun ∧
      la.tree = Subtree.missingLeaf ctx.table s.nextId symbol s.stack.state := by
  unfold missing at h
  simp only [exec_bind, exec_read, exec_say, exec_get, exec_fresh, exec_name, exec_modify,
    exec_pure, Option.some.injEq, Except.ok.injEq, Prod.mk.injEq] at h
  obtain ⟨rfl, rfl⟩ := h
  exact ⟨rfl, rfl, rfl, rfl, rfl, rfl⟩

theorem exec_breakdown {state : Nat} {found : Option Subtree}
    (h : (breakdown state).exec ctx s = some (.ok (found, s'))) :
    s'.stack = s.stack ∧ found = (breakdownWalk ctx state s.reuse).1 ∧
      s'.reuse = (breakdownWalk ctx state s.reuse).2.1 := by
  unfold breakdown at h
  simp only [exec_bind, exec_read, exec_get, moveReuse, sayAll, exec_modify, exec_pure,
    Option.some.injEq, Except.ok.injEq, Prod.mk.injEq] at h
  obtain ⟨rfl, rfl⟩ := h
  exact ⟨rfl, rfl, rfl⟩

/-- The next lookahead is a subtree the reuse walk found, or a fresh token lexed where the
    stack ends. -/
theorem exec_nextLookahead {la : Lookahead} (h : nextLookahead.exec ctx s = some (.ok (la, s'))) :
    s'.stack = s.stack ∧
      ((la.reused = true ∧
          (reuseWalk ctx s.stack.state s.stack.position s.scannerState s.reuse).1 = some la.tree ∧
          s'.reuse = (reuseWalk ctx s.stack.state s.stack.position s.scannerState s.reuse).2.1 ∧
          s'.nextId = s.nextId ∧ s'.errorRun = s.errorRun) ∨
        (la.reused = false ∧
          s'.reuse = (reuseWalk ctx s.stack.state s.stack.position s.scannerState s.reuse).2.1 ∧
          s'.nextId = s.nextId + 1 ∧ s'.errorRun = s.errorRun ∧
          la.tree = Subtree.ofToken ctx.table s.nextId
            (nextToken ctx.table ((Cursor.new ctx.input).reset s.stack.position) s.stack.state
              s.scannerState).1 s.stack.state)) := by
  unfold nextLookahead reuseNode at h
  simp only [exec_bind, exec_read, exec_get, exec_modify, moveReuse, sayAll, exec_pure] at h
  split at h
  · rename_i tree htree
    obtain ⟨rfl, rfl⟩ := exec_pure_eq_ok.1 h
    exact ⟨rfl, .inl ⟨rfl, htree, rfl, rfl, rfl⟩⟩
  · rename_i hnone
    simp only [exec_bind] at h
    obtain ⟨tree, s₁, hlex, h⟩ := exec_match_eq_ok.1 h
    obtain ⟨rfl, rfl⟩ := exec_pure_eq_ok.1 h
    obtain ⟨hstack, hreuse, hnext, hrun, htree⟩ := exec_lex hlex
    exact ⟨hstack, .inr ⟨rfl, hreuse, hnext, hrun, htree⟩⟩

/-- A lifted computation leaves the state as it was. -/
theorem lift_state_eq {α : Type} {x : Option α} {a : α} {s₁ : RunState}
    (h : x.map (fun a => (Except.ok (a, s) : Except ParseError (α × RunState))) =
      some (.ok (a, s₁))) : s₁ = s := by
  cases x with
  | none => cases h
  | some b =>
    simp only [Option.map_some, Option.some.injEq, Except.ok.injEq, Prod.mk.injEq] at h
    exact h.2.symm

/-- Choosing a repair only simulates: the state is left as it was. -/
theorem exec_chooseFor {la : Subtree} {window : Nat} {r : Option Repair × Nat}
    (h : (chooseFor la window).exec ctx s = some (.ok (r, s'))) : s' = s := by
  unfold chooseFor at h
  simp only [exec_bind, exec_read, exec_get, exec_lift] at h
  obtain ⟨inserts, s₁, hins, h⟩ := exec_match_eq_ok.1 h
  obtain rfl := lift_state_eq hins
  split at h
  · simp only [exec_bind, exec_pure, Option.some.injEq, Except.ok.injEq, Prod.mk.injEq] at h
    exact h.2.symm
  · simp only [exec_bind, exec_lift] at h
    obtain ⟨trial, s₂, htrial, h⟩ := exec_match_eq_ok.1 h
    obtain rfl := lift_state_eq htrial
    simp only [exec_pure, Option.some.injEq, Except.ok.injEq, Prod.mk.injEq] at h
    exact h.2.symm

/-- Skipping pushes an extra error node in the current state. When the top of the stack is
    an extra error node, it is popped and the new node holds what `mergeSkipped` gives;
    otherwise the new node wraps the token alone, or is the token itself when it is an
    error. A new error node starts the error run. -/
theorem exec_skipToken_eq {token : Subtree} {u : Unit}
    (h : (skipToken token).exec ctx s = some (.ok (u, s'))) :
    let merged := mergeSkipped (s.stack.pop.1.bind (·.subtree)) s.errorRun token (s.nextId + 1)
    s'.reuse = s.reuse ∧
      ((∃ top, s.stack.topSubtree = some top ∧ top.isError = true ∧ top.isExtra = true ∧
          s'.nextId = s.nextId + 2 ∧
          s'.stack = s.stack.pop.2.pushed s.stack.state
            (Subtree.errorNodeWith ctx.table s.nextId merged.1 merged.2 true s.stack.state) ∧
          s'.errorRun = some (s.nextId, merged.2)) ∨
        ((∀ top, s.stack.topSubtree = some top → top.isError = true → top.isExtra = false) ∧
          s'.nextId = s.nextId + 1 ∧
          ((token.isError = true ∧
              s'.stack = s.stack.pushed s.stack.state (token.withExtra true s.nextId) ∧
              s'.errorRun = s.errorRun) ∨
            (token.isError = false ∧
              s'.stack = s.stack.pushed s.stack.state (Subtree.errorNodeWith ctx.table s.nextId
                [token] (ChildSummary.ofChildren true [token]) true s.stack.state) ∧
              s'.errorRun = some (s.nextId, ChildSummary.ofChildren true [token]))))) := by
  intro merged
  unfold skipToken at h
  simp only [exec_bind, exec_read, exec_get, exec_name, exec_say] at h
  split at h
  all_goals
    simp only [exec_bind, exec_modify, exec_get, exec_fresh] at h
    rcases htop : s.stack.topSubtree with _ | top
    all_goals simp only [htop] at h
  all_goals
    split at h
    · -- the top is an extra error node: it is popped and the token merged into it
      rename_i hmerge
      first
      | exact absurd hmerge Bool.false_ne_true
      | simp only [exec_bind, withStack, exec_modifyGet, exec_fresh, exec_pure, exec_modify] at h
        obtain ⟨v, s₁, hpush, h⟩ := exec_match_eq_ok.1 h
        obtain rfl := exec_push hpush
        simp only [Option.some.injEq, Except.ok.injEq, Prod.mk.injEq] at h
        obtain ⟨-, rfl⟩ := h
        simp only [Bool.and_eq_true] at hmerge
        exact ⟨rfl, .inl ⟨top, rfl, hmerge.1, hmerge.2, rfl, rfl, rfl⟩⟩
    · -- otherwise the token is wrapped on its own, or pushed as it is when it is an error
      rename_i hmerge
      have hnot : ∀ top', s.stack.topSubtree = some top' → top'.isError = true →
          top'.isExtra = false := by
        intro top' htop' herr
        rw [htop] at htop'
        cases htop' <;> simpa [herr] using hmerge
      rw [htop] at hnot
      split at h
      · rename_i herr
        simp only [exec_bind, exec_pure, exec_modify] at h
        obtain ⟨v, s₁, hpush, h⟩ := exec_match_eq_ok.1 h
        obtain rfl := exec_push hpush
        simp only [Option.some.injEq, Except.ok.injEq, Prod.mk.injEq] at h
        obtain ⟨-, rfl⟩ := h
        exact ⟨rfl, .inr ⟨hnot, rfl, .inl ⟨herr, rfl, rfl⟩⟩⟩
      · rename_i herr
        simp only [exec_bind, exec_pure, exec_modify] at h
        obtain ⟨v, s₁, hpush, h⟩ := exec_match_eq_ok.1 h
        obtain rfl := exec_push hpush
        simp only [Option.some.injEq, Except.ok.injEq, Prod.mk.injEq] at h
        obtain ⟨-, rfl⟩ := h
        exact ⟨rfl, .inr ⟨hnot, rfl, .inr ⟨by simpa using herr, rfl, rfl⟩⟩⟩

/-- Skipping pushes an extra error node in the current state: the token wrapped alone,
    the token itself when it is an error, or, when the top is an extra error node, that
    node popped and extended by the token. -/
theorem exec_skipToken {token : Subtree} {u : Unit}
    (h : (skipToken token).exec ctx s = some (.ok (u, s'))) :
    s'.reuse = s.reuse ∧ ∃ error pos height base,
      s'.stack.entries = ⟨s.stack.state, some error, pos, height⟩ :: base ∧
      error.isExtra = true ∧ error.symbol = errorSymbol ∧
      ((base = s.stack.entries ∧
          ((token.isError = true ∧ ∃ id, error = token.withExtra true id) ∨ error.children = [token])) ∨
        (∃ top, s.stack.topSubtree = some top ∧ top.isError = true ∧ top.isExtra = true ∧
          base = s.stack.pop.2.entries ∧ token ∈ error.children ∧
          ∀ c ∈ error.children, c = token ∨ c ∈ top.children ∨
            (top.children = [] ∧ ∃ cid, c = top.withExtra false cid))) := by
  obtain ⟨hreuse, hcases⟩ := exec_skipToken_eq h
  refine ⟨hreuse, ?_⟩
  rcases hcases with ⟨top, htop, herr, hextra, -, hstack, -⟩ |
    ⟨-, -, ⟨herr, hstack, -⟩ | ⟨-, hstack, -⟩⟩
  · refine ⟨_, _, _, _, by rw [hstack]; rfl, rfl, rfl,
      .inr ⟨top, htop, herr, hextra, rfl, ?_⟩⟩
    rw [Subtree.errorNodeWith_children]
    exact mem_mergeSkipped (fun x hx => Option.some.inj ((Stack.topSubtree_of_pop hx).symm.trans htop))
      _ _ _
  · refine ⟨_, _, _, _, by rw [hstack]; rfl, Subtree.withExtra_isExtra _ _ _, ?_,
      .inl ⟨rfl, .inl ⟨herr, _, rfl⟩⟩⟩
    simpa [Subtree.isError] using herr
  · exact ⟨_, _, _, _, by rw [hstack]; rfl, rfl, rfl, .inl ⟨rfl, .inr rfl⟩⟩

/-- A reduction pops `count` subtrees that are not extras, wraps them up to the last
    one in a node with a new identity, and pushes the node and then the trailing extras
    into the goto of the state below them. -/
theorem exec_reduce {symbol count production : Nat} {la : Subtree} {u : Unit}
    (h : (reduce symbol count production la).exec ctx s = some (.ok (u, s'))) :
    let popped := s.stack.popCount count
    let target := ctx.table.goto popped.2.state symbol
    s'.reuse = s.reuse ∧ s'.nextId = s.nextId + 1 ∧ s'.errorRun = s.errorRun ∧
      ∃ k, s'.stack = (popped.2.pushed target ((Subtree.node ctx.table s.nextId symbol
        (splitTrailingExtras popped.1).1 production popped.2.state).extendLookahead k)).pushAll
        target (splitTrailingExtras popped.1).2 := by
  intro popped target
  unfold reduce at h
  simp only [exec_bind, exec_read, exec_get, exec_set] at h
  split at h
  · simp only [exec_bind, exec_throw] at h
    cases h
  · simp only [exec_bind, withStack, exec_modifyGet, exec_get, exec_fresh, exec_name, exec_say] at h
    obtain ⟨v, s₁, hpush, h⟩ := exec_match_eq_ok.1 h
    obtain rfl := exec_push hpush
    obtain ⟨v', s₂, hfor, h⟩ := exec_match_eq_ok.1 h
    obtain ⟨-, rfl⟩ := exec_pure_eq_ok.1 h
    obtain rfl := exec_forIn_push hfor
    exact ⟨rfl, rfl, rfl, _, rfl⟩

/-- Accepting empties the stack and wraps what it held in the root: either everything
    as an error root, or the children of the last subtree that is not an extra, when it
    is a nonterminal node, with the extras around it. -/
theorem exec_accept {root : Subtree} (h : accept.exec ctx s = some (.ok (root, s'))) :
    s'.stack.entries = s.stack.popAll.2.entries ∧ s'.reuse = s.reuse ∧ ∃ id,
      root = Subtree.root ctx.table id errorSymbol 0 s.stack.popAll.1 ctx.total ∨
      ∃ i t, s.stack.popAll.1[i]? = some t ∧ t.isExtra = false ∧
        (∀ j x, i < j → s.stack.popAll.1[j]? = some x → x.isExtra = true) ∧
        ctx.table.tokenCount ≤ t.symbol ∧ t.isError = false ∧
        root = Subtree.root ctx.table id t.symbol t.production
          (s.stack.popAll.1.take i ++ t.children ++ s.stack.popAll.1.drop (i + 1)) ctx.total := by
  unfold accept at h
  simp only [exec_bind, exec_read, exec_say, withStack, exec_modifyGet, exec_fresh, exec_pure,
    Option.some.injEq, Except.ok.injEq, Prod.mk.injEq] at h
  obtain ⟨rfl, rfl⟩ := h
  refine ⟨rfl, rfl, s.nextId, ?_⟩
  generalize hsel : ((Option.map (fun x => x.snd)
    (List.filter (fun x => !x.fst.isExtra) s.stack.popAll.fst.zipIdx).getLast?).bind fun i =>
      s.stack.popAll.fst[i]?.bind fun t =>
        if t.symbol ≥ ctx.table.tokenCount ∧ (!t.isError) = true then some (i, t) else none) = sel
  rcases sel with _ | ⟨i, t⟩
  · exact .inl rfl
  · right
    obtain ⟨i', hi', hsel⟩ := Option.bind_eq_some_iff.1 hsel
    obtain ⟨t', ht', hsel⟩ := Option.bind_eq_some_iff.1 hsel
    split at hsel
    · rename_i hcond
      cases hsel
      obtain ⟨⟨t'', ht'', hte⟩, hlater⟩ := lastNonExtra_spec hi'
      rw [ht'] at ht''
      cases ht''
      simp only [Bool.not_eq_true'] at hcond
      exact ⟨i, t, ht', hte, hlater, hcond.1, by simpa using hcond.2, rfl⟩
    · cases hsel
end ParseM

end IncrementalLR
