import IncrementalLR.Proofs.Parse.Completion
import IncrementalLR.Proofs.Tree.Spans
import IncrementalLR.Proofs.Parse.Language
import IncrementalLR.Proofs.Grammar.LexModes
import IncrementalLR.Proofs.Grammar.Cells

/-!
# Recovery at the end of the input

What recovery does when the end of the input has no action in the top state.
-/

namespace IncrementalLR

/-! ### The tokens under the stack -/

/-- Whether a leaf stands for a token of the text, read or assumed: a terminal or an
    error. The other leaves are nodes of rules that derived nothing. -/
def isTokenLeaf (t : ParseTable) (x : Subtree) : Bool :=
  decide (x.symbol < t.tokenCount) || x.isError

/-- The tokens below subtrees, in order: each one's symbol, and whether the parser
    assumed it. -/
def tokensOf (t : ParseTable) (xs : List Subtree) : List (Nat × Bool) :=
  ((Subtree.leavesOf xs).filter (isTokenLeaf t)).map fun x => (x.symbol, x.isMissing)

/-- The tokens below the subtrees of stack entries, bottom first. -/
def entryTokens (t : ParseTable) (es : List StackEntry) : List (Nat × Bool) :=
  tokensOf t (es.filterMap (·.subtree)).reverse

section Tokens

variable {t : ParseTable}

@[simp] theorem tokensOf_nil : tokensOf t [] = [] := by
  simp [tokensOf]

theorem tokensOf_append (xs ys : List Subtree) :
    tokensOf t (xs ++ ys) = tokensOf t xs ++ tokensOf t ys := by
  simp [tokensOf, Subtree.leavesOf_append]

/-- A node of a rule holds the tokens of its children; as a leaf it holds none. -/
theorem tokensOf_node {x : Subtree} (hx : t.tokenCount ≤ x.symbol) (herr : x.isError = false) :
    tokensOf t [x] = tokensOf t x.children := by
  by_cases hnil : x.children = []
  · have hnot : isTokenLeaf t x = false := by
      simp [isTokenLeaf, herr, Nat.not_lt.2 hx]
    simp [tokensOf, Subtree.leaves_of_children_nil hnil, hnil, hnot]
  · simp [tokensOf, Subtree.leaves_of_children_ne_nil hnil]

/-- A leaf of a terminal is one token. -/
theorem tokensOf_terminal {x : Subtree} (hnil : x.children = []) (hx : x.symbol < t.tokenCount) :
    tokensOf t [x] = [(x.symbol, x.isMissing)] := by
  simp [tokensOf, Subtree.leaves_of_children_nil hnil, isTokenLeaf, hx]

theorem entryTokens_append (pre es : List StackEntry) :
    entryTokens t (pre ++ es) = entryTokens t es ++ entryTokens t pre := by
  simp [entryTokens, List.filterMap_append, tokensOf_append]

theorem entryTokens_cons_some {e : StackEntry} {x : Subtree} (hx : e.subtree = some x)
    (es : List StackEntry) : entryTokens t (e :: es) = entryTokens t es ++ tokensOf t [x] := by
  rw [← List.singleton_append, entryTokens_append]
  simp [entryTokens, hx]

/-- Entries that hold the subtrees of a list, pushed one after another, hold its tokens. -/
theorem entryTokens_of_views {es : List StackEntry} {l : List Subtree} {state : Nat}
    (h : es.map StackEntry.view = (l.map fun x => (state, some x)).reverse) :
    entryTokens t es = tokensOf t l := by
  have hsub : es.filterMap (·.subtree) = l.reverse := by
    have := congrArg (List.filterMap Prod.snd) h
    simpa [List.filterMap_map, StackEntry.view, Function.comp_def, List.filterMap_reverse] using this
  simp [entryTokens, hsub]

/-- A stack that keeps its extras in place ends in an entry that holds no subtree. -/
theorem ExtrasKeepState.exists_bottom {es : List StackEntry} (h : ExtrasKeepState es) :
    ∃ above bottom, es = above ++ [bottom] ∧ bottom.subtree = none := by
  induction h with
  | @bottom e he => exact ⟨[], e, rfl, he⟩
  | @extra e below rest x _ _ _ _ ih =>
    obtain ⟨above, bottom, hes, hb⟩ := ih
    exact ⟨e :: above, bottom, by simp [hes], hb⟩
  | @step e below rest x _ _ _ ih =>
    obtain ⟨above, bottom, hes, hb⟩ := ih
    exact ⟨e :: above, bottom, by simp [hes], hb⟩

/-- The subtrees of a stack that keeps its extras in place are the ones `popAll`
    takes. -/
theorem popAll_tokens {st : Stack} (h : ExtrasKeepState st.entries) :
    tokensOf t st.popAll.1 = entryTokens t st.entries := by
  obtain ⟨above, bottom, hes, hbottom⟩ := h.exists_bottom
  rw [Stack.popAll_of_eq hes, hes, entryTokens_append]
  simp [entryTokens, hbottom]

end Tokens

/-! ### What the steps of the parse do to the tokens -/

namespace ParseM

variable {ctx : ParseContext} {s s' : RunState}

/-- A reduction to a rule's symbol keeps the tokens on the stack: the popped subtrees
    become the children of the new node, or follow it as trailing extras. -/
theorem reduce_tokens {symbol count production : Nat} {la : Subtree}
    (hsym : ctx.table.tokenCount ≤ symbol) (herr : symbol ≠ errorSymbol)
    (h : (reduce symbol count production la).exec ctx s = some (.ok ((), s'))) :
    entryTokens ctx.table s'.stack.entries = entryTokens ctx.table s.stack.entries := by
  obtain ⟨-, -, -, k, hstack⟩ := exec_reduce h
  obtain ⟨es, pos, height, hentries, hview⟩ := Stack.pushed_pushAll_entries _ _ _ _
  rw [← hstack] at hentries
  obtain ⟨pre, hpre, hpopped⟩ := Stack.popFrom_split count [] s.stack.entries
  have hnode : ∀ x : Subtree, x.symbol = symbol →
      tokensOf ctx.table [x] = tokensOf ctx.table x.children := fun x hx =>
    tokensOf_node (hx ▸ hsym) (by simp [Subtree.isError, hx, herr])
  rw [hentries, entryTokens_append, entryTokens_cons_some rfl, entryTokens_of_views hview,
    hnode _ (by simp), Subtree.extendLookahead_children, Subtree.node_children, List.append_assoc,
    ← tokensOf_append, splitTrailingExtras_append]
  conv_rhs => rw [hpre, entryTokens_append]
  simp only [List.append_nil] at hpopped
  simp [Stack.popCount, hpopped, entryTokens]

/-- Reductions to rules' symbols keep the tokens on the stack. -/
theorem reduceAll_tokens {la : Subtree} :
    ∀ {rs : List (Nat × Nat × Nat)} {s s' : RunState},
      (∀ r ∈ rs, ctx.table.tokenCount ≤ r.1 ∧ r.1 ≠ errorSymbol) →
      (reduceAll la rs).exec ctx s = some (.ok ((), s')) →
      entryTokens ctx.table s'.stack.entries = entryTokens ctx.table s.stack.entries
  | [], s, s', _, h => by
    simp only [reduceAll_nil, exec_pure, Option.some.injEq, Except.ok.injEq, Prod.mk.injEq,
      true_and] at h
    rw [h]
  | r :: rs, s, s', hrs, h => by
    rw [reduceAll_cons] at h
    obtain ⟨u, s₁, hr, h⟩ := exec_bind_eq_ok.1 h
    obtain ⟨hsym, herr⟩ := hrs r List.mem_cons_self
    rw [reduceAll_tokens (fun r' hr' => hrs r' (List.mem_cons_of_mem r hr')) h,
      reduce_tokens hsym herr hr]

/-- A shift adds the tokens of what it pushes. -/
theorem shift_tokens {state : Nat} {la : Lookahead} {extra : Bool} {u : Unit}
    (h : (shift state la extra).exec ctx s = some (.ok (u, s'))) :
    entryTokens ctx.table s'.stack.entries = entryTokens ctx.table s.stack.entries ++
      tokensOf ctx.table
        [if la.tree.childCount = 0 then la.tree.withExtra extra s.nextId else la.tree] := by
  obtain ⟨hstack, -⟩ := exec_shift h
  rw [hstack, Stack.pushed_entries, entryTokens_cons_some rfl]

/-- Accepting puts every token on the stack under the root. -/
theorem accept_tokens {root : Subtree} (hinv : ExtrasKeepState s.stack.entries)
    (h : accept.exec ctx s = some (.ok (root, s'))) :
    tokensOf ctx.table root.children = entryTokens ctx.table s.stack.entries := by
  obtain ⟨-, -, id, hroot⟩ := exec_accept h
  rw [← popAll_tokens hinv]
  rcases hroot with rfl | ⟨i, x, hx, -, -, hsym, herr, rfl⟩
  · rw [Subtree.root_children]
  · -- the root takes the place of the last node of a rule, keeping its children
    rw [Subtree.root_children]
    obtain ⟨hi, rfl⟩ := List.getElem?_eq_some_iff.1 hx
    have hnode : ∀ rest, tokensOf ctx.table (s.stack.popAll.1[i] :: rest) =
        tokensOf ctx.table s.stack.popAll.1[i].children ++ tokensOf ctx.table rest := fun rest => by
      rw [← List.singleton_append, tokensOf_append, tokensOf_node hsym herr]
    conv_rhs => rw [← List.take_append_drop i s.stack.popAll.1, List.drop_eq_getElem_cons hi]
    rw [tokensOf_append, tokensOf_append, tokensOf_append, hnode, List.append_assoc]

end ParseM

/-! ### Simulations on a built table -/

namespace ParseTable.Built

variable {t : ParseTable} {g : Grammar} {sets : ItemSets}

/-- A reduction of a built table is to a rule's symbol, which is no error. -/
theorem reduce_lhs (hb : t.Built g sets) {T a A n f : Nat}
    (h : t.action? T a = some (.reduce A n f)) : t.tokenCount ≤ A ∧ A ≠ errorSymbol := by
  obtain ⟨-, -, items, -, p, prod, -, hprod, rfl, -⟩ := hb.action_sound h
  have hmem := Array.mem_of_getElem? hprod
  refine ⟨hb.tokenCount_eq ▸ hb.wellFormed.lhs_ge prod hmem, Nat.ne_of_lt ?_⟩
  exact Nat.lt_of_lt_of_le (hb.wellFormed.lhs_lt prod hmem) hb.wellFormed.size_le

/-- The reductions a simulation on a built table makes are to rules' symbols. -/
theorem simulatedReductions_lhs (hb : t.Built g sets) {symbol : Nat} :
    ∀ {fuel : Nat} {states : List Nat}, ∀ r ∈ simulatedReductions t symbol fuel states,
      t.tokenCount ≤ r.1 ∧ r.1 ≠ errorSymbol
  | 0, _, r, hr => by simp [simulatedReductions] at hr
  | _ + 1, [], r, hr => by simp [simulatedReductions] at hr
  | fuel + 1, state :: rest, r, hr => by
    simp only [simulatedReductions] at hr
    split at hr
    · next A n f hact =>
      split at hr
      · simp at hr
      · split at hr
        · simp at hr
        · rcases List.mem_cons.1 hr with rfl | hr
          · exact hb.reduce_lhs hact
          · exact simulatedReductions_lhs hb r hr
    · simp at hr

end ParseTable.Built

/-- A candidate of a state is a terminal. -/
theorem ParseContext.lt_tokenCount_of_mem_candidates {ctx : ParseContext} {state symbol : Nat}
    (h : symbol ∈ ctx.candidates state) : symbol < ctx.table.tokenCount := by
  unfold ParseContext.candidates at h
  have := List.mem_range'_1.1 (List.mem_filter.1 h).1
  omega

/-! ### Feeding assumed tokens, then the end -/

/-- How feeding the end of the input can end: out of room, or accepted, in a state that
    accepts the end, with `tokens` under the root. -/
def EndsAccepted (ctx : ParseContext) (res : Option (Except ParseError (Option Subtree × RunState)))
    (tokens : List (Nat × Bool)) : Prop :=
  (∃ k, res = some (.error (.resourceExhausted k))) ∨
    ∃ root s₁ s', res = some (.ok (some root, s')) ∧
      ctx.feed s₁.stack.states endSymbol = (.accepted, s₁.stack.states) ∧
      ParseM.accept.exec ctx s₁ = some (.ok (root, s')) ∧ tokensOf ctx.table root.children = tokens

namespace ParseM

variable {ctx : ParseContext} {g : Grammar} {sets : ItemSets}

theorem missing_ok (symbol examinedEnd : Nat) (s : RunState) :
    ∃ m s₁, (missing symbol examinedEnd).exec ctx s = some (.ok (m, s₁)) := by
  unfold missing
  simp only [exec_bind, exec_read, exec_name, exec_say, exec_fresh, exec_get, exec_modify,
    exec_pure]
  exact ⟨_, _, rfl⟩

/-- The reductions of a simulation, made on the stack, keep extras in place. -/
theorem reduceAll_keeps {la : Subtree} {symbol : Nat} :
    ∀ {fuel : Nat} {s s' : RunState}, ExtrasKeepState s.stack.entries →
      (reduceAll la (simulatedReductions ctx.table symbol fuel s.stack.states)).exec ctx s =
        some (.ok ((), s')) → ExtrasKeepState s'.stack.entries
  | 0, s, s', hinv, h => by
    simp only [simulatedReductions, reduceAll_nil, exec_pure, Option.some.injEq,
      Except.ok.injEq, Prod.mk.injEq, true_and] at h
    exact h ▸ hinv
  | fuel + 1, s, s', hinv, h => by
    have hstay : (reduceAll la []).exec ctx s = some (.ok ((), s')) →
        ExtrasKeepState s'.stack.entries := fun h => by
      simp only [reduceAll_nil, exec_pure, Option.some.injEq, Except.ok.injEq, Prod.mk.injEq,
        true_and] at h
      exact h ▸ hinv
    cases hst : s.stack.states with
    | nil => exact hstay (by simpa [hst, simulatedReductions] using h)
    | cons state rest =>
      rw [hst] at h
      simp only [simulatedReductions] at h
      split at h
      · next A n f hact =>
        split at h
        · exact hstay h
        · next below rest' hpop =>
          split at h
          · exact hstay h
          · -- the reduction the simulation makes, then the rest from the states it leaves
            rw [reduceAll_cons] at h
            obtain ⟨u, s₁, hr, h⟩ := exec_bind_eq_ok.1 h
            obtain ⟨hkeep, hstates⟩ := reduce_keeps hinv (by rw [hst]; exact hpop) hr
            rw [← hstates] at h
            exact reduceAll_keeps hkeep h
      · exact hstay h

/-- Feeding an assumed token that the simulation shifts: the parse runs out of room, or
    goes on from the simulated states with the token after the tokens on the stack. -/
theorem advance_missing (hb : ctx.table.Built g sets) {k : Nat}
    (hk : ctx.options.maxStackDepth + 1 ≤ k) {s s₁ : RunState} {m : Lookahead}
    {symbol examinedEnd : Nat} {next : List Nat} (hinv : ExtrasKeepState s.stack.entries)
    (hsym : symbol < ctx.table.tokenCount)
    (hfeed : ctx.feed s.stack.states symbol = (.shifted false, next))
    (hm : (missing symbol examinedEnd).exec ctx s = some (.ok (m, s₁))) :
    (∃ e, advanceWithin k m ctx s₁ = some (.error (.resourceExhausted e))) ∨
      ∃ s₂, advanceWithin k m ctx s₁ = some (.ok (none, s₂)) ∧ ExtrasKeepState s₂.stack.entries ∧
        s₂.stack.states = next ∧ entryTokens ctx.table s₂.stack.entries =
          entryTokens ctx.table s.stack.entries ++ [(symbol, true)] := by
  obtain ⟨hstack, -, -, -, -, htree⟩ := exec_missing hm
  have hleaf : m.tree.childCount = 0 := by simp [htree, Subtree.childCount]
  have hsim : simulateToken ctx.table m.tree.leafSymbol (ctx.options.maxStackDepth + 1)
      s₁.stack.states = (.shifted false, next) := by
    rw [htree, Subtree.missingLeaf_leafSymbol, hstack]
    exact hfeed
  obtain ⟨heq, hout⟩ := advance_of_shifted hleaf _ k hk (hstack ▸ hinv) hsim
  rcases hout with herr | ⟨r, s₂, hok, rfl, hkeep, hstates, -⟩
  · exact .inl herr
  refine .inr ⟨s₂, hok, hkeep, hstates, ?_⟩
  -- the reductions keep the tokens, and the shift adds the assumed one
  rw [heq] at hok
  obtain ⟨u, s₃, hred, hok⟩ := exec_bind_eq_ok.1 hok
  obtain ⟨u', s₄, hshift, hok⟩ := exec_bind_eq_ok.1 hok
  obtain ⟨-, rfl⟩ := exec_pure_eq_ok.1 hok
  rw [shift_tokens hshift, reduceAll_tokens (hb.simulatedReductions_lhs) hred, hstack,
    if_pos hleaf, tokensOf_terminal (by simp [htree]) (by simpa [htree] using hsym)]
  simp [htree]

/-- Feeding the end of the input where the simulation accepts it: the parse runs out of
    room, or it is accepted with the tokens of the stack under the root. -/
theorem advance_end (hb : ctx.table.Built g sets) {k : Nat}
    (hk : ctx.options.maxStackDepth + 1 ≤ k) {s : RunState} {la : Lookahead}
    {σ : List Nat} (hleaf : la.tree.leafSymbol = endSymbol)
    (hinv : ExtrasKeepState s.stack.entries)
    (hfeed : ctx.feed s.stack.states endSymbol = (.accepted, σ)) :
    EndsAccepted ctx (advanceWithin k la ctx s) (entryTokens ctx.table s.stack.entries) := by
  have hsim : simulateToken ctx.table la.tree.leafSymbol (ctx.options.maxStackDepth + 1)
      s.stack.states = (.accepted, σ) := by
    rw [hleaf]
    exact hfeed
  obtain ⟨heq, hout⟩ := advance_of_accepted _ k hk hinv hsim
  rcases hout with herr | ⟨r, s', hok, root, s₁, rfl, hstates, haccept⟩
  · exact Or.inl herr
  refine Or.inr ⟨root, s₁, s', hok, ?_, haccept, ?_⟩
  · -- the simulation ends in a state that accepts the end
    obtain ⟨q, rest, hσ, hact⟩ := simulateToken_accepted hfeed
    rw [hstates, hσ]
    simp [ParseContext.feed, simulateToken, hact]
  · -- the reductions keep the tokens, and accepting puts them under the root
    rw [heq] at hok
    obtain ⟨u, s₃, hred, hok⟩ := exec_bind_eq_ok.1 hok
    rw [exec_map] at hok
    obtain ⟨res, hres, hmap⟩ := Option.map_eq_some_iff.1 hok
    rcases res with e | ⟨root', s''⟩
    · cases hmap
    simp only [Except.map, Except.ok.injEq, Prod.mk.injEq, Option.some.injEq] at hmap
    obtain ⟨rfl, rfl⟩ := hmap
    rw [accept_tokens (reduceAll_keeps hinv hred) hres,
      reduceAll_tokens hb.simulatedReductions_lhs hred]


/-- Assumes the tokens of `u` one after another, each made with examined end
    `examinedEnd`, then feeds `la`, each feed with fuel `k`: how recovery completes the
    parse. -/
def insertThen (k : Nat) (u : List Nat) (examinedEnd : Nat) (la : Lookahead) :
    ParseM (Option Subtree) := do
  u.forM fun symbol => do
    let _ ← advanceWithin k (← missing symbol examinedEnd)
    clearRepair
  advanceWithin k la

/-- Assuming the tokens of a completion one after another, then feeding the end of the
    input: the parse runs out of room, or it is accepted with the assumed tokens after
    the tokens on the stack. The induction follows the completion; each assumed token
    leaves a stack that keeps extras in place, in the states the simulation reached. -/
theorem insertAll_ends (hb : ctx.table.Built g sets) {k : Nat}
    (hk : ctx.options.maxStackDepth + 1 ≤ k) {la : Lookahead}
    (hleaf : la.tree.leafSymbol = endSymbol) (examinedEnd : Nat) {states u : List Nat}
    (hu : ctx.Completes states u) : ∀ s : RunState,
      ExtrasKeepState s.stack.entries → s.stack.states = states →
      EndsAccepted ctx ((insertThen k u examinedEnd la).exec ctx s)
        (entryTokens ctx.table s.stack.entries ++ u.map (·, true)) := by
  induction hu with
  | accept hacc =>
    intro s hinv hstates
    simp only [insertThen, List.forM, pure_bind, List.map_nil, List.append_nil]
    exact advance_end hb hk hleaf hinv (hstates ▸ hacc)
  | @insert state symbol rest next path hmem hfeed _ ih =>
    intro s hinv hstates
    simp only [insertThen, List.forM, bind_assoc]
    obtain ⟨m, s₁, hm⟩ := missing_ok symbol examinedEnd s
    rw [exec_bind, hm]
    dsimp only
    rw [exec_bind, exec_eq_apply (advanceWithin k m)]
    rcases advance_missing hb hk hinv (ParseContext.lt_tokenCount_of_mem_candidates hmem)
      (hstates ▸ hfeed) hm with ⟨e, herr⟩ | ⟨s₂, hok, hkeep, hnext, htokens⟩
    · exact Or.inl ⟨e, by rw [herr]⟩
    · rw [hok]
      dsimp only
      rw [exec_bind, exec_clearRepair]
      dsimp only
      have hrest := ih { s₂ with repairEnd := 0 } hkeep hnext
      simp only [insertThen] at hrest
      rw [htokens, List.append_assoc] at hrest
      exact hrest


/-- Recovery at the end of the input, where the table has nothing for the end and
    nothing shifts it: a single token that completes the parse is assumed, then the end is
    fed again; failing that the first completion within the window is assumed token by
    token; failing that everything parsed becomes an error root. -/
theorem advance_recover_end (k : Nat)
    (hend : ∀ T T' e, ctx.table.action? T endSymbol ≠ some (.shift T' e)) {s : RunState}
    {la : Lookahead} (hno : NoAction ctx.table s.stack.state endSymbol)
    (hsym : la.tree.symbol = endSymbol) (hleaf : la.tree.leafSymbol = endSymbol)
    (hre : la.reused = false) :
    (∀ u, (∃ symbol, (ctx.candidates s.stack.state).find? (ctx.completesWith s.stack.states) =
          some symbol ∧ u = [symbol]) ∨
        ((ctx.candidates s.stack.state).find? (ctx.completesWith s.stack.states) = none ∧
          ctx.shortestCompletion s.stack.states (Nat.max ctx.options.recoveryWindow 1) = some u) →
      ∃ s₁ examinedEnd, s₁.stack = s.stack ∧
        advanceWithin (k + 1) la ctx s = (insertThen k u examinedEnd ⟨la.tree, false⟩).exec ctx s₁) ∧
    ((ctx.candidates s.stack.state).find? (ctx.completesWith s.stack.states) = none →
      ctx.shortestCompletion s.stack.states (Nat.max ctx.options.recoveryWindow 1) = none →
      ∃ s', advanceWithin (k + 1) la ctx s = some (.ok (some (Subtree.root ctx.table s.nextId
        errorSymbol 0 s.stack.popAll.1 ctx.total), s'))) := by
  have herr : la.tree.isError = false := by simp [Subtree.isError, hsym, endSymbol, errorSymbol]
  have hla : la.tree.isEnd = true := by simp [Subtree.isEnd, hsym]
  have hwindow : 0 < Nat.max ctx.options.recoveryWindow 1 :=
    Nat.lt_of_lt_of_le Nat.one_pos (Nat.le_max_right _ _)
  have hunfold : advanceWithin (k + 1) la ctx s = ParseM.exec (advanceWithin (k + 1) la) ctx s :=
    (exec_eq_apply _).symm
  rw [hunfold, advanceWithin.eq_2]
  simp only [exec_bind, exec_read, exec_get, hleaf]
  split
  · next next extra hact => exact absurd hact (by rcases hno with h | h <;> simp [h])
  · next A n f hact => exact absurd hact (by rcases hno with h | h <;> simp [h])
  · next hact => exact absurd hact (by rcases hno with h | h <;> simp [h])
  simp only [hre, Bool.false_eq_true, if_false, exec_bind, exec_get, exec_name, exec_say, herr]
  split
  · next choice s₁ hchoose =>
    obtain ⟨examined, hres⟩ := chooseFor_end hend hla hwindow hchoose
    simp only [Option.some.injEq, Except.ok.injEq] at hres
    obtain ⟨rfl, rfl⟩ := Prod.mk.inj hres
    refine ⟨fun u hu => ?_, fun hfind hsc => ?_⟩
    · rcases hu with ⟨symbol, hfind, rfl⟩ | ⟨hfind, hsc⟩
      · -- one token completes the parse: it is assumed, then the end is fed again
        refine ⟨?s₁, examined, ?hstack, ?heq⟩
        case heq =>
          simp only [hfind, Option.map_some, insertThen, List.forM, bind_assoc, pure_bind]
          rfl
        case hstack => rfl
      · -- none does: the first completion is assumed token by token
        refine ⟨?s₁, ?examinedEnd, ?hstack, ?heq⟩
        case heq =>
          simp only [hfind, Option.map_none, hsc, insertThen, exec_bind, exec_get]
          rfl
        case hstack => rfl
    · -- no completion at all: everything parsed goes under an error root
      simp only [hfind, Option.map_none, hsc, exec_bind, exec_say, withStack, exec_modifyGet,
        exec_fresh, exec_pure]
      exact ⟨_, rfl⟩
  · next e hchoose =>
    obtain ⟨examined, hres⟩ := chooseFor_end hend hla hwindow hchoose
    cases hres
  · next hchoose =>
    obtain ⟨examined, hres⟩ := chooseFor_end hend hla hwindow hchoose
    cases hres


/-- Recovery at the end of the input, on a built table where nothing shifts the end,
    from a stack that keeps its extras in place. When a completion of at most the window
    exists, the parser assumes the first one (the shortest, and the least among those)
    and feeds the end again: it runs out of room, or the parse is accepted with the
    assumed tokens after the tokens on the stack. When none exists, everything on the
    stack goes under an error root that spans the text. -/
theorem advance_at_end (hb : ctx.table.Built g sets)
    (hend : ∀ T T' e, ctx.table.action? T endSymbol ≠ some (.shift T' e)) {s : RunState}
    {la : Lookahead} (hinv : ExtrasKeepState s.stack.entries)
    (hno : NoAction ctx.table s.stack.state endSymbol) (hsym : la.tree.symbol = endSymbol)
    (hleaf : la.tree.leafSymbol = endSymbol) (hre : la.reused = false) :
    (∀ u, ctx.FirstCompletion s.stack.states (Nat.max ctx.options.recoveryWindow 1) u →
      EndsAccepted ctx (advance la ctx s)
        (tokensOf ctx.table s.stack.popAll.1 ++ u.map (·, true))) ∧
    ((∀ v, ctx.Completes s.stack.states v → 1 ≤ v.length →
        Nat.max ctx.options.recoveryWindow 1 < v.length) →
      ∃ s', advance la ctx s = some (.ok (some (Subtree.root ctx.table s.nextId errorSymbol 0
        s.stack.popAll.1 ctx.total), s'))) := by
  -- `advance` feeds once, then recovery feeds with the fuel left, which still covers the
  -- reduction limit
  have hlimit := two_le_loopLimit
  have hadv : advance la ctx s =
      advanceWithin (ctx.options.maxStackDepth + (loopLimit - 1) + 1) la ctx s := by
    rw [show ctx.options.maxStackDepth + (loopLimit - 1) + 1 =
      ctx.options.maxStackDepth + loopLimit by omega]
    rfl
  have hk : ctx.options.maxStackDepth + 1 ≤ ctx.options.maxStackDepth + (loopLimit - 1) := by
    omega
  rw [hadv]
  obtain ⟨hcomplete, heof⟩ :=
    advance_recover_end (ctx.options.maxStackDepth + (loopLimit - 1)) hend hno hsym hleaf hre
  have hwindow : 1 ≤ Nat.max ctx.options.recoveryWindow 1 := Nat.le_max_right _ _
  -- the kept states start with the top state, whose candidates recovery tries
  obtain ⟨r, hr⟩ := hinv.entryStates_eq
  have hstates : s.stack.states = s.stack.state :: r := by
    rw [Stack.states_eq, hr, Stack.state_eq_topState]
  refine ⟨fun u hu => ?_, fun hnone => ?_⟩
  · have hpath : (∃ symbol, (ctx.candidates s.stack.state).find?
          (ctx.completesWith s.stack.states) = some symbol ∧ u = [symbol]) ∨
        ((ctx.candidates s.stack.state).find? (ctx.completesWith s.stack.states) = none ∧
          ctx.shortestCompletion s.stack.states (Nat.max ctx.options.recoveryWindow 1) =
            some u) := by
      cases hfind : (ctx.candidates s.stack.state).find? (ctx.completesWith s.stack.states) with
      | some symbol =>
        rw [hstates] at hfind hu
        exact .inl ⟨symbol, rfl, hu.unique (ParseContext.firstCompletion_of_find hwindow hfind)⟩
      | none => exact .inr ⟨rfl, hu.shortestCompletion⟩
    obtain ⟨s₁, examinedEnd, hstack, heq⟩ := hcomplete u hpath
    have hinv₁ : ExtrasKeepState s₁.stack.entries := hstack ▸ hinv
    rw [heq, popAll_tokens hinv, ← hstack]
    have hleaf' : (⟨la.tree, false⟩ : Lookahead).tree.leafSymbol = endSymbol := hleaf
    exact insertAll_ends hb hk hleaf' examinedEnd hu.completes s₁ hinv₁ (by rw [hstack])
  · -- nothing fits the window: no single token, and no completion
    have hfind : (ctx.candidates s.stack.state).find? (ctx.completesWith s.stack.states) =
        none := by
      cases hfind : (ctx.candidates s.stack.state).find? (ctx.completesWith s.stack.states) with
      | none => rfl
      | some symbol =>
        rw [hstates] at hfind hnone
        have hfirst := ParseContext.firstCompletion_of_find hwindow hfind
        exact absurd (hnone _ hfirst.completes hfirst.pos) (Nat.not_lt.2 hfirst.le)
    have hsc : ctx.shortestCompletion s.stack.states (Nat.max ctx.options.recoveryWindow 1) =
        none := by
      cases hsc : ctx.shortestCompletion s.stack.states (Nat.max ctx.options.recoveryWindow 1) with
      | none => rfl
      | some u =>
        have hfirst := ParseContext.shortestCompletion_eq_some hsc
        exact absurd (hnone _ hfirst.completes hfirst.pos) (Nat.not_lt.2 hfirst.le)
    exact heof hfind hsc

end ParseM


/-! ### Recovery at the end on a built table -/

/-- No state of a table the grammar builder returns shifts the end of the input: no rule
    mentions it, and it is no extra. -/
theorem GrammarSpec.build_end_ne_shift {spec : GrammarSpec} {t : ParseTable}
    (h : spec.build = .ok t) : ∀ T T' e, t.action? T endSymbol ≠ some (.shift T' e) := by
  obtain ⟨g, hg, h⟩ := Except.bind_eq_ok.1 h
  obtain ⟨sets, hsets, h⟩ := Except.bind_eq_ok.1 h
  have hwf := Grammar.wellFormed_ofSpec hg
  have hb : t.Built g sets := ⟨hwf, Grammar.itemSets_sound hwf hsets, h⟩
  obtain ⟨E, reps, -, hexp⟩ := Grammar.expands_ofSpec hg
  have hextra : endSymbol ∉ g.extras := fun hmem => by
    have := (Grammar.tokensNumbered_ofSpec hg).extras _ hmem
    simp [endSymbol] at this
  exact hb.action_end_ne_shift (hexp.end_not_mem hwf) hextra

end IncrementalLR
