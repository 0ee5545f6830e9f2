import IncrementalLR.Proofs.Parse.Invariant

/-!
# The recovery simulation agrees with the parse loop

Recovery weighs a repair by feeding tokens to the states of the stack alone
(`simulateToken`), with the extras left out.
-/

namespace IncrementalLR

/-- The states of a list of entries that a simulated parse keeps, top first: those of
    the entries that hold no subtree or one that is not an extra. -/
def entryStates (es : List StackEntry) : List Nat :=
  (es.filter fun e => match e.subtree with
    | some t => !t.isExtra
    | none => true).map (·.state)

theorem Stack.states_eq (st : Stack) : st.states = entryStates st.entries := rfl

theorem entryStates_cons_some {e : StackEntry} {x : Subtree} (hx : e.subtree = some x)
    (es : List StackEntry) :
    entryStates (e :: es) = if x.isExtra then entryStates es else e.state :: entryStates es := by
  unfold entryStates
  rw [List.filter_cons, hx]
  cases hextra : x.isExtra <;> simp [hextra]

theorem entryStates_cons_none {e : StackEntry} (he : e.subtree = none) (es : List StackEntry) :
    entryStates (e :: es) = e.state :: entryStates es := by
  unfold entryStates
  simp [he]

/-- Every extra on the stack keeps the state of the entry below it: the bottom entry holds
    no subtree, every other entry holds one, and one that holds an extra has the state of
    the entry below. -/
inductive ExtrasKeepState : List StackEntry → Prop
  | bottom {e : StackEntry} : e.subtree = none → ExtrasKeepState [e]
  | extra {e below : StackEntry} {rest : List StackEntry} {x : Subtree} :
      ExtrasKeepState (below :: rest) → e.subtree = some x → x.isExtra = true →
      e.state = below.state → ExtrasKeepState (e :: below :: rest)
  | step {e below : StackEntry} {rest : List StackEntry} {x : Subtree} :
      ExtrasKeepState (below :: rest) → e.subtree = some x → x.isExtra = false →
      ExtrasKeepState (e :: below :: rest)

namespace ExtrasKeepState

variable {es : List StackEntry}

/-- A path of the automaton keeps its extras in place. -/
theorem of_stackPath {t : ParseTable} (h : StackPath t es) : ExtrasKeepState es := by
  induction h with
  | bottom _ hsub => exact .bottom hsub
  | extra _ hx hextra hstate ih => exact .extra ih hx hextra hstate
  | step _ hx hextra _ ih => exact .step ih hx hextra

/-- The state on top is the first state a simulated parse keeps. -/
theorem entryStates_eq (h : ExtrasKeepState es) :
    ∃ r, entryStates es = topState es :: r := by
  induction h with
  | @bottom e hsub => exact ⟨[], by rw [entryStates_cons_none hsub]; rfl⟩
  | @extra e below rest x _ hx hextra hstate ih =>
    obtain ⟨r, hr⟩ := ih
    refine ⟨r, ?_⟩
    rw [entryStates_cons_some hx, if_pos hextra, hr, topState_cons, topState_cons, hstate]
  | @step e below rest x _ hx hextra _ =>
    exact ⟨_, by rw [entryStates_cons_some hx, if_neg (by simp [hextra]), topState_cons]⟩

/-- Popping `n` subtrees that are not extras, when the stack has more kept states than
    that, keeps extras in place and drops the first `n` kept states. -/
theorem popFrom : ∀ {n : Nat} {acc : List Subtree} {es : List StackEntry},
    ExtrasKeepState es → n < (entryStates es).length →
    ExtrasKeepState (Stack.popFrom n acc es).2 ∧
      entryStates (Stack.popFrom n acc es).2 = (entryStates es).drop n
  | _, _, [], h, _ => nomatch h
  | n, acc, [e], h, hn => by
    -- the bottom entry is never popped, and it is the only state kept
    cases h with
    | bottom hsub =>
      rw [entryStates_cons_none hsub] at hn
      obtain rfl : n = 0 := by simpa [entryStates] using hn
      simp [Stack.popFrom_zero, ExtrasKeepState.bottom hsub]
  | n, acc, e :: below :: rest, h, hn => by
    by_cases hr : n = 0
    · subst hr
      simp [Stack.popFrom_zero, h]
    -- an extra is popped without counting; anything else counts one
    cases h with
    | extra hbelow hx hextra _ =>
      rw [entryStates_cons_some hx, if_pos hextra] at hn ⊢
      rw [Stack.popFrom_cons_some hr hx]
      simp only [hextra, if_true]
      exact popFrom hbelow hn
    | step hbelow hx hextra =>
      rw [entryStates_cons_some hx, if_neg (by simp [hextra])] at hn ⊢
      rw [Stack.popFrom_cons_some hr hx]
      simp only [hextra, Bool.false_eq_true, if_false]
      obtain ⟨m, rfl⟩ : ∃ m, n = m + 1 := Nat.exists_eq_succ_of_ne_zero hr
      simp only [List.length_cons, Nat.add_lt_add_iff_right] at hn
      simpa using popFrom hbelow hn

/-- A stack entry pushed on top keeps extras in place when, holding an extra, it has the
    top state. -/
theorem cons {e : StackEntry} {x : Subtree} (h : ExtrasKeepState es) (hx : e.subtree = some x)
    (hstate : x.isExtra = true → e.state = topState es) : ExtrasKeepState (e :: es) := by
  obtain ⟨below, rest, rfl⟩ : ∃ below rest, es = below :: rest := by
    cases h <;> exact ⟨_, _, rfl⟩
  cases hextra : x.isExtra with
  | true => exact .extra h hx hextra (hstate hextra)
  | false => exact .step h hx hextra

/-- Extras pushed in the top state keep extras in place, and keep the kept states. -/
theorem push_extras : ∀ (l : List Subtree) {e : StackEntry} {rest es : List StackEntry},
    ExtrasKeepState (e :: rest) → (∀ x ∈ l, x.isExtra = true) →
    es.map StackEntry.view = (l.map fun x => (e.state, some x)).reverse →
    ExtrasKeepState (es ++ e :: rest) ∧ entryStates (es ++ e :: rest) = entryStates (e :: rest)
  | [], _, _, es, h, _, hview => by
    rw [List.map_nil, List.reverse_nil, List.map_eq_nil_iff] at hview
    rw [hview, List.nil_append]
    exact ⟨h, rfl⟩
  | x :: l, e, rest, es, h, hextra, hview => by
    rw [List.map_cons, List.reverse_cons, ← List.map_reverse] at hview
    obtain ⟨es', last, rfl, hes', hlast⟩ := List.map_eq_append_iff.1 hview
    obtain ⟨ex, rfl, hex⟩ := List.map_eq_singleton_iff.1 hlast
    simp only [StackEntry.view, Prod.mk.injEq] at hex
    have hx := hextra x List.mem_cons_self
    have h' : ExtrasKeepState (ex :: e :: rest) := .extra h hex.2 hx hex.1
    obtain ⟨hkeep, hstates⟩ := push_extras l h' (fun y hy => hextra y (List.mem_cons_of_mem x hy))
      (by rw [hes', List.map_reverse, hex.1])
    rw [List.append_assoc, List.singleton_append]
    refine ⟨hkeep, ?_⟩
    rw [hstates, entryStates_cons_some hex.2, if_pos hx]

end ExtrasKeepState

/-- A parse with a built table keeps its extras in place, its stack being a path of the
    automaton. -/
theorem RunInv.extrasKeepState {g : Grammar} {t : ParseTable} {s : RunState}
    (h : RunInv g t s) : ExtrasKeepState s.stack.entries :=
  .of_stackPath h.path

/-- The reductions `simulateToken` makes before it shifts, accepts or fails, each as its
    symbol, its number of children and its production. -/
def simulatedReductions (table : ParseTable) (symbol : Nat) :
    Nat → List Nat → List (Nat × Nat × Nat)
  | 0, _ => []
  | _ + 1, [] => []
  | fuel + 1, state :: rest =>
    match table.action? state symbol with
    | some (.reduce lhs count production) =>
      match (state :: rest).drop count with
      | [] => []
      | below :: rest' =>
        if table.goto below lhs = 0 then []
        else (lhs, count, production) ::
          simulatedReductions table symbol fuel (table.goto below lhs :: below :: rest')
    | _ => []

namespace ParseM

variable {ctx : ParseContext} {s s' : RunState}

/-- A push fails only because the stack is full. -/
theorem push_error {state : Nat} {t : Subtree} {e : ParseError}
    (h : (push state t).exec ctx s = some (.error e)) : e = .resourceExhausted s.stack.maxDepth := by
  unfold push at h
  by_cases hfull : s.stack.depth ≥ s.stack.maxDepth
  · simpa [exec_bind, Stack.push, hfull, eq_comm] using h
  · simp [exec_bind, Stack.push, hfull] at h

theorem push_ne_none (state : Nat) (t : Subtree) : (push state t).exec ctx s ≠ none := by
  unfold push
  by_cases hfull : s.stack.depth ≥ s.stack.maxDepth <;> simp [exec_bind, Stack.push, hfull]

/-- Pushing a list of subtrees fails only because the stack is full. -/
theorem forIn_push_error {state : Nat} {e : ParseError} : ∀ {l : List Subtree} {s : RunState},
    (forIn l PUnit.unit fun x _ => do
        push state x
        pure (ForInStep.yield PUnit.unit) : ParseM PUnit).exec ctx s = some (.error e) →
      ∃ m, e = .resourceExhausted m
  | [], s, h => by simp at h
  | x :: l, s, h => by
    rw [List.forIn_cons, exec_bind, exec_bind] at h
    rcases hpush : (push state x).exec ctx s with _ | (e' | ⟨u, s₁⟩)
    · simp [hpush] at h
    · simp only [hpush, Option.some.injEq, Except.error.injEq] at h
      exact ⟨_, h ▸ push_error hpush⟩
    · simp only [hpush, exec_pure] at h
      exact forIn_push_error h

theorem forIn_push_ne_none (state : Nat) : ∀ (l : List Subtree) (s : RunState),
    (forIn l PUnit.unit fun x _ => do
        push state x
        pure (ForInStep.yield PUnit.unit) : ParseM PUnit).exec ctx s ≠ none
  | [], s => by simp
  | x :: l, s => by
    rw [List.forIn_cons, exec_bind, exec_bind]
    rcases hpush : (push state x).exec ctx s with _ | (e' | ⟨u, s₁⟩)
    · exact absurd hpush (push_ne_none state x)
    · simp
    · simp only [exec_pure]
      exact forIn_push_ne_none state l s₁

/-- A reduction fails only because the reductions since the last shift, or the stack,
    ran out of room. -/
theorem reduce_error {symbol count production : Nat} {la : Subtree} {e : ParseError}
    (h : (reduce symbol count production la).exec ctx s = some (.error e)) :
    ∃ m, e = .resourceExhausted m := by
  unfold reduce at h
  simp only [exec_bind, exec_read, exec_get, exec_set] at h
  split at h
  · simp only [exec_bind, exec_throw, Option.some.injEq, Except.error.injEq] at h
    exact ⟨_, h.symm⟩
  · simp only [exec_bind, withStack, exec_modifyGet, exec_get, exec_fresh, exec_name,
      exec_say] at h
    split at h
    · split at h
      · simp at h
      · next heq =>
        cases h
        exact forIn_push_error heq
      · cases h
    · next heq =>
      cases h
      exact ⟨_, push_error heq⟩
    · cases h

theorem reduce_ne_none (symbol count production : Nat) (la : Subtree) :
    (reduce symbol count production la).exec ctx s ≠ none := by
  unfold reduce
  simp only [exec_bind, exec_read, exec_get, exec_set]
  split
  · simp [exec_bind]
  · simp only [exec_bind, withStack, exec_modifyGet, exec_get, exec_fresh, exec_name, exec_say]
    split
    · split
      · simp
      · simp
      · next heq => exact absurd heq (forIn_push_ne_none _ _ _)
    · simp
    · next heq => exact absurd heq (push_ne_none _ _)

/-- A shift fails only because the stack is full. -/
theorem shift_error {state : Nat} {la : Lookahead} {extra : Bool} {e : ParseError}
    (h : (shift state la extra).exec ctx s = some (.error e)) :
    ∃ m, e = .resourceExhausted m := by
  unfold shift at h
  simp only [exec_bind, exec_fresh] at h
  split at h
  all_goals
    simp only [exec_bind, exec_modify, exec_say] at h
    split at h
    · split at h <;> simp [moveReuse] at h
    · next heq =>
      cases h
      exact ⟨_, push_error heq⟩
    · cases h

theorem shift_ne_none (state : Nat) (la : Lookahead) (extra : Bool) :
    (shift state la extra).exec ctx s ≠ none := by
  unfold shift
  simp only [exec_bind, exec_fresh]
  split
  all_goals
    simp only [exec_bind, exec_modify, exec_say]
    split
    · split <;> simp [moveReuse]
    · simp
    · next heq => exact absurd heq (push_ne_none _ _)

/-- Accepting always returns. -/
theorem accept_ok (ctx : ParseContext) (s : RunState) :
    ∃ root s', accept.exec ctx s = some (.ok (root, s')) := by
  unfold accept
  simp [exec_bind, withStack, Except.map]

/-- A reduction that the kept states allow keeps extras in place, and leaves the goto of
    the state it uncovers above that state. -/
theorem reduce_keeps {symbol count production below : Nat} {rest : List Nat} {la : Subtree}
    (hinv : ExtrasKeepState s.stack.entries) (hpop : s.stack.states.drop count = below :: rest)
    (h : (reduce symbol count production la).exec ctx s = some (.ok ((), s'))) :
    ExtrasKeepState s'.stack.entries ∧
      s'.stack.states = ctx.table.goto below symbol :: below :: rest := by
  obtain ⟨-, -, -, k, hstack⟩ := exec_reduce h
  obtain ⟨es, pos, height, hentries, hview⟩ := Stack.pushed_pushAll_entries _ _ _ _
  rw [← hstack] at hentries
  have hlen : count < (entryStates s.stack.entries).length := by
    rw [← Stack.states_eq]
    by_contra hle
    rw [List.drop_eq_nil_of_le (Nat.le_of_not_lt hle)] at hpop
    cases hpop
  obtain ⟨hkeep, hstates⟩ : ExtrasKeepState (Stack.popFrom count [] s.stack.entries).2 ∧
      entryStates (Stack.popFrom count [] s.stack.entries).2 =
        (entryStates s.stack.entries).drop count :=
    hinv.popFrom hlen
  have hpopped : (s.stack.popCount count).2.entries = (Stack.popFrom count [] s.stack.entries).2 :=
    rfl
  -- the state uncovered is the first one kept below the popped ones
  have htop : (s.stack.popCount count).2.state = below := by
    obtain ⟨r, hr⟩ := hkeep.entryStates_eq
    rw [hstates, ← Stack.states_eq, hpop] at hr
    rw [Stack.state_eq_topState, hpopped]
    exact (List.cons.inj hr).1.symm
  rw [htop, hpopped] at hentries
  rw [htop] at hview
  have hnode : ExtrasKeepState (⟨ctx.table.goto below symbol,
      some ((Subtree.node ctx.table s.nextId symbol (splitTrailingExtras (s.stack.popCount count).1).1
        production below).extendLookahead k), pos, height⟩ ::
      (Stack.popFrom count [] s.stack.entries).2) :=
    hkeep.cons rfl (by simp)
  obtain ⟨hkeep', hstates'⟩ := ExtrasKeepState.push_extras _ hnode
    (splitTrailingExtras_snd_extra _) hview
  rw [Stack.states_eq, hentries]
  refine ⟨hkeep', ?_⟩
  rw [hstates', entryStates_cons_some rfl, if_neg (by simp), hstates, ← Stack.states_eq, hpop]

/-- Shifting a leaf keeps extras in place; it keeps the kept states when the leaf is an
    extra, shifted in the top state, and otherwise adds the state it is shifted into. -/
theorem shift_keeps {q next : Nat} {la : Lookahead} {extra : Bool} {u : Unit}
    (hinv : ExtrasKeepState s.stack.entries) (hq : s.stack.state = q)
    (hleaf : la.tree.childCount = 0)
    (h : (shift (if extra then q else next) la extra).exec ctx s = some (.ok (u, s'))) :
    ExtrasKeepState s'.stack.entries ∧
      s'.stack.states = (if extra then s.stack.states else next :: s.stack.states) ∧
      s'.stack.topSubtree = some (la.tree.withExtra extra s.nextId) := by
  obtain ⟨hstack, -, -, -⟩ := exec_shift h
  have hentries := congrArg Stack.entries hstack
  rw [Stack.pushed_entries, if_pos hleaf] at hentries
  refine ⟨?_, ?_, by simp [Stack.topSubtree, hentries]⟩
  · rw [hentries]
    refine hinv.cons rfl fun hextra => ?_
    rw [Subtree.withExtra_isExtra] at hextra
    rw [if_pos hextra, ← hq, Stack.state_eq_topState]
  · rw [Stack.states_eq, hentries, entryStates_cons_some rfl, Subtree.withExtra_isExtra, ← Stack.states_eq]
    cases extra <;> rfl

/-- With a reduction for the lookahead in the top state, feeding it reduces and feeds it
    again. -/
theorem advance_of_reduce {k q symbol count production : Nat} {la : Lookahead}
    (hq : s.stack.state = q)
    (hact : ctx.table.action? q la.tree.leafSymbol = some (.reduce symbol count production)) :
    advanceWithin (k + 1) la ctx s =
      (reduce symbol count production la.tree >>= fun _ =>
        (advanceWithin k la : ParseM _)).exec ctx s := by
  change ParseM.exec (advanceWithin (k + 1) la) ctx s = _
  conv_lhs => rw [advanceWithin.eq_2]
  simp only [exec_bind, exec_read, exec_get, hq, hact]

/-- With a shift for a leaf in the top state, feeding it shifts it, in place when it is
    an extra. -/
theorem advance_of_shiftLeaf {k q next : Nat} {extra : Bool} {la : Lookahead}
    (hq : s.stack.state = q) (hact : ctx.table.action? q la.tree.leafSymbol = some (.shift next extra))
    (hleaf : la.tree.childCount = 0) :
    advanceWithin (k + 1) la ctx s =
      (shift (if extra then q else next) la extra >>= fun _ => pure none).exec ctx s := by
  change ParseM.exec (advanceWithin (k + 1) la) ctx s = _
  rw [advanceWithin.eq_2]
  cases extra <;> simp [exec_bind, hq, hact, hleaf]

/-- With an accept for the lookahead in the top state, feeding it accepts. -/
theorem advance_of_accept {k q : Nat} {la : Lookahead} (hq : s.stack.state = q)
    (hact : ctx.table.action? q la.tree.leafSymbol = some .accept) :
    advanceWithin (k + 1) la ctx s = (some <$> accept).exec ctx s := by
  change ParseM.exec (advanceWithin (k + 1) la) ctx s = _
  rw [advanceWithin.eq_2]
  simp only [exec_bind, exec_read, exec_get, hq, hact]

/-- The bound on nested feeds leaves room for the reduction limit and one more feed. -/
theorem two_le_loopLimit : 2 ≤ loopLimit := by decide

/-- Makes the reductions of a list one after another, each before the lookahead `la`. -/
def reduceAll (la : Subtree) (reductions : List (Nat × Nat × Nat)) : ParseM Unit :=
  reductions.forM fun r => reduce r.1 r.2.1 r.2.2 la

@[simp] theorem reduceAll_nil (la : Subtree) : reduceAll la [] = pure () := rfl

theorem reduceAll_cons (la : Subtree) (r : Nat × Nat × Nat) (rs : List (Nat × Nat × Nat)) :
    reduceAll la (r :: rs) = (reduce r.1 r.2.1 r.2.2 la >>= fun _ => reduceAll la rs) := rfl

/-- One reduction of the simulation, made by feeding the lookahead too: when feeding it
    from every state the reduction can leave makes the remaining reductions and then
    `last`, running out of room or ending well, so does feeding it from before the
    reduction, with the reduction first. -/
theorem advance_of_reduction {k q A n f below : Nat} {rest : List Nat} {la : Lookahead}
    {reductions : List (Nat × Nat × Nat)} {last : ParseM (Option Subtree)}
    {ends : Option Subtree → RunState → Prop}
    (hinv : ExtrasKeepState s.stack.entries) (hq : s.stack.state = q)
    (hact : ctx.table.action? q la.tree.leafSymbol = some (.reduce A n f))
    (hpop : s.stack.states.drop n = below :: rest)
    (hnext : ∀ s₁ : RunState, ExtrasKeepState s₁.stack.entries →
      s₁.stack.states = ctx.table.goto below A :: below :: rest →
      advanceWithin k la ctx s₁ = (reduceAll la.tree reductions >>= fun _ => last).exec ctx s₁ ∧
        ((∃ m, advanceWithin k la ctx s₁ = some (.error (.resourceExhausted m))) ∨
          ∃ r s', advanceWithin k la ctx s₁ = some (.ok (r, s')) ∧ ends r s')) :
    advanceWithin (k + 1) la ctx s = (reduceAll la.tree ((A, n, f) :: reductions) >>= fun _ => last).exec ctx s ∧
      ((∃ m, advanceWithin (k + 1) la ctx s = some (.error (.resourceExhausted m))) ∨
        ∃ r s', advanceWithin (k + 1) la ctx s = some (.ok (r, s')) ∧ ends r s') := by
  rw [reduceAll_cons, bind_assoc]
  rcases hred : (reduce A n f la.tree).exec ctx s with _ | (e | ⟨u, s₁⟩)
  · exact absurd hred (reduce_ne_none _ _ _ _)
  · obtain ⟨m, rfl⟩ := reduce_error hred
    have hstep : advanceWithin (k + 1) la ctx s = some (.error (.resourceExhausted m)) := by
      rw [advance_of_reduce hq hact, exec_bind, hred]
    refine ⟨?_, .inl ⟨m, hstep⟩⟩
    rw [hstep, exec_bind, hred]
  · obtain ⟨hkeep₁, hstates₁⟩ := reduce_keeps hinv hpop hred
    have hstep : advanceWithin (k + 1) la ctx s = advanceWithin k la ctx s₁ := by
      rw [advance_of_reduce hq hact, exec_bind, hred]
      rfl
    obtain ⟨heq, hout⟩ := hnext s₁ hkeep₁ hstates₁
    rw [hstep]
    refine ⟨?_, hout⟩
    rw [heq]
    conv_rhs => rw [exec_bind, hred]

/-- Where the simulation shifts a leaf, feeding it makes the simulated reductions and
    shifts it as the simulation does; it runs out of room, or ends with the simulated
    states and the leaf on top. The induction follows the simulation's reductions; each
    keeps extras in place, so the top state is the first one the simulation keeps. -/
theorem advance_of_shifted {la : Lookahead} (hleaf : la.tree.childCount = 0) :
    ∀ (fuel k : Nat) {s : RunState} {extra : Bool} {σ' : List Nat},
      fuel ≤ k → ExtrasKeepState s.stack.entries →
      simulateToken ctx.table la.tree.leafSymbol fuel s.stack.states = (.shifted extra, σ') →
      advanceWithin k la ctx s = (do
          reduceAll la.tree (simulatedReductions ctx.table la.tree.leafSymbol fuel s.stack.states)
          shift (σ'.headD 0) la extra
          pure none).exec ctx s ∧
        ((∃ m, advanceWithin k la ctx s = some (.error (.resourceExhausted m))) ∨
          ∃ r s', advanceWithin k la ctx s = some (.ok (r, s')) ∧ r = none ∧
            ExtrasKeepState s'.stack.entries ∧ s'.stack.states = σ' ∧
            ∃ id, s'.stack.topSubtree = some (la.tree.withExtra extra id))
  | 0, k, s, extra, σ', _, _, hsim => by simp [simulateToken] at hsim
  | fuel + 1, k, s, extra, σ', hk, hinv, hsim => by
    -- the simulation's reductions each take one step of the fuel
    obtain ⟨k, rfl⟩ : ∃ k', k = k' + 1 := ⟨k - 1, by omega⟩
    obtain ⟨r, hr⟩ := hinv.entryStates_eq
    have hq : s.stack.state = topState s.stack.entries := Stack.state_eq_topState _
    rw [Stack.states_eq, hr] at hsim ⊢
    simp only [simulateToken] at hsim
    split at hsim
    · -- the shift: no reduction, and the leaf goes into the state the simulation pushes
      next next extra' hact =>
      simp only [Prod.mk.injEq, SimStep.shifted.injEq] at hsim
      obtain ⟨hextra, rfl⟩ := hsim
      have hextra' := hextra.symm
      subst hextra'
      have hreds : simulatedReductions ctx.table la.tree.leafSymbol (fuel + 1)
          (topState s.stack.entries :: r) = [] := by
        simp [simulatedReductions, hact]
      have hhead : (if extra then topState s.stack.entries :: r
          else next :: topState s.stack.entries :: r).headD 0 =
          if extra then topState s.stack.entries else next := by
        cases extra <;> rfl
      rw [hreds, hhead, advance_of_shiftLeaf hq hact hleaf]
      refine ⟨by simp, ?_⟩
      rcases hshift : (shift (if extra then topState s.stack.entries else next) la extra).exec
          ctx s with _ | (e | ⟨u, s'⟩)
      · exact absurd hshift (shift_ne_none _ _ _)
      · obtain ⟨m, rfl⟩ := shift_error hshift
        exact .inl ⟨m, by rw [exec_bind, hshift]⟩
      · obtain ⟨hkeep, hstates, htop⟩ := shift_keeps hinv hq hleaf hshift
        refine .inr ⟨none, s', by rw [exec_bind, hshift]; rfl, rfl, hkeep, ?_, _, htop⟩
        rw [hstates, Stack.states_eq, hr]
    · -- a reduction the simulation makes too, after which both go on
      next A n f hact =>
      split at hsim
      · simp at hsim
      · next below rest hpop =>
        split at hsim
        · simp at hsim
        · next hgoto =>
          have hreds : simulatedReductions ctx.table la.tree.leafSymbol (fuel + 1)
              (topState s.stack.entries :: r) = (A, n, f) :: simulatedReductions ctx.table
                la.tree.leafSymbol fuel (ctx.table.goto below A :: below :: rest) := by
            simp [simulatedReductions, hact, hpop, hgoto]
          rw [hreds]
          refine advance_of_reduction hinv hq hact (by rw [Stack.states_eq, hr]; exact hpop)
            fun s₁ hkeep₁ hstates₁ => ?_
          rw [← hstates₁] at hsim ⊢
          exact advance_of_shifted hleaf fuel k (by omega) hkeep₁ hsim
    · simp at hsim
    · simp at hsim

/-- Where the simulation accepts, feeding the lookahead makes the simulated reductions and
    accepts from the simulated states, unless it runs out of room first. -/
theorem advance_of_accepted {la : Lookahead} :
    ∀ (fuel k : Nat) {s : RunState} {σ' : List Nat},
      fuel ≤ k → ExtrasKeepState s.stack.entries →
      simulateToken ctx.table la.tree.leafSymbol fuel s.stack.states = (.accepted, σ') →
      advanceWithin k la ctx s = (do
          reduceAll la.tree (simulatedReductions ctx.table la.tree.leafSymbol fuel s.stack.states)
          some <$> accept).exec ctx s ∧
        ((∃ m, advanceWithin k la ctx s = some (.error (.resourceExhausted m))) ∨
          ∃ r s', advanceWithin k la ctx s = some (.ok (r, s')) ∧
            ∃ root s₁, r = some root ∧ s₁.stack.states = σ' ∧
              accept.exec ctx s₁ = some (.ok (root, s')))
  | 0, k, s, σ', _, _, hsim => by simp [simulateToken] at hsim
  | fuel + 1, k, s, σ', hk, hinv, hsim => by
    obtain ⟨k, rfl⟩ : ∃ k', k = k' + 1 := ⟨k - 1, by omega⟩
    obtain ⟨r, hr⟩ := hinv.entryStates_eq
    have hq : s.stack.state = topState s.stack.entries := Stack.state_eq_topState _
    rw [Stack.states_eq, hr] at hsim ⊢
    simp only [simulateToken] at hsim
    split at hsim
    · simp at hsim
    · -- a reduction the simulation makes too, after which both go on
      next A n f hact =>
      split at hsim
      · simp at hsim
      · next below rest hpop =>
        split at hsim
        · simp at hsim
        · next hgoto =>
          have hreds : simulatedReductions ctx.table la.tree.leafSymbol (fuel + 1)
              (topState s.stack.entries :: r) = (A, n, f) :: simulatedReductions ctx.table
                la.tree.leafSymbol fuel (ctx.table.goto below A :: below :: rest) := by
            simp [simulatedReductions, hact, hpop, hgoto]
          rw [hreds]
          refine advance_of_reduction hinv hq hact (by rw [Stack.states_eq, hr]; exact hpop)
            fun s₁ hkeep₁ hstates₁ => ?_
          rw [← hstates₁] at hsim ⊢
          exact advance_of_accepted fuel k (by omega) hkeep₁ hsim
    · -- the acceptance, in the state the simulation ends in
      next hact =>
      simp only [Prod.mk.injEq] at hsim
      obtain ⟨-, rfl⟩ := hsim
      have hreds : simulatedReductions ctx.table la.tree.leafSymbol (fuel + 1)
          (topState s.stack.entries :: r) = [] := by
        simp [simulatedReductions, hact]
      rw [hreds, advance_of_accept hq hact]
      refine ⟨by simp, .inr ?_⟩
      obtain ⟨root, s', haccept⟩ := accept_ok ctx s
      refine ⟨some root, s', by rw [exec_map, haccept]; rfl, root, s, rfl, ?_, haccept⟩
      rw [Stack.states_eq, hr]
    · simp at hsim

/-- Feeding a lookahead follows the simulation of its symbol on the states of the stack.
    Where the simulation shifts a leaf, feeding the leaf makes the simulated reductions and
    shifts the leaf into the state the simulation pushes, or in place as an extra when
    the simulation says so; unless it runs out of room, it returns nothing, with the
    simulated states kept and the leaf on top. Where the simulation accepts, feeding the
    lookahead makes the simulated reductions and accepts from the simulated states,
    unless it runs out of room. -/
theorem advance_follows_simulation {la : Lookahead} (hinv : ExtrasKeepState s.stack.entries) :
    (∀ (extra : Bool) (σ' : List Nat), la.tree.childCount = 0 →
      ctx.feed s.stack.states la.tree.leafSymbol = (.shifted extra, σ') →
      advance la ctx s = (do
          reduceAll la.tree (simulatedReductions ctx.table la.tree.leafSymbol
            (ctx.options.maxStackDepth + 1) s.stack.states)
          shift (σ'.headD 0) la extra
          pure none).exec ctx s ∧
        ((∃ m, advance la ctx s = some (.error (.resourceExhausted m))) ∨
          ∃ r s', advance la ctx s = some (.ok (r, s')) ∧ r = none ∧
            ExtrasKeepState s'.stack.entries ∧ s'.stack.states = σ' ∧
            ∃ id, s'.stack.topSubtree = some (la.tree.withExtra extra id))) ∧
    ∀ σ' : List Nat, ctx.feed s.stack.states la.tree.leafSymbol = (.accepted, σ') →
      advance la ctx s = (do
          reduceAll la.tree (simulatedReductions ctx.table la.tree.leafSymbol
            (ctx.options.maxStackDepth + 1) s.stack.states)
          some <$> accept).exec ctx s ∧
        ((∃ m, advance la ctx s = some (.error (.resourceExhausted m))) ∨
          ∃ r s', advance la ctx s = some (.ok (r, s')) ∧
            ∃ root s₁, r = some root ∧ s₁.stack.states = σ' ∧
              accept.exec ctx s₁ = some (.ok (root, s'))) :=
  -- `advance` has fuel for the reduction limit and more
  have hk : ctx.options.maxStackDepth + 1 ≤ ctx.options.maxStackDepth + loopLimit :=
    Nat.add_le_add_left (Nat.le_of_succ_le two_le_loopLimit) _
  ⟨fun _ _ hleaf hsim => advance_of_shifted hleaf _ _ hk hinv hsim,
    fun _ hsim => advance_of_accepted _ _ hk hinv hsim⟩

end ParseM

end IncrementalLR
