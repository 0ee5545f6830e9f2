import IncrementalLR.Parse.Run

/-!
# Runs of the parse loop

`ParseM.advance` and `runLoop` run within a bound on their steps: a run that does not end
within it has no value.
-/

namespace IncrementalLR

namespace ParseM

variable {α β : Type} {ctx : ParseContext} {s s' : RunState}

/-- Running a step only unwraps the layers of the monad. -/
theorem exec_eq_apply (x : ParseM α) : x.exec ctx s = x ctx s := rfl

@[simp] theorem exec_pure (a : α) : (pure a : ParseM α).exec ctx s = some (.ok (a, s)) := rfl

theorem exec_bind (x : ParseM α) (f : α → ParseM β) :
    (x >>= f).exec ctx s =
      match x.exec ctx s with
      | some (.ok (a, s')) => (f a).exec ctx s'
      | some (.error e) => some (.error e)
      | none => none := by
  simp only [exec, ReaderT.run_bind, StateT.run_bind, ExceptT.run_bind]
  rcases ((x.run ctx).run s).run with _ | (e | ⟨a, s'⟩) <;> rfl

/-- A sequence returns exactly when its first part returns and the rest returns from
    where the first part left off. -/
theorem exec_bind_eq_ok {x : ParseM α} {f : α → ParseM β} {b : β} :
    (x >>= f).exec ctx s = some (.ok (b, s')) ↔
      ∃ a s₁, x.exec ctx s = some (.ok (a, s₁)) ∧ (f a).exec ctx s₁ = some (.ok (b, s')) := by
  rw [exec_bind]
  constructor
  · intro h
    split at h
    · exact ⟨_, _, ‹_›, h⟩
    · cases h
    · cases h
  · rintro ⟨a, s₁, hx, hf⟩
    rw [hx]
    exact hf

@[simp] theorem exec_get : (get : ParseM RunState).exec ctx s = some (.ok (s, s)) := rfl

@[simp] theorem exec_read : (read : ParseM ParseContext).exec ctx s = some (.ok (ctx, s)) := rfl

@[simp] theorem exec_set (t : RunState) :
    (set t : ParseM PUnit).exec ctx s = some (.ok (⟨⟩, t)) := rfl

@[simp] theorem exec_modify (f : RunState → RunState) :
    (modify f : ParseM PUnit).exec ctx s = some (.ok (⟨⟩, f s)) := rfl

@[simp] theorem exec_modifyGet (f : RunState → α × RunState) :
    (modifyGet f : ParseM α).exec ctx s = some (.ok ((f s).1, (f s).2)) := rfl

@[simp] theorem exec_throw (e : ParseError) :
    (throw e : ParseM α).exec ctx s = some (.error e) := rfl

@[simp] theorem exec_lift (x : Option α) :
    (lift x).exec ctx s = x.map fun a => .ok (a, s) := by
  cases x <;> rfl

@[simp] theorem exec_map (f : α → β) (x : ParseM α) :
    (f <$> x).exec ctx s = (x.exec ctx s).map (fun r => r.map fun (a, t) => (f a, t)) := by
  simp only [exec, ReaderT.run_map, StateT.run_map, ExceptT.run_map]
  rcases ((x.run ctx).run s).run with _ | (e | ⟨a, s'⟩) <;> rfl

@[simp] theorem exec_say (kind : LogKind) (message : Unit → String) :
    (say kind message).exec ctx s =
      some (.ok ((), { s with
        log := if ctx.logging then s.log.push ⟨kind, message ()⟩ else s.log })) := by
  unfold say
  simp only [exec_bind, exec_read]
  split <;> simp_all

@[simp] theorem exec_name (symbol : Nat) :
    (name symbol).exec ctx s = some (.ok (escapeText (ctx.table.symbolName symbol), s)) := rfl

@[simp] theorem exec_fresh :
    fresh.exec ctx s = some (.ok (s.nextId, { s with nextId := s.nextId + 1 })) := rfl

@[simp] theorem exec_clearRepair :
    clearRepair.exec ctx s = some (.ok ((), { s with repairEnd := 0 })) := rfl

/-- A pure answer that was returned is the answer, in the state it started from. -/
theorem exec_pure_eq_ok {a b : α} :
    (pure a : ParseM α).exec ctx s = some (.ok (b, s')) ↔ a = b ∧ s = s' := by
  simp

/-- Reading the state returns it and leaves it as it was. -/
theorem exec_get_eq_ok {d : RunState} :
    (get : ParseM RunState).exec ctx s = some (.ok (d, s')) ↔ s = d ∧ s = s' := by
  simp

end ParseM

open ParseM

/-- The table has no shift, reduction or accept for the lookahead in the state. -/
def NoAction (table : ParseTable) (state symbol : Nat) : Prop :=
  table.action? state symbol = none ∨ table.action? state symbol = some .recover

mutual
/-- The finished runs of `ParseM.advance`: feeding lookahead `la` from state `s` returns
    `r` in state `s'`. There is a constructor for each action the table can take and for
    each way recovery can go; the states in between are those of the steps taken. -/
inductive AdvanceRun (ctx : ParseContext) : Lookahead → RunState → Option Subtree → RunState → Prop
  /-- A reused node whose symbol has a goto in the state it was built in is shifted. -/
  | shiftNode {la : Lookahead} {s s' : RunState} {next : Nat} :
      ctx.table.action? s.stack.state la.tree.leafSymbol = some (.shift next false) →
      0 < la.tree.childCount → la.tree.parseState = s.stack.state →
      ctx.table.goto s.stack.state la.tree.symbol ≠ 0 →
      (shift (ctx.table.goto s.stack.state la.tree.symbol) la false).exec ctx s =
        some (.ok ((), s')) →
      AdvanceRun ctx la s none s'
  /-- Any other reused node is broken down to a part that is fed instead. -/
  | breakdownTree {la : Lookahead} {s s₁ s' : RunState} {r : Option Subtree} {tree : Subtree}
      {next : Nat} {extra : Bool} :
      ctx.table.action? s.stack.state la.tree.leafSymbol = some (.shift next extra) →
      0 < la.tree.childCount →
      (extra = true ∨ la.tree.parseState ≠ s.stack.state ∨
        ctx.table.goto s.stack.state la.tree.symbol = 0) →
      (breakdown s.stack.state).exec ctx s = some (.ok (some tree, s₁)) →
      AdvanceRun ctx { la with tree } s₁ r s' → AdvanceRun ctx la s r s'
  /-- A breakdown that finds nothing falls back to a fresh token. -/
  | breakdownRelex {la la' : Lookahead} {s s₁ s₂ s' : RunState} {r : Option Subtree}
      {next : Nat} {extra : Bool} :
      ctx.table.action? s.stack.state la.tree.leafSymbol = some (.shift next extra) →
      0 < la.tree.childCount →
      (extra = true ∨ la.tree.parseState ≠ s.stack.state ∨
        ctx.table.goto s.stack.state la.tree.symbol = 0) →
      (breakdown s.stack.state).exec ctx s = some (.ok (none, s₁)) →
      (relex s.stack.state).exec ctx s₁ = some (.ok (la', s₂)) →
      AdvanceRun ctx la' s₂ r s' → AdvanceRun ctx la s r s'
  /-- A leaf is shifted, as an extra in place or into the shift's target. -/
  | shiftLeaf {la : Lookahead} {s s' : RunState} {next : Nat} {extra : Bool} :
      ctx.table.action? s.stack.state la.tree.leafSymbol = some (.shift next extra) →
      la.tree.childCount = 0 →
      (shift (if extra then s.stack.state else next) la extra).exec ctx s =
        some (.ok ((), s')) →
      AdvanceRun ctx la s none s'
  /-- A reduction, after which the same lookahead is fed again. -/
  | reduce {la : Lookahead} {s s₁ s' : RunState} {r : Option Subtree}
      {symbol count production : Nat} :
      ctx.table.action? s.stack.state la.tree.leafSymbol =
        some (.reduce symbol count production) →
      (ParseM.reduce symbol count production la.tree).exec ctx s = some (.ok ((), s₁)) →
      AdvanceRun ctx la s₁ r s' → AdvanceRun ctx la s r s'
  | accept {la : Lookahead} {s s' : RunState} {root : Subtree} :
      ctx.table.action? s.stack.state la.tree.leafSymbol = some .accept →
      ParseM.accept.exec ctx s = some (.ok (root, s')) →
      AdvanceRun ctx la s (some root) s'
  /-- A reused lookahead without an action is replaced by a fresh token. -/
  | relexReused {la la' : Lookahead} {s s₁ s' : RunState} {r : Option Subtree} :
      NoAction ctx.table s.stack.state la.tree.leafSymbol → la.reused = true →
      (relex s.stack.state).exec ctx s = some (.ok (la', s₁)) →
      AdvanceRun ctx la' s₁ r s' → AdvanceRun ctx la s r s'
  /-- An error token is skipped at once; `l` is the log after the error was noted. -/
  | skipError {la : Lookahead} {s s' : RunState} {l : Array LogLine} :
      NoAction ctx.table s.stack.state la.tree.leafSymbol → la.reused = false →
      la.tree.isError = true →
      (skipToken la.tree).exec ctx { s with log := l } = some (.ok ((), s')) →
      AdvanceRun ctx la s none s'
  /-- Recovery assumes a missing token, feeds it, then feeds the lookahead again. -/
  | insert {la m : Lookahead} {s s₂ s₃ s₄ s' : RunState} {r r₁ : Option Subtree}
      {l : Array LogLine} {symbol examined : Nat} :
      NoAction ctx.table s.stack.state la.tree.leafSymbol → la.reused = false →
      la.tree.isError = false →
      (chooseFor la.tree (Nat.max ctx.options.recoveryWindow 1)).exec ctx { s with log := l } =
        some (.ok ((some (.insert symbol), examined), s₂)) →
      (missing symbol examined).exec ctx s₂ = some (.ok (m, s₃)) →
      AdvanceRun ctx m s₃ r₁ s₄ →
      AdvanceRun ctx ⟨la.tree, false⟩ { s₄ with repairEnd := 0 } r s' →
      AdvanceRun ctx la s r s'
  /-- Recovery skips the lookahead. -/
  | delete {la : Lookahead} {s s₂ s' : RunState} {l : Array LogLine} {examined : Nat} :
      NoAction ctx.table s.stack.state la.tree.leafSymbol → la.reused = false →
      la.tree.isError = false →
      (chooseFor la.tree (Nat.max ctx.options.recoveryWindow 1)).exec ctx { s with log := l } =
        some (.ok ((some .delete, examined), s₂)) →
      (skipToken la.tree).exec ctx s₂ = some (.ok ((), s')) →
      AdvanceRun ctx la s none s'
  /-- At the end, a run of missing tokens completes the parse before the end is fed. -/
  | complete {la : Lookahead} {s s₂ s₃ s' : RunState} {r : Option Subtree} {l : Array LogLine}
      {examined : Nat} {path : List Nat} :
      NoAction ctx.table s.stack.state la.tree.leafSymbol → la.reused = false →
      la.tree.isError = false →
      (chooseFor la.tree (Nat.max ctx.options.recoveryWindow 1)).exec ctx { s with log := l } =
        some (.ok ((none, examined), s₂)) →
      ctx.shortestCompletion s.stack.states (Nat.max ctx.options.recoveryWindow 1) = some path →
      InsertsRun ctx (s₂.stack.position.bytes + la.tree.firstLeafEnd) path s₂ s₃ →
      AdvanceRun ctx ⟨la.tree, false⟩ s₃ r s' →
      AdvanceRun ctx la s r s'
  /-- At the end with no completion, everything parsed becomes an error root. -/
  | recoverEof {la : Lookahead} {s s₂ : RunState} {l l' : Array LogLine} {examined : Nat} :
      NoAction ctx.table s.stack.state la.tree.leafSymbol → la.reused = false →
      la.tree.isError = false →
      (chooseFor la.tree (Nat.max ctx.options.recoveryWindow 1)).exec ctx { s with log := l } =
        some (.ok ((none, examined), s₂)) →
      ctx.shortestCompletion s.stack.states (Nat.max ctx.options.recoveryWindow 1) = none →
      AdvanceRun ctx la s
        (some (Subtree.root ctx.table s₂.nextId errorSymbol 0 s₂.stack.popAll.1 ctx.total))
        { s₂ with log := l', stack := s₂.stack.popAll.2, nextId := s₂.nextId + 1 }

/-- The finished runs of feeding the missing tokens `path` one after another, each made
    with examined end `examinedEnd`. -/
inductive InsertsRun (ctx : ParseContext) : Nat → List Nat → RunState → RunState → Prop
  | nil {examinedEnd : Nat} {s : RunState} : InsertsRun ctx examinedEnd [] s s
  | cons {examinedEnd symbol : Nat} {rest : List Nat} {s s₁ s₂ s' : RunState} {m : Lookahead}
      {r : Option Subtree} :
      (missing symbol examinedEnd).exec ctx s = some (.ok (m, s₁)) →
      AdvanceRun ctx m s₁ r s₂ →
      InsertsRun ctx examinedEnd rest { s₂ with repairEnd := 0 } s' →
      InsertsRun ctx examinedEnd (symbol :: rest) s s'
end

variable {ctx : ParseContext}

/-- The loop over missing tokens runs as `InsertsRun` says, for any feeding function
    whose finished runs are `AdvanceRun`s. -/
theorem InsertsRun.of_exec {f : Lookahead → ParseM (Option Subtree)}
    (hf : ∀ {la s r s'}, (f la).exec ctx s = some (.ok (r, s')) → AdvanceRun ctx la s r s')
    (examinedEnd : Nat) : ∀ {path : List Nat} {s s' : RunState},
    (path.forM fun symbol => do
      let m ← missing symbol examinedEnd
      let _ ← f m
      clearRepair).exec ctx s = some (.ok ((), s')) → InsertsRun ctx examinedEnd path s s'
  | [], s, s', h => by
    simp only [List.forM, exec_pure, Option.some.injEq, Except.ok.injEq, Prod.mk.injEq,
      true_and] at h
    subst h
    exact .nil
  | symbol :: rest, s, s', h => by
    simp only [List.forM] at h
    obtain ⟨u, s₃, hstep, h⟩ := exec_bind_eq_ok.1 h
    obtain ⟨m, s₁, hm, hstep⟩ := exec_bind_eq_ok.1 hstep
    obtain ⟨r, s₂, hadv, hclear⟩ := exec_bind_eq_ok.1 hstep
    simp only [exec_clearRepair, Option.some.injEq, Except.ok.injEq, Prod.mk.injEq] at hclear
    obtain ⟨-, rfl⟩ := hclear
    exact .cons hm (hf hadv) (InsertsRun.of_exec hf examinedEnd h)

/-- Every finished run of `advanceWithin` is an `AdvanceRun`. The induction is on the
    fuel; each step goes through the definition's branches once, in order: shift, reduce,
    accept, and the branches of recovery. -/
theorem AdvanceRun.of_advanceWithin (fuel : Nat) {la : Lookahead} {s s' : RunState}
    {r : Option Subtree} (h : advanceWithin fuel la ctx s = some (.ok (r, s'))) :
    AdvanceRun ctx la s r s' := by
  induction fuel generalizing la s s' r with
  | zero => simp [advanceWithin] at h
  | succ fuel ih =>
  have hf : ∀ {la s r s'}, ParseM.exec (advanceWithin fuel la) ctx s = some (.ok (r, s')) →
      AdvanceRun ctx la s r s' := fun h => ih h
  rw [advanceWithin.eq_2] at h
  change ParseM.exec _ ctx s = _ at h
  simp only [exec_bind, exec_read, exec_get] at h
  split at h
  · rename_i next extra hact
    split at h
    · rename_i hnode
      split at h
      · rename_i hcond
        -- the node does not fit: it is broken down, or a fresh token replaces it
        have hcond' : extra = true ∨ la.tree.parseState ≠ s.stack.state ∨
            ctx.table.goto s.stack.state la.tree.symbol = 0 := by
          simpa [Bool.or_eq_true, or_assoc] using hcond
        obtain ⟨found, s₁, hb, h⟩ := exec_bind_eq_ok.1 h
        cases found with
        | some tree => exact .breakdownTree hact hnode hcond' hb (hf h)
        | none =>
          obtain ⟨la', s₂, hr, h⟩ := exec_bind_eq_ok.1 h
          exact .breakdownRelex hact hnode hcond' hb hr (hf h)
      · rename_i hcond
        obtain ⟨u, s₁, hs, h⟩ := exec_bind_eq_ok.1 h
        obtain ⟨rfl, rfl⟩ := exec_pure_eq_ok.1 h
        simp only [Bool.or_eq_true, bne_iff_ne, ne_eq, decide_eq_true_eq, not_or,
          Bool.not_eq_true, Decidable.not_not] at hcond
        obtain ⟨⟨rfl, hstate⟩, hgoto⟩ := hcond
        exact .shiftNode hact hnode hstate hgoto hs
    · rename_i hleaf
      have hleaf' : la.tree.childCount = 0 := by omega
      split at h
      · rename_i hextra
        obtain ⟨u, s₁, hs, h⟩ := exec_bind_eq_ok.1 h
        obtain ⟨rfl, rfl⟩ := exec_pure_eq_ok.1 h
        exact .shiftLeaf hact hleaf' (by simpa [hextra] using hs)
      · rename_i hextra
        obtain ⟨u, s₁, hs, h⟩ := exec_bind_eq_ok.1 h
        obtain ⟨rfl, rfl⟩ := exec_pure_eq_ok.1 h
        exact .shiftLeaf hact hleaf' (by simpa [hextra] using hs)
  · rename_i symbol count production hact
    obtain ⟨u, s₁, hr, h⟩ := exec_bind_eq_ok.1 h
    exact .reduce hact hr (hf h)
  · rename_i hact
    simp only [exec_map] at h
    cases hacc : ParseM.accept.exec ctx s with
    | none => simp [hacc] at h
    | some res =>
      rcases res with e | ⟨root, s₁⟩
      · simp [hacc, Except.map] at h
      · simp only [hacc, Option.map_some, Except.map, Option.some.injEq, Except.ok.injEq,
          Prod.mk.injEq] at h
        obtain ⟨rfl, rfl⟩ := h
        exact .accept hact hacc
  · rename_i _ hshift hreduce haccept
    have hno : NoAction ctx.table s.stack.state la.tree.leafSymbol := by
      rcases hv : ctx.table.action? s.stack.state la.tree.leafSymbol with _ | a
      · exact .inl hv
      · cases a with
        | shift n e => exact absurd hv (hshift n e)
        | reduce a b c => exact absurd hv (hreduce a b c)
        | accept => exact absurd hv haccept
        | recover => exact .inr hv
    split at h
    · rename_i hreused
      obtain ⟨la', s₁, hr, h⟩ := exec_bind_eq_ok.1 h
      exact .relexReused hno hreused hr (hf h)
    · rename_i hreused
      simp only [Bool.not_eq_true] at hreused
      simp only [exec_bind, exec_get, exec_name, exec_say] at h
      split at h
      · rename_i herror
        obtain ⟨u, s₂, hs, h⟩ := exec_bind_eq_ok.1 h
        obtain ⟨rfl, rfl⟩ := exec_pure_eq_ok.1 h
        exact .skipError hno hreused herror hs
      · rename_i herror
        simp only [Bool.not_eq_true] at herror
        obtain ⟨d, s₂, hget, h⟩ := exec_bind_eq_ok.1 h
        obtain ⟨rfl, rfl⟩ := exec_get_eq_ok.1 hget
        obtain ⟨⟨choice, examined⟩, s₃, hc, h⟩ := exec_bind_eq_ok.1 h
        rcases choice with _ | (m | _)
        · simp only at h
          split at h
          · rename_i path hpath
            obtain ⟨d, s₄, hget, h⟩ := exec_bind_eq_ok.1 h
            obtain ⟨rfl, rfl⟩ := exec_get_eq_ok.1 hget
            obtain ⟨u, s₅, hfor, h⟩ := exec_bind_eq_ok.1 h
            exact .complete hno hreused herror hc hpath (InsertsRun.of_exec hf _ hfor) (hf h)
          · rename_i hpath
            simp only [exec_bind, exec_say, withStack, exec_modifyGet, exec_fresh, exec_pure,
              Option.some.injEq, Except.ok.injEq, Prod.mk.injEq] at h
            obtain ⟨rfl, rfl⟩ := h
            exact .recoverEof hno hreused herror hc hpath
        · simp only at h
          obtain ⟨la', s₄, hm, h⟩ := exec_bind_eq_ok.1 h
          obtain ⟨r₁, s₅, hadv, h⟩ := exec_bind_eq_ok.1 h
          obtain ⟨u, s₆, hclear, h⟩ := exec_bind_eq_ok.1 h
          simp only [exec_clearRepair, Option.some.injEq, Except.ok.injEq,
            Prod.mk.injEq] at hclear
          obtain ⟨-, rfl⟩ := hclear
          exact .insert hno hreused herror hc hm (hf hadv) (hf h)
        · simp only at h
          obtain ⟨u, s₄, hs, h⟩ := exec_bind_eq_ok.1 h
          obtain ⟨rfl, rfl⟩ := exec_pure_eq_ok.1 h
          exact .delete hno hreused herror hc hs

/-- Every finished run of `advance` is an `AdvanceRun`. -/
theorem AdvanceRun.of_exec {la : Lookahead} {s s' : RunState} {r : Option Subtree}
    (h : advance la ctx s = some (.ok (r, s'))) : AdvanceRun ctx la s r s' :=
  AdvanceRun.of_advanceWithin _ h

/-- The finished runs of a whole parse: rounds that return nothing, then one that
    returns the root. -/
inductive LoopRun (ctx : ParseContext) : RunState → Subtree → RunState → Prop
  | last {s s' : RunState} {root : Subtree} :
      round.exec ctx s = some (.ok (some root, s')) → LoopRun ctx s root s'
  | next {s s₁ s' : RunState} {root : Subtree} :
      round.exec ctx s = some (.ok (none, s₁)) → LoopRun ctx s₁ root s' →
      LoopRun ctx s root s'

/-- Every run of at most `fuel` rounds that gives a root is a `LoopRun`, by induction on
    the fuel. -/
theorem LoopRun.of_runLoopWithin (fuel : Nat) {s s' : RunState} {root : Subtree}
    (h : runLoopWithin fuel ctx s = some (.ok (root, s'))) : LoopRun ctx s root s' := by
  induction fuel generalizing s with
  | zero => simp [runLoopWithin] at h
  | succ fuel ih =>
    rw [runLoopWithin.eq_2] at h
    split at h
    · rename_i root' s₁ hround
      simp only [Option.some.injEq, Except.ok.injEq, Prod.mk.injEq] at h
      obtain ⟨rfl, rfl⟩ := h
      exact .last hround
    · rename_i s₁ hround
      exact .next hround (ih h)
    · cases h
    · cases h

/-- Every finished parse loop that gives a root is a `LoopRun`. -/
theorem LoopRun.of_runLoop {s s' : RunState} {root : Subtree}
    (h : runLoop ctx s = some (.ok (root, s'))) : LoopRun ctx s root s' :=
  LoopRun.of_runLoopWithin _ h

/-- A parse that gives a root is a finished loop from the initial state, under the context
    the parse sets up. -/
theorem LoopRun.of_parseText {t : ParseTable} {options : ParseOptions} {logging : Bool}
    {input : ByteArray} {old : Option Subtree} {next next' : Nat} {root : Subtree}
    {log : Array LogLine}
    (h : parseText t options logging input old next = some (.ok (root, log, next'))) :
    ∃ s', LoopRun ⟨t, options, input, Length.of input.toList, logging, old.isSome⟩
      (RunState.initial options logging old next) root s' := by
  unfold parseText at h
  obtain ⟨res, hres, hmap⟩ := Option.map_eq_some_iff.1 h
  rcases res with e | ⟨root', s⟩
  · cases hmap
  · simp only [Except.ok.injEq, Prod.mk.injEq] at hmap
    rw [← hmap.1]
    exact ⟨s, LoopRun.of_runLoop hres⟩

/-- A round that returns has taken a lookahead and fed it. -/
theorem round_run {s s' : RunState} {r : Option Subtree}
    (h : round.exec ctx s = some (.ok (r, s'))) :
    ∃ la s₁, nextLookahead.exec ctx s = some (.ok (la, s₁)) ∧ AdvanceRun ctx la s₁ r s' := by
  obtain ⟨la, s₁, hla, h⟩ := exec_bind_eq_ok.1 h
  -- rewritten rather than unfolded: the kernel would otherwise open the fuel of `advance`
  rw [exec_eq_apply] at h
  exact ⟨la, s₁, hla, AdvanceRun.of_exec h⟩

end IncrementalLR
