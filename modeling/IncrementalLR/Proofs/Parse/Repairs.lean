import IncrementalLR.Proofs.Parse.Simulation

/-!
# The tokens recovery assumes

Recovery assumes a token only where its simulation lets the token through: a terminal other
than the end, which the simulation shifts, and not as an extra.
-/

namespace IncrementalLR

/-! ### Choices in `Option` -/

section Choices

variable {α β γ : Type}

/-- Every value that a mapping in `Option` returned was returned for a member of the
    list. -/
theorem exists_mem_of_mapM_eq_some {f : α → Option β} :
    ∀ {l : List α} {l' : List β}, l.mapM f = some l' → ∀ y ∈ l', ∃ x ∈ l, f x = some y
  | [], l', h, y, hy => by
    simp only [List.mapM_nil, pure, Option.some.injEq] at h
    subst h
    cases hy
  | x :: l, l', h, y, hy => by
    simp only [List.mapM_cons, bind, Option.bind_eq_some_iff, pure, Option.some.injEq] at h
    obtain ⟨b, hb, bs, hbs, rfl⟩ := h
    rcases List.mem_cons.1 hy with rfl | hy
    · exact ⟨x, List.mem_cons_self, hb⟩
    · obtain ⟨x', hx', hfx'⟩ := exists_mem_of_mapM_eq_some hbs y hy
      exact ⟨x', List.mem_cons_of_mem _ hx', hfx'⟩

/-- The first success in `Option` is a success for a member of the list. -/
theorem exists_mem_of_firstM_eq_some {f : α → Option β} :
    ∀ {l : List α} {b : β}, l.firstM f = some b → ∃ x ∈ l, f x = some b
  | [], b, h => by simp [List.firstM, failure] at h
  | x :: l, b, h => by
    simp only [List.firstM, HOrElse.hOrElse, OrElse.orElse] at h
    cases hx : f x with
    | some b' =>
      rw [hx] at h
      exact ⟨x, List.mem_cons_self, hx.trans h⟩
    | none =>
      rw [hx] at h
      obtain ⟨x', hx', hfx'⟩ := exists_mem_of_firstM_eq_some h
      exact ⟨x', List.mem_cons_of_mem _ hx', hfx'⟩

/-- A fold that either keeps its choice or takes the element in hand chose its first
    choice or an element of the list. -/
theorem mem_of_foldl_fst_eq_some {f : Option β × γ → β → Option β × γ}
    (hf : ∀ acc b, (f acc b).1 = acc.1 ∨ (f acc b).1 = some b) :
    ∀ {l : List β} {acc : Option β × γ} {b : β}, (l.foldl f acc).1 = some b →
      b ∈ l ∨ acc.1 = some b
  | [], _, _, h => .inr h
  | x :: l, acc, b, h => by
    rw [List.foldl_cons] at h
    rcases mem_of_foldl_fst_eq_some hf h with hmem | hfirst
    · exact .inl (List.mem_cons_of_mem _ hmem)
    · rcases hf acc x with hkeep | htake
      · exact .inr (hkeep ▸ hfirst)
      · rw [htake] at hfirst
        exact .inl (Option.some.inj hfirst ▸ List.mem_cons_self)

end Choices

/-! ### One assumed token -/

/-- The terminals recovery considers assuming are not the end symbol. -/
theorem ParseContext.pos_of_mem_candidates {ctx : ParseContext} {state symbol : Nat}
    (h : symbol ∈ ctx.candidates state) : 1 ≤ symbol := by
  unfold ParseContext.candidates at h
  exact (List.mem_range'_1.1 (List.mem_filter.1 h).1).1

/-- Recovery assumes a token only for the best trial, and only when that trial got
    somewhere: it was accepted, filled the window, or let a token through. -/
theorem chooseRepair_eq_insert {best : Option (Repair × Trial × Nat)} {window symbol : Nat}
    {atEnd : Bool} (h : chooseRepair best window atEnd = some (.insert symbol)) :
    ∃ trial cost, best = some (.insert symbol, trial, cost) ∧
      (trial.accepted = true ∨ window ≤ trial.consumed ∨ 0 < trial.consumed) := by
  rcases best with _ | ⟨repair, trial, cost⟩
  · cases atEnd <;> simp [chooseRepair] at h
  refine ⟨trial, cost, ?_⟩
  cases repair with
  | delete => cases atEnd <;> simp [chooseRepair] at h
  | insert symbol' =>
    simp only [chooseRepair] at h
    split at h
    · rename_i hgot
      cases h
      exact ⟨rfl, by simpa [or_assoc] using hgot⟩
    · cases atEnd <;> simp at h

/-- Away from the end of the input, recovery always finds a repair: skipping the
    lookahead at worst. -/
theorem chooseRepair_eq_none {best : Option (Repair × Trial × Nat)} {window : Nat} {atEnd : Bool}
    (h : chooseRepair best window atEnd = none) : atEnd = true := by
  cases atEnd with
  | true => rfl
  | false =>
    rcases best with _ | ⟨repair, trial, cost⟩
    · simp [chooseRepair] at h
    · simp only [chooseRepair, Bool.not_false, if_true] at h
      split at h <;> split at h <;> cases h

/-- A trial of assuming `symbol` that got anywhere had its simulation shift `symbol`,
    and not as an extra. -/
theorem ParseContext.feed_of_simulate {ctx : ParseContext} {scanner : List UInt8}
    {states : List Nat} {symbol first : Nat} {resume : Length} {window : Nat} {trial : Trial}
    (h : ctx.simulate scanner states (some symbol) first resume window = some trial)
    (hgot : trial.accepted = true ∨ 0 < trial.consumed) :
    ∃ σ, ctx.feed states symbol = (.shifted false, σ) := by
  unfold ParseContext.simulate at h
  cases hfeed : ctx.feed states symbol with
  | mk step σ =>
    cases step with
    | shifted extra =>
      cases extra with
      | false => exact ⟨σ, rfl⟩
      | true =>
        simp only [hfeed] at h
        cases h
        simp [Trial.failed] at hgot
    | accepted =>
      simp only [hfeed] at h
      cases h
      simp [Trial.failed] at hgot
    | failed =>
      simp only [hfeed] at h
      cases h
      simp [Trial.failed] at hgot

namespace ParseM

variable {ctx : ParseContext} {s s' : RunState}

/-- A lifted computation that returned gave its value, and left the state as it was. -/
theorem lift_eq_some {α : Type} {x : Option α} {a : α} {s₁ : RunState}
    (h : x.map (fun a => (Except.ok (a, s) : Except ParseError (α × RunState))) =
      some (.ok (a, s₁))) : x = some a ∧ s₁ = s := by
  cases x with
  | none => cases h
  | some b =>
    simp only [Option.map_some, Option.some.injEq, Except.ok.injEq, Prod.mk.injEq] at h
    exact ⟨by rw [h.1], h.2.symm⟩

/-- The choice recovery makes is among the trials of assuming each candidate of the top
    state and, away from the end of the input, of skipping the lookahead. -/
theorem chooseFor_choice {la : Subtree} {window : Nat} {r : Option Repair × Nat}
    (h : (chooseFor la window).exec ctx s = some (.ok (r, s'))) :
    s' = s ∧ ∃ inserts deletes : List (Repair × Trial × Nat),
      ((ctx.candidates s.stack.state).mapM fun symbol =>
        (ctx.simulate s.scannerState s.stack.states (some symbol) la.symbol
          (s.stack.position.add la.totalSize) window).map
          fun trial => (Repair.insert symbol, trial, costPerMissing)) = some inserts ∧
      (∀ d ∈ deletes, d.1 = .delete) ∧
      r.1 = chooseRepair ((inserts ++ deletes).foldl (fun acc entry =>
        (if entry.2.1.beats entry.2.2 acc.1 then some entry else acc.1,
          Nat.max acc.2 entry.2.1.examinedEnd))
        (none, s.stack.position.bytes + la.firstLeafEnd)).1 window la.isEnd := by
  refine ⟨exec_chooseFor h, ?_⟩
  unfold chooseFor at h
  simp only [exec_bind, exec_read, exec_get, exec_lift] at h
  obtain ⟨inserts, s₁, hins, h⟩ := exec_match_eq_ok.1 h
  obtain ⟨hinserts, hs₁⟩ := lift_eq_some hins
  rw [hs₁] at h
  refine ⟨inserts, ?_⟩
  -- the deletion, if it was tried, is no insertion
  split at h
  · simp only [exec_bind, exec_pure, Option.some.injEq, Except.ok.injEq] at h
    obtain ⟨hr, -⟩ := Prod.mk.inj h
    exact ⟨[], hinserts, by simp, by rw [← hr]⟩
  · simp only [exec_bind, exec_lift] at h
    obtain ⟨trial, s₂, htrial, h⟩ := exec_match_eq_ok.1 h
    obtain ⟨-, hs₂⟩ := lift_eq_some htrial
    rw [hs₂] at h
    simp only [exec_pure, Option.some.injEq, Except.ok.injEq] at h
    obtain ⟨hr, -⟩ := Prod.mk.inj h
    exact ⟨[(.delete, trial, costPerSkippedTree + skipCost la.size)], hinserts, by simp, by rw [← hr]⟩

/-- The token recovery chooses to assume is a candidate of the top state, and the
    simulation on the stack's states shifts it, not as an extra. -/
theorem chooseFor_insert {la : Subtree} {window symbol examined : Nat} (hwindow : 0 < window)
    (h : (chooseFor la window).exec ctx s = some (.ok ((some (.insert symbol), examined), s'))) :
    s' = s ∧ symbol ∈ ctx.candidates s.stack.state ∧
      ∃ σ, ctx.feed s.stack.states symbol = (.shifted false, σ) := by
  obtain ⟨hs, inserts, deletes, hinserts, hdeletes, hchoice⟩ := chooseFor_choice h
  refine ⟨hs, ?_⟩
  obtain ⟨trial, cost, hbest, hgot⟩ := chooseRepair_eq_insert hchoice.symm
  -- the best trial is one of those tried
  have hmem : (Repair.insert symbol, trial, cost) ∈ inserts ++ deletes :=
    (mem_of_foldl_fst_eq_some (fun acc b => by
      by_cases hb : b.2.1.beats b.2.2 acc.1 <;> simp [hb]) hbest).resolve_right (by simp)
  rcases List.mem_append.1 hmem with hmem | hmem
  · obtain ⟨x, hx, hsim⟩ := exists_mem_of_mapM_eq_some hinserts _ hmem
    obtain ⟨trial', htrial', heq⟩ := Option.map_eq_some_iff.1 hsim
    simp only [Prod.mk.injEq, Repair.insert.injEq] at heq
    obtain ⟨rfl, rfl, -⟩ := heq
    refine ⟨hx, ParseContext.feed_of_simulate htrial' ?_⟩
    rcases hgot with hacc | hwin | hpos
    · exact .inl hacc
    · exact .inr (Nat.lt_of_lt_of_le hwindow hwin)
    · exact .inr hpos
  · exact absurd (hdeletes _ hmem) (by simp)

/-- Recovery finds no repair only at the end of the input. -/
theorem chooseFor_none {la : Subtree} {window examined : Nat}
    (h : (chooseFor la window).exec ctx s = some (.ok ((none, examined), s'))) : la.isEnd = true := by
  obtain ⟨-, inserts, deletes, -, -, hchoice⟩ := chooseFor_choice h
  exact chooseRepair_eq_none hchoice.symm

end ParseM

/-! ### Runs of assumed tokens -/

/-- Tokens that recovery may assume one after another from the kept states `states`:
    each is a terminal other than the end, and the simulation shifts it, not as an
    extra. -/
inductive Assumable (ctx : ParseContext) : List Nat → List Nat → Prop
  | nil {states : List Nat} : Assumable ctx states []
  | cons {states next rest : List Nat} {symbol : Nat} : 1 ≤ symbol →
      ctx.feed states symbol = (.shifted false, next) → Assumable ctx next rest →
      Assumable ctx states (symbol :: rest)

/-- A run of assumed tokens after which the end of the input is accepted is assumable. -/
theorem ParseContext.completion_assumable {ctx : ParseContext} :
    ∀ {depth : Nat} {states path : List Nat}, ctx.completion depth states = some path →
      Assumable ctx states path
  | 0, states, path, h => by
    simp only [ParseContext.completion] at h
    split at h
    · cases h
      exact .nil
    · cases h
  | depth + 1, states, path, h => by
    simp only [ParseContext.completion] at h
    split at h
    · cases h
    · obtain ⟨symbol, hmem, hsym⟩ := exists_mem_of_firstM_eq_some h
      split at hsym
      · rename_i next hfeed
        obtain ⟨rest, hrest, rfl⟩ := Option.map_eq_some_iff.1 hsym
        exact .cons (ParseContext.pos_of_mem_candidates hmem) hfeed (completion_assumable hrest)
      · cases hsym

theorem ParseContext.shortestCompletion_assumable {ctx : ParseContext} {states path : List Nat}
    {window : Nat} (h : ctx.shortestCompletion states window = some path) :
    Assumable ctx states path := by
  obtain ⟨depth, -, hdepth⟩ := exists_mem_of_firstM_eq_some h
  exact ParseContext.completion_assumable hdepth

/-! ### Feeding an assumed token -/

open ParseM in
/-- Feeding a leaf that the simulation shifts, from a stack whose extras keep their
    states, makes no root; the extras stay in place and the stack ends with the states
    the simulation ends with. The induction follows the simulation's reductions, and every
    way of feeding that the simulation does not take contradicts it. -/
theorem AdvanceRun.of_shifted {ctx : ParseContext} :
    ∀ (fuel : Nat) {la : Lookahead} {s s' : RunState} {r : Option Subtree} {extra : Bool}
      {σ' : List Nat}, AdvanceRun ctx la s r s' → la.tree.childCount = 0 → la.reused = false →
      ExtrasKeepState s.stack.entries →
      simulateToken ctx.table la.tree.leafSymbol fuel s.stack.states = (.shifted extra, σ') →
      r = none ∧ ExtrasKeepState s'.stack.entries ∧ s'.stack.states = σ'
  | 0, _, _, _, _, _, _, _, _, _, _, hsim => by simp [simulateToken] at hsim
  | fuel + 1, la, s, s', r, extra, σ', hrun, hleaf, hfresh, hkeep, hsim => by
    obtain ⟨rest, hr⟩ := hkeep.entryStates_eq
    have hq : topState s.stack.entries = s.stack.state := (Stack.state_eq_topState _).symm
    rw [Stack.states_eq, hr, hq] at hsim
    simp only [simulateToken] at hsim
    -- the run takes the action the simulation reads, or none, which the simulation refuses
    have hnone : NoAction ctx.table s.stack.state la.tree.leafSymbol → False := by
      rintro (hact | hact) <;> rw [hact] at hsim <;> simp at hsim
    cases hrun with
    | shiftNode _ hcount => omega
    | breakdownTree _ hcount => omega
    | breakdownRelex _ hcount => omega
    | shiftLeaf hact _ hshift =>
      rw [hact] at hsim
      simp only [Prod.mk.injEq, SimStep.shifted.injEq] at hsim
      obtain ⟨rfl, rfl⟩ := hsim
      obtain ⟨hkeep', hstates', -⟩ := shift_keeps hkeep rfl hleaf hshift
      refine ⟨rfl, hkeep', ?_⟩
      rw [hstates', Stack.states_eq, hr, hq]
    | reduce hact hred hrun' =>
      rw [hact] at hsim
      simp only at hsim
      split at hsim
      · simp at hsim
      · rename_i below rest' hpop
        split at hsim
        · simp at hsim
        · obtain ⟨hkeep₁, hstates₁⟩ := reduce_keeps hkeep
            (by rw [Stack.states_eq, hr, hq]; exact hpop) hred
          exact AdvanceRun.of_shifted fuel hrun' hleaf hfresh hkeep₁ (by rw [hstates₁]; exact hsim)
    | accept hact =>
      rw [hact] at hsim
      simp at hsim
    | relexReused _ hreused => simp [hfresh] at hreused
    | skipError hno => exact (hnone hno).elim
    | insert hno => exact (hnone hno).elim
    | delete hno => exact (hnone hno).elim
    | complete hno => exact (hnone hno).elim
    | recoverEof hno => exact (hnone hno).elim

end IncrementalLR
