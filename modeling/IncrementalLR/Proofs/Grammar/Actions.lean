import IncrementalLR.Proofs.Grammar.Automaton

/-!
# What the cells of a built table say

A table built from a grammar is read off its LR(0) automaton: state `j + 1` is item set `j`.
-/

namespace IncrementalLR.Grammar

variable {g : Grammar} {sets : ItemSets}

/-- What an action of state `T` on terminal `a` says about the automaton. An extra
    shift keeps the state; the builder never writes a recovery. -/
def ActionSound (g : Grammar) (sets : ItemSets) (T a : Nat) : Action → Prop
  | .shift T' false =>
    1 ≤ T ∧ 1 ≤ T' ∧ ∃ edges, sets.transitions[T - 1]? = some edges ∧ (a, T' - 1) ∈ edges
  | .shift T' true => T' = T
  | .reduce A n _ =>
    1 ≤ T ∧ ∃ items, sets.states[T - 1]? = some items ∧ ∃ p prod, 1 ≤ p ∧
      g.productions[p]? = some prod ∧ prod.lhs = A ∧ prod.rhs.length = n ∧ (p, n) ∈ items
  | .accept => a = endSymbol ∧ 1 ≤ T ∧ ∃ items, sets.states[T - 1]? = some items ∧ (0, 1) ∈ items
  | .recover => False

/-! ### The items of one state -/

/-- A reduction found in a set: by a production other than the augmented one, whose
    item in the set has its dot at the end. -/
def ReductionOf (g : Grammar) (items : List LrItem) (r : Reduction) : Prop :=
  r.production ≠ 0 ∧ ∃ d prod, (r.production, d) ∈ items ∧ g.productions[r.production]? = some prod ∧
    prod.rhs[d]? = none ∧ r.symbol = prod.lhs ∧ r.childCount = prod.rhs.length

/-- What scanning the items of a set collects: shifts along its edges, reductions of
    its completed items, and acceptance by its completed augmented item. -/
structure ScanInv (g : Grammar) (items : List LrItem) (edges : List (Nat × Nat))
    (acc : List (Nat × Nat) × List (Nat × List Reduction) × Bool) : Prop where
  shift : ∀ s T', (s, T') ∈ acc.1 → ∃ t, (s, t) ∈ edges ∧ T' = t + 1
  reduce : ∀ la rs, (la, rs) ∈ acc.2.1 → ∀ r ∈ rs, ReductionOf g items r
  accept : acc.2.2 = true → ∃ d prod, (0, d) ∈ items ∧ g.productions[0]? = some prod ∧
    prod.rhs[d]? = none

/-- A cell after adding a reduction holds that reduction and what it held. -/
theorem mem_addReduction {cells : List (Nat × List Reduction)} {la : Nat} {r : Reduction}
    {s : Nat} {rs : List Reduction} (h : (s, rs) ∈ addReduction cells la r) :
    ∀ r' ∈ rs, r' = r ∨ ∃ rs', (s, rs') ∈ cells ∧ r' ∈ rs' := by
  intro r' hr'
  unfold addReduction at h
  split at h
  · split at h
    · exact .inr ⟨rs, h, hr'⟩
    · obtain ⟨⟨s', rs'⟩, hmem, heq⟩ := List.mem_map.1 h
      by_cases hs : (s' == la) = true
      · simp only [hs, ↓reduceIte, Prod.mk.injEq] at heq
        obtain ⟨rfl, rfl⟩ := heq
        rcases List.mem_append.1 hr' with hr' | hr'
        · exact .inr ⟨rs', hmem, hr'⟩
        · exact .inl (List.mem_singleton.1 hr')
      · simp only [hs, Bool.false_eq_true, ↓reduceIte, Prod.mk.injEq] at heq
        obtain ⟨rfl, rfl⟩ := heq
        exact .inr ⟨rs', hmem, hr'⟩
  · rcases List.mem_append.1 h with h | h
    · exact .inr ⟨rs, h, hr'⟩
    · obtain ⟨rfl, rfl⟩ := Prod.mk.inj (List.mem_singleton.1 h)
      exact .inl (List.mem_singleton.1 hr')

theorem ScanInv.shift_step {items : List LrItem} {edges : List (Nat × Nat)}
    {acc : List (Nat × Nat) × List (Nat × List Reduction) × Bool} {s t : Nat}
    (inv : ScanInv g items edges acc) (hst : (s, t) ∈ edges) :
    ScanInv g items edges ((acc.1.filter (·.1 != s)) ++ [(s, t + 1)], acc.2.1, acc.2.2) := by
  refine ⟨fun s' T' h => ?_, inv.reduce, inv.accept⟩
  rcases List.mem_append.1 h with h | h
  · exact inv.shift s' T' (List.mem_filter.1 h).1
  · obtain ⟨rfl, rfl⟩ := Prod.mk.inj (List.mem_singleton.1 h)
    exact ⟨t, hst, rfl⟩

theorem ScanInv.reduce_step {items : List LrItem} {edges : List (Nat × Nat)}
    {acc : List (Nat × Nat) × List (Nat × List Reduction) × Bool} {r : Reduction}
    (inv : ScanInv g items edges acc) (hr : ReductionOf g items r) (lookaheads : List Nat) :
    ScanInv g items edges
      (acc.1, lookaheads.foldl (fun cells la => addReduction cells la r) acc.2.1, acc.2.2) := by
  refine ⟨inv.shift, ?_, inv.accept⟩
  -- every cell only ever receives `r`
  refine List.foldlRecOn
    (motive := fun cells => ∀ la rs, (la, rs) ∈ cells → ∀ r ∈ rs, ReductionOf g items r)
    _ _ inv.reduce ?_
  intro cells hcells la _ s rs hmem r' hr'
  rcases mem_addReduction hmem r' hr' with rfl | ⟨rs', hmem', hr'⟩
  · exact hr
  · exact hcells s rs' hmem' r' hr'

/-- The items of a set scanned into shifts, reductions and acceptance, as the table
    builder does it. -/
theorem scanInv_foldl (mapIds : Array Nat) (follow : Array (List Nat)) (items : List LrItem)
    (edges : List (Nat × Nat)) :
    ScanInv g items edges (items.foldl (fun acc item =>
      match g.productions[item.fst]? with
      | none => acc
      | some p =>
        match p.rhs[item.snd]? with
        | some s =>
          if g.isTerminal s = true then
            match List.lookup s edges with
            | some t => (List.filter (fun x => x.fst != s) acc.fst ++ [(s, t + 1)], acc.2.fst, acc.2.snd)
            | none => acc
          else acc
        | none =>
          if item.fst = 0 then (acc.fst, acc.2.fst, true)
          else
            (acc.fst,
              List.foldl
                (fun cells la =>
                  addReduction cells la
                    { production := item.fst, symbol := p.lhs, childCount := p.rhs.length,
                      fieldMap := mapIds[item.fst]?.getD 0 })
                acc.2.fst (follow[g.offset p.lhs]?.getD []),
              acc.2.snd)) ([], [], false)) := by
  refine List.foldlRecOn _ _ ⟨by simp, by simp, by simp⟩ ?_
  intro acc inv item hitem
  split
  · exact inv
  · rename_i p hp
    split
    · rename_i s hs
      split
      · split
        · rename_i t ht
          exact inv.shift_step (List.mem_of_lookup ht)
        · exact inv
      · exact inv
    · rename_i hnone
      split
      · rename_i h0
        refine ⟨inv.shift, inv.reduce, fun _ => ⟨item.2, p, ?_, h0 ▸ hp, hnone⟩⟩
        exact h0 ▸ hitem
      · rename_i h0
        exact inv.reduce_step ⟨h0, item.2, p, hitem, hp, hnone, rfl, rfl⟩ _

/-! ### The cells of one state -/

/-- A cell without a conflict holds the shift, the single reduction, or acceptance. -/
theorem cellAction_eq_some {state symbol : Nat} {shift : Option Nat} {reds : List Reduction}
    {accept : Bool} {act : Action}
    (h : g.cellAction state symbol shift reds accept = .ok (some act)) :
    (∃ T', shift = some T' ∧ act = .shift T' false) ∨
    (∃ r rest, reds = r :: rest ∧ act = .reduce r.symbol r.childCount r.fieldMap) ∨
    (accept = true ∧ act = .accept) := by
  unfold cellAction at h
  split at h
  · cases h
  · split at h
    · cases h
    · cases h
      exact .inr (.inl ⟨_, _, rfl, rfl⟩)
  · cases h
    exact .inl ⟨_, rfl, rfl⟩
  · split at h
    · cases h
      exact .inr (.inr ⟨‹_›, rfl⟩)
    · cases h

/-- Every action of every cell of state `T` on a terminal says what `ActionSound` says. -/
def CellsSound (g : Grammar) (sets : ItemSets) (actions : Array (List Action)) : Prop :=
  ∀ T a, a < g.tokenCount → ∀ act ∈ (actions[T * g.tokenCount + a]?).getD [],
    ActionSound g sets T a act

/-- A dense table stores row `T`, column `a` at `T * n + a`; distinct cells do not
    share a place. -/
theorem row_col_inj {n T T' a b : Nat} (ha : a < n) (hb : b < n) (h : T * n + a = T' * n + b) :
    T = T' ∧ a = b := by
  have hn : 0 < n := Nat.lt_of_le_of_lt (Nat.zero_le a) ha
  have h1 := congrArg (· / n) h
  have h2 := congrArg (· % n) h
  simp only [Nat.mul_comm _ n, Nat.mul_add_div hn, Nat.div_eq_of_lt ha, Nat.div_eq_of_lt hb,
    Nat.mul_add_mod, Nat.mod_eq_of_lt ha, Nat.mod_eq_of_lt hb] at h1 h2
  omega

theorem CellsSound.set {actions : Array (List Action)} {T a : Nat} {cell : List Action}
    (h : CellsSound g sets actions) (ha : a < g.tokenCount)
    (hcell : ∀ act ∈ cell, ActionSound g sets T a act) :
    CellsSound g sets (actions.setIfInBounds (T * g.tokenCount + a) cell) := by
  intro T' a' ha' act hact
  rw [Array.getElem?_setIfInBounds] at hact
  split at hact
  · rename_i heq
    obtain ⟨rfl, rfl⟩ := row_col_inj ha ha' heq
    split at hact
    · exact hcell act hact
    · simp at hact
  · exact h T' a' ha' act hact

/-- The cells of state `index + 1`, each written from the scan of its set. -/
theorem cellsSound_foldlM (hS : ItemSets.Sound g sets) (hwf : g.WellFormed) {index : Nat}
    {items : List LrItem} {edges : List (Nat × Nat)} (hitems : sets.states[index]? = some items)
    (hedges : sets.transitions[index]? = some edges)
    {shifts : List (Nat × Nat)} {reductions : List (Nat × List Reduction)} {accepts : Bool}
    (hscan : ScanInv g items edges (shifts, reductions, accepts))
    {actions actions' : Array (List Action)} (hc : CellsSound g sets actions)
    (h : (List.range g.tokenCount).foldlM (fun actions symbol => do
      let action ← g.cellAction (index + 1) symbol (List.lookup symbol shifts)
        ((List.lookup symbol reductions).getD []) (accepts && symbol == endSymbol)
      pure (actions.setIfInBounds ((index + 1) * g.tokenCount + symbol)
        (match action with
        | some a => [a]
        | none => if g.extras.contains symbol = true then [Action.shift (index + 1) true] else [])))
      actions = .ok actions') :
    CellsSound g sets actions' ∧ actions'.size = actions.size := by
  refine List.foldlM_except_induction
    (fun acts => CellsSound g sets acts ∧ acts.size = actions.size) ?_ ⟨hc, rfl⟩ h
  intro symbol hsymbol acts acts' ⟨hacts, hsize⟩ hstep
  obtain ⟨action, hact, hstep⟩ := Except.bind_eq_ok.1 hstep
  cases hstep
  have hlt : symbol < g.tokenCount := List.mem_range.1 hsymbol
  refine ⟨hacts.set hlt ?_, by rw [Array.size_setIfInBounds, hsize]⟩
  intro act hmem
  split at hmem
  · rename_i a
    obtain rfl := List.mem_singleton.1 hmem
    rcases cellAction_eq_some hact with ⟨T', hT', rfl⟩ | ⟨r, rest, hr, rfl⟩ | ⟨hacc, rfl⟩
    -- a shift follows the edge the scan found it on
    · obtain ⟨t, ht, rfl⟩ := hscan.shift symbol T' (List.mem_of_lookup hT')
      exact ⟨Nat.succ_pos _, Nat.succ_pos _, edges, hedges, ht⟩
    -- a reduction comes from an item whose dot is at the end of its production
    · cases hlook : List.lookup symbol reductions with
      | none => simp [hlook] at hr
      | some rs =>
        simp only [hlook, Option.getD_some] at hr
        subst hr
        obtain ⟨hp0, d, prod, hd, hp, hnone, hsym, hcount⟩ :=
          hscan.reduce symbol _ (List.mem_of_lookup hlook) r List.mem_cons_self
        obtain ⟨prod', hp', hle⟩ := hS.valid index items hitems _ hd
        rw [hp] at hp'
        cases hp'
        have hd' : d = prod.rhs.length := Nat.le_antisymm hle (List.getElem?_eq_none_iff.1 hnone)
        refine ⟨Nat.succ_pos _, items, hitems, r.production, prod, Nat.pos_of_ne_zero hp0, hp,
          hsym.symm, hcount.symm, ?_⟩
        rw [hcount, ← hd']
        exact hd
    -- acceptance comes from the augmented item with its dot at the end
    · simp only [Bool.and_eq_true, beq_iff_eq] at hacc
      obtain ⟨d, prod, hd, hp, hnone⟩ := hscan.accept hacc.1
      rw [hwf.augmented] at hp
      cases hp
      obtain ⟨prod', hp', hle⟩ := hS.valid index items hitems _ hd
      rw [hwf.augmented] at hp'
      cases hp'
      have hd' : d = 1 := Nat.le_antisymm hle (List.getElem?_eq_none_iff.1 hnone)
      exact ⟨hacc.2, Nat.succ_pos _, items, hitems, hd' ▸ hd⟩
  · split at hmem
    · obtain rfl := List.mem_singleton.1 hmem
      rfl
    · simp at hmem

/-! ### The gotos of one state -/

/-- Every goto that is not 0, from state `T` on a nonterminal, follows an edge of set
    `T - 1` on it. -/
def GotosSound (g : Grammar) (sets : ItemSets) (gotos : Array Nat) : Prop :=
  ∀ T A T', g.tokenCount ≤ A → A < g.symbolNames.size →
    gotos[T * g.nonterminalCount + (A - g.tokenCount)]? = some T' → T' ≠ 0 →
      1 ≤ T ∧ ∃ edges, sets.transitions[T - 1]? = some edges ∧ (A, T' - 1) ∈ edges

/-- A stored goto that is not 0. -/
def NonzeroAt (gotos : Array Nat) (c : Nat) : Prop := ∃ v, gotos[c]? = some v ∧ v ≠ 0

/-- Every edge of set `j` on a nonterminal has a goto that is not 0 in state `j + 1`. -/
def GotoRowDone (g : Grammar) (sets : ItemSets) (gotos : Array Nat) (j : Nat) : Prop :=
  ∀ edges, sets.transitions[j]? = some edges → ∀ A t, (A, t) ∈ edges → g.tokenCount ≤ A →
    NonzeroAt gotos ((j + 1) * g.nonterminalCount + (A - g.tokenCount))

section Gotos

variable (row : Nat) (edges : List (Nat × Nat))

/-- The gotos a state writes: one per edge on a nonterminal. -/
def writeGotos (g : Grammar) (row : Nat) (edges : List (Nat × Nat)) (gotos : Array Nat) :
    Array Nat :=
  edges.foldl (fun gotos x => if g.isTerminal x.fst = true then gotos
    else gotos.setIfInBounds (row + g.offset x.fst) (x.snd + 1)) gotos

theorem size_writeGotos (gotos : Array Nat) : (writeGotos g row edges gotos).size = gotos.size := by
  unfold writeGotos
  refine List.foldlRecOn (motive := fun (a : Array Nat) => a.size = gotos.size) _ _ rfl ?_
  intro a ha x _
  split
  · exact ha
  · rw [Array.size_setIfInBounds, ha]

/-- A goto that is not 0 stays so: every goto written is a state plus one. -/
theorem NonzeroAt.writeGotos {gotos : Array Nat} {c : Nat} (h : NonzeroAt gotos c) :
    NonzeroAt (writeGotos g row edges gotos) c := by
  unfold Grammar.writeGotos
  refine List.foldlRecOn (motive := fun (a : Array Nat) => NonzeroAt a c) _ _ h ?_
  intro a ⟨v, hv, hv0⟩ x _
  split
  · exact ⟨v, hv, hv0⟩
  · rw [NonzeroAt, Array.getElem?_setIfInBounds]
    split
    · rename_i hc
      subst hc
      rw [if_pos (Array.getElem?_eq_some_iff.1 hv).1]
      exact ⟨_, rfl, Nat.succ_ne_zero _⟩
    · exact ⟨v, hv, hv0⟩

theorem nonzeroAt_writeGotos (gotos : Array Nat) {X t : Nat} (hmem : (X, t) ∈ edges)
    (hX : g.tokenCount ≤ X) (hlt : row + g.offset X < gotos.size) :
    NonzeroAt (writeGotos g row edges gotos) (row + g.offset X) := by
  induction edges generalizing gotos with
  | nil => simp at hmem
  | cons e rest ih =>
    rcases List.mem_cons.1 hmem with rfl | hmem
    · have hfirst : NonzeroAt (if g.isTerminal X = true then gotos
          else gotos.setIfInBounds (row + g.offset X) (t + 1)) (row + g.offset X) := by
        have hnt : ¬g.isTerminal X = true := by simpa [isTerminal] using hX
        rw [if_neg hnt, NonzeroAt, Array.getElem?_setIfInBounds, if_pos rfl, if_pos hlt]
        exact ⟨_, rfl, Nat.succ_ne_zero _⟩
      exact NonzeroAt.writeGotos row rest hfirst
    · refine ih _ hmem ?_
      dsimp only
      split
      · exact hlt
      · rwa [Array.size_setIfInBounds]

/-- The gotos of state `index + 1` follow its set's edges, when the edges' symbols are
    symbols of the grammar. -/
theorem GotosSound.writeGotos {gotos : Array Nat} {index : Nat} (h : GotosSound g sets gotos)
    (hedges : sets.transitions[index]? = some edges)
    (hsym : ∀ X t, (X, t) ∈ edges → X < g.symbolNames.size) :
    GotosSound g sets (writeGotos g ((index + 1) * g.nonterminalCount) edges gotos) := by
  unfold Grammar.writeGotos
  refine List.foldlRecOn _ _ h ?_
  intro a ha ⟨X, t⟩ hXt T A T' hA hAlt hT' hT0
  split at hT'
  · exact ha T A T' hA hAlt hT' hT0
  · rename_i hnt
    rw [Array.getElem?_setIfInBounds] at hT'
    split at hT'
    · rename_i heq
      have hX : g.tokenCount ≤ X := by simpa [isTerminal] using hnt
      have hXlt := hsym X t hXt
      obtain ⟨rfl, hoff⟩ := row_col_inj (n := g.nonterminalCount)
        (by unfold offset nonterminalCount; omega) (by unfold nonterminalCount; omega) heq
      have hAX : X = A := by unfold offset at hoff; omega
      subst hAX
      split at hT'
      · cases hT'
        exact ⟨Nat.succ_pos _, edges, hedges, hXt⟩
      · cases hT'
    · exact ha T A T' hA hAlt hT' hT0

end Gotos

/-! ### Whole states -/

/-- An edge's symbol follows a dot, so it is a symbol of a well-formed grammar. -/
theorem edge_symbol_lt (hS : ItemSets.Sound g sets) (hwf : g.WellFormed) {j : Nat}
    {items : List LrItem} {edges : List (Nat × Nat)} (hitems : sets.states[j]? = some items)
    (hedges : sets.transitions[j]? = some edges) {X t : Nat} (hXt : (X, t) ∈ edges) :
    X < g.symbolNames.size := by
  obtain ⟨-, ⟨it, -, hnext⟩, -⟩ := hS.edge_sound j items edges hitems hedges X t hXt
  obtain ⟨p, hp, hX⟩ := next?_eq_some hnext
  exact hwf.rhs_lt p (Array.mem_of_getElem? hp) X (List.mem_of_getElem? hX)

/-- Filling state `index + 1` writes sound cells and the gotos of its set's edges. -/
theorem fillState_sound (hS : ItemSets.Sound g sets) (hwf : g.WellFormed)
    {follow : Array (List Nat)} {mapIds : Array Nat} {acc res : Array (List Action) × Array Nat}
    {index : Nat} {items : List LrItem} {edges : List (Nat × Nat)}
    (hitems : sets.states[index]? = some items) (hedges : sets.transitions[index]? = some edges)
    (hc : CellsSound g sets acc.1)
    (h : g.fillState follow mapIds acc index items edges = .ok res) :
    CellsSound g sets res.1 ∧ res.1.size = acc.1.size ∧
      res.2 = writeGotos g ((index + 1) * g.nonterminalCount) edges acc.2 := by
  simp only [fillState] at h
  generalize hscan : List.foldl _ ([], [], false) items = scan at h
  obtain ⟨shifts, reductions, accepts⟩ := scan
  have hinv : ScanInv g items edges (shifts, reductions, accepts) := by
    rw [← hscan]
    exact scanInv_foldl mapIds follow items edges
  obtain ⟨actions, hactions, hres⟩ := Except.bind_eq_ok.1 h
  cases hres
  obtain ⟨hcells, hsize⟩ := cellsSound_foldlM hS hwf hitems hedges hinv hc hactions
  exact ⟨hcells, hsize, rfl⟩

/-- The invariant of filling the table state by state. -/
def TableInv (g : Grammar) (sets : ItemSets) (acc : Array (List Action) × Array Nat) : Prop :=
  CellsSound g sets acc.1 ∧ GotosSound g sets acc.2 ∧
    acc.2.size = (sets.states.size + 1) * g.nonterminalCount

theorem tableInv_foldlM (hS : ItemSets.Sound g sets) (hwf : g.WellFormed)
    {follow : Array (List Nat)} {mapIds : Array Nat} :
    ∀ (rows : List (List LrItem × Nat)) (acc res : Array (List Action) × Array Nat),
      (∀ e ∈ rows, sets.states[e.2]? = some e.1) → TableInv g sets acc →
      rows.foldlM (fun acc (items, index) =>
        g.fillState follow mapIds acc index items ((sets.transitions[index]?).getD [])) acc =
        .ok res →
      TableInv g sets res ∧ (∀ c, NonzeroAt acc.2 c → NonzeroAt res.2 c) ∧
        ∀ e ∈ rows, GotoRowDone g sets res.2 e.2
  | [], acc, res, _, hinv, h => by
    simp only [List.foldlM, pure, Except.pure, Except.ok.injEq] at h
    subst h
    exact ⟨hinv, fun _ h => h, by simp⟩
  | ⟨items, index⟩ :: rows, acc, res, hrows, ⟨hc, hg, hsize⟩, h => by
    rw [List.foldlM_cons] at h
    obtain ⟨mid, hmid, h⟩ := Except.bind_eq_ok.1 h
    have hitems : sets.states[index]? = some items := hrows _ List.mem_cons_self
    dsimp only at hmid
    have hlt : index < sets.states.size := (Array.getElem?_eq_some_iff.1 hitems).1
    obtain ⟨edges, hedges⟩ : ∃ edges, sets.transitions[index]? = some edges :=
      ⟨_, Array.getElem?_eq_getElem (hS.transitions_size ▸ hlt)⟩
    rw [hedges, Option.getD_some] at hmid
    obtain ⟨hc', -, hmid2⟩ := fillState_sound hS hwf hitems hedges hc hmid
    have hsym := fun X t h => edge_symbol_lt hS hwf hitems hedges (X := X) (t := t) h
    have hinv' : TableInv g sets mid :=
      ⟨hc', hmid2 ▸ hg.writeGotos edges hedges hsym, by rw [hmid2, size_writeGotos, hsize]⟩
    obtain ⟨hres, hgrow, hdone⟩ :=
      tableInv_foldlM hS hwf rows mid res (fun e he => hrows e (List.mem_cons_of_mem _ he)) hinv' h
    refine ⟨hres, fun c hnz => hgrow c (hmid2 ▸ hnz.writeGotos _ edges), ?_⟩
    intro e he
    rcases List.mem_cons.1 he with rfl | he
    -- the row just written keeps its gotos through the later rows
    · intro edges' hedges' A t hAt hA
      rw [hedges] at hedges'
      cases hedges'
      have hAlt := edge_symbol_lt hS hwf hitems hedges hAt
      refine hgrow _ (hmid2 ▸ nonzeroAt_writeGotos _ edges acc.2 hAt hA ?_)
      have hoff : g.offset A < g.nonterminalCount := by
        unfold offset nonterminalCount
        omega
      have hrow : (index + 2) * g.nonterminalCount ≤ acc.2.size := by
        rw [hsize]
        exact Nat.mul_le_mul_right _ (by omega)
      rw [Nat.add_mul] at hrow
      simp only [Nat.add_mul, Nat.one_mul] at hrow ⊢
      omega
    · exact hdone e he

/-- A table the builder returned passed the check of its production ids: it is the table
    built over the grammar's field maps. -/
theorem tableWith_of_table {t : ParseTable} (h : g.table sets = .ok t) :
    g.tableWith sets (g.fieldMaps g.fieldNames) = .ok t := by
  simp only [table] at h
  split at h
  · cases h
  · exact h

/-- A built table keeps the grammar's symbols, its cells are sound, its gotos that are
    not 0 are sound, and every edge on a nonterminal has a goto that is not 0. -/
theorem table_sound (hS : ItemSets.Sound g sets) (hwf : g.WellFormed) {t : ParseTable}
    (h : g.table sets = .ok t) :
    t.tokenCount = g.tokenCount ∧ t.symbolNames = g.symbolNames ∧ CellsSound g sets t.actions ∧
      GotosSound g sets t.gotos ∧ ∀ j < sets.states.size, GotoRowDone g sets t.gotos j := by
  replace h := tableWith_of_table h
  simp only [tableWith] at h
  obtain ⟨⟨actions, gotos⟩, hfold, h⟩ := Except.bind_eq_ok.1 h
  cases h
  have hstart : TableInv g sets (Array.replicate ((sets.states.size + 1) * g.tokenCount) [],
      Array.replicate ((sets.states.size + 1) * g.nonterminalCount) 0) := by
    refine ⟨fun T a _ act hact => ?_, fun T A T' _ _ hT' hT0 => ?_, Array.size_replicate⟩
    · simp only [Array.getElem?_replicate] at hact
      split at hact <;> simp at hact
    · simp only [Array.getElem?_replicate] at hT'
      split at hT'
      · cases hT'
        exact absurd rfl hT0
      · cases hT'
  have hrows : ∀ e ∈ sets.states.toList.zipIdx, sets.states[e.2]? = some e.1 := by
    intro e he
    rw [List.mem_zipIdx_iff_getElem?, Array.getElem?_toList] at he
    exact he
  obtain ⟨⟨hc, hg, -⟩, -, hdone⟩ := tableInv_foldlM hS hwf _ _ _ hrows hstart hfold
  refine ⟨rfl, rfl, hc, hg, fun j hj => hdone (sets.states[j], j) ?_⟩
  rw [List.mem_zipIdx_iff_getElem?, Array.getElem?_toList]
  exact Array.getElem?_eq_getElem hj

end Grammar

/-- A parse table built from a grammar through its sound LR(0) automaton. -/
structure ParseTable.Built (t : ParseTable) (g : Grammar) (sets : ItemSets) : Prop where
  wellFormed : g.WellFormed
  sound : ItemSets.Sound g sets
  table : g.table sets = .ok t

/-- Every table the grammar builder returns is built from its grammar's automaton. -/
theorem GrammarSpec.build_built {spec : GrammarSpec} {t : ParseTable} (h : spec.build = .ok t) :
    ∃ g sets, t.Built g sets := by
  obtain ⟨g, hg, h⟩ := Except.bind_eq_ok.1 h
  obtain ⟨sets, hsets, h⟩ := Except.bind_eq_ok.1 h
  have hwf := Grammar.wellFormed_ofSpec hg
  exact ⟨g, sets, hwf, Grammar.itemSets_sound hwf hsets, h⟩

namespace ParseTable.Built

variable {t : ParseTable} {g : Grammar} {sets : ItemSets}

theorem tokenCount_eq (hb : t.Built g sets) : t.tokenCount = g.tokenCount :=
  (Grammar.table_sound hb.sound hb.wellFormed hb.table).1

theorem symbolCount_eq (hb : t.Built g sets) : t.symbolCount = g.symbolNames.size :=
  congrArg Array.size (Grammar.table_sound hb.sound hb.wellFormed hb.table).2.1

/-- Every action the table gives is one its automaton justifies. -/
theorem action_sound (hb : t.Built g sets) {T a : Nat} {act : Action}
    (h : t.action? T a = some act) : a < t.tokenCount ∧ Grammar.ActionSound g sets T a act := by
  obtain ⟨htc, -, hc, -, -⟩ := Grammar.table_sound hb.sound hb.wellFormed hb.table
  unfold ParseTable.action? ParseTable.actionsAt at h
  split at h
  · simp at h
  · rename_i hna
    have ha : a < t.tokenCount := by omega
    refine ⟨ha, hc T a (htc ▸ ha) act ?_⟩
    rw [← htc]
    exact List.mem_of_mem_head? h

/-- A goto that is not 0, on a symbol of the table, follows an edge on a nonterminal. -/
theorem goto_sound (hb : t.Built g sets) {T A : Nat} (hA : A < t.symbolCount)
    (h0 : t.goto T A ≠ 0) :
    g.tokenCount ≤ A ∧ 1 ≤ T ∧
      ∃ edges, sets.transitions[T - 1]? = some edges ∧ (A, t.goto T A - 1) ∈ edges := by
  obtain ⟨htc, hnames, -, hg, -⟩ := Grammar.table_sound hb.sound hb.wellFormed hb.table
  have hnt : t.nonterminalCount = g.nonterminalCount := by
    simp only [ParseTable.nonterminalCount, Grammar.nonterminalCount, htc, hnames]
  unfold ParseTable.goto at h0 ⊢
  have hcond : ¬(A = errorSymbol ∨ A < t.tokenCount) := fun hc => h0 (if_pos hc)
  rw [if_neg hcond] at h0 ⊢
  have hge : g.tokenCount ≤ A := by omega
  rw [hnt, htc] at h0 ⊢
  obtain ⟨v, hv⟩ : ∃ v, t.gotos[T * g.nonterminalCount + (A - g.tokenCount)]? = some v := by
    cases hv : t.gotos[T * g.nonterminalCount + (A - g.tokenCount)]? with
    | none => simp [hv] at h0
    | some v => exact ⟨v, rfl⟩
  rw [hv, Option.getD_some] at h0 ⊢
  exact ⟨hge, hg T A v hge (hnames ▸ hA) hv h0⟩

/-- Every edge on a nonterminal has its goto, which is not 0. -/
theorem goto_ne_zero (hb : t.Built g sets) {j : Nat} {edges : List (Nat × Nat)}
    (hedges : sets.transitions[j]? = some edges) {A u : Nat} (hAu : (A, u) ∈ edges)
    (hA : g.tokenCount ≤ A) : t.goto (j + 1) A ≠ 0 := by
  obtain ⟨htc, hnames, -, -, hdone⟩ := Grammar.table_sound hb.sound hb.wellFormed hb.table
  have hj : j < sets.states.size :=
    hb.sound.transitions_size ▸ (Array.getElem?_eq_some_iff.1 hedges).1
  have hAlt := Grammar.edge_symbol_lt hb.sound hb.wellFormed (Array.getElem?_eq_getElem hj)
    hedges hAu
  have herr : A ≠ errorSymbol := by
    have := hb.wellFormed.size_le
    omega
  obtain ⟨v, hv, hv0⟩ := hdone j hj edges hedges A u hAu hA
  unfold ParseTable.goto ParseTable.nonterminalCount
  rw [if_neg (by omega), htc, hnames]
  unfold Grammar.nonterminalCount at hv
  rw [hv, Option.getD_some]
  exact hv0

end ParseTable.Built

end IncrementalLR
