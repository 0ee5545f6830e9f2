import IncrementalLR.Proofs.Grammar.Collection
import IncrementalLR.Proofs.Grammar.LeastSets
import IncrementalLR.Proofs.Parse.Language

/-!
# The builder's table is the SLR(1) table

`GrammarSpec.build` follows the textbook construction of `SlrReference`.
-/

namespace IncrementalLR

theorem Except.bind_eq_error {ε α β : Type} {x : Except ε α} {f : α → Except ε β} {e : ε} :
    x >>= f = .error e ↔ x = .error e ∨ ∃ a, x = .ok a ∧ f a = .error e := by
  cases x <;> simp [bind, Except.bind]

/-- A fold in `Except` that fails, fails at one of its elements. -/
theorem List.foldlM_except_error {ε α β : Type} {f : β → α → Except ε β} {e : ε} :
    ∀ (l : List α) (init : β), l.foldlM f init = .error e → ∃ x ∈ l, ∃ acc, f acc x = .error e
  | [], init, h => by simp [List.foldlM, pure, Except.pure] at h
  | x :: l, init, h => by
    rw [List.foldlM_cons] at h
    rcases Except.bind_eq_error.1 h with h | ⟨acc, -, h⟩
    · exact ⟨x, List.mem_cons_self, init, h⟩
    · obtain ⟨y, hy, acc', h'⟩ := List.foldlM_except_error l acc h
      exact ⟨y, List.mem_cons_of_mem x hy, acc', h'⟩

namespace Grammar

variable {g : Grammar}

/-! ### The table as the SLR(1) table -/

/-- A table action stands for an SLR(1) action, when table state `T` stands for item set
    `φ T`: a shift moves to the state of the goto, a reduction gives the left side, the
    length and the field map of its production, and acceptance is acceptance. -/
def Realizes (g : Grammar) (φ : Nat → Set LrItem) (stateCount : Nat) : Action → SlrAction → Prop
  | .shift T false, .shift J => 1 ≤ T ∧ T < stateCount ∧ φ T = J
  | .reduce A n f, .reduce p => ∃ prod, g.productions[p]? = some prod ∧ A = prod.lhs ∧
      n = prod.rhs.length ∧ f = ((g.fieldMaps g.fieldNames).2[p]?).getD 0
  | .accept, .accept => True
  | _, _ => False

/-- The cell of state `T` on terminal `a` is the SLR(1) cell of item set `I`: its single
    action, or, where it has none, a shift that keeps the state on an extra and nothing
    on any other terminal. -/
def CellAgrees (g : Grammar) (φ : Nat → Set LrItem) (stateCount : Nat) (I : Set LrItem)
    (T a : Nat) (cell : List Action) : Prop :=
  (∃ x, g.SlrCell I a x ∧ (∀ y, g.SlrCell I a y → y = x) ∧
      ∃ act, cell = [act] ∧ g.Realizes φ stateCount act x) ∨
    ((∀ x, ¬g.SlrCell I a x) ∧ a ∈ g.extras ∧ cell = [.shift T true]) ∨
    ((∀ x, ¬g.SlrCell I a x) ∧ a ∉ g.extras ∧ cell = [])

/-- The goto of a state on nonterminal `A` is the LR(0) goto of its item set `I`: 0 where
    that goto is empty, and otherwise the state of the goto. -/
def GotoAgrees (g : Grammar) (φ : Nat → Set LrItem) (stateCount : Nat) (I : Set LrItem)
    (A target : Nat) : Prop :=
  (target = 0 ∧ ¬(g.lrGoto I A).Nonempty) ∨
    (1 ≤ target ∧ target < stateCount ∧ φ target = g.lrGoto I A)

/-- A cell with a single action, or none, has no conflict. -/
theorem CellAgrees.not_conflict {φ : Nat → Set LrItem} {stateCount : Nat} {I : Set LrItem}
    {T a : Nat} {cell : List Action} (h : g.CellAgrees φ stateCount I T a cell) :
    ¬g.SlrConflict I a := by
  rcases h with ⟨x, -, huniq, -⟩ | ⟨hnone, -⟩ | ⟨hnone, -⟩
  · rintro (⟨J, p, hs, hr⟩ | ⟨p, q, hpq, hp, hq⟩ | ⟨p, hr, ha⟩)
    · exact SlrAction.noConfusion ((huniq _ hs).trans (huniq _ hr).symm)
    · exact hpq (SlrAction.reduce.inj ((huniq _ hp).trans (huniq _ hq).symm))
    · exact SlrAction.noConfusion ((huniq _ hr).trans (huniq _ ha).symm)
  all_goals
    rintro (⟨J, p, hs, -⟩ | ⟨p, q, -, hp, -⟩ | ⟨p, hr, -⟩)
    · exact hnone _ hs
    · exact hnone _ hp
    · exact hnone _ hr

/-! ### Reductions, each production once -/

/-- With each key once, an entry is what its key looks up. -/
theorem lookup_eq_of_mem {β : Type} {l : List (Nat × β)} (hkeys : (l.map Prod.fst).Nodup)
    {k : Nat} {v : β} (h : (k, v) ∈ l) : l.lookup k = some v := by
  induction l with
  | nil => cases h
  | cons x xs ih =>
    obtain ⟨s, w⟩ := x
    rw [List.map_cons, List.nodup_cons] at hkeys
    rcases List.mem_cons.1 h with hhead | htail
    · obtain ⟨rfl, rfl⟩ := Prod.mk.inj hhead
      simp
    · have hks : k ≠ s := by
        rintro rfl
        exact hkeys.1 (List.mem_map.2 ⟨(k, v), htail, rfl⟩)
      have hks' : (k == s) = false := by simpa using hks
      simp only [List.lookup_cons, hks', ih hkeys.2 htail]

/-- The reductions a scan collects: one cell per lookahead, each production at most once
    in a cell, and each reduction on a terminal of its left side's follow set, with the
    field map of its production. -/
structure ReductionsExact (g : Grammar) (follow : Array (List Nat)) (mapIds : Array Nat)
    (cells : List (Nat × List Reduction)) : Prop where
  keys : (cells.map Prod.fst).Nodup
  once : ∀ la rs, (la, rs) ∈ cells → (rs.map (·.production)).Nodup
  follows : ∀ la rs, (la, rs) ∈ cells → ∀ r ∈ rs, ∃ prod, g.productions[r.production]? = some prod ∧
    la ∈ (follow[g.offset prod.lhs]?).getD [] ∧ r.fieldMap = (mapIds[r.production]?).getD 0

theorem mem_map_addReduction {cells : List (Nat × List Reduction)} {la la' : Nat}
    {r : Reduction} {rs' : List Reduction}
    (h : (la', rs') ∈ cells.map fun (s, rs) => if s == la then (s, rs ++ [r]) else (s, rs)) :
    ∃ rs₀, (la', rs₀) ∈ cells ∧ (la' = la ∧ rs' = rs₀ ++ [r] ∨ rs' = rs₀) := by
  obtain ⟨⟨s, rs₀⟩, hmem, heq⟩ := List.mem_map.1 h
  by_cases hs : s = la
  · simp only [hs, beq_self_eq_true, ↓reduceIte, Prod.mk.injEq] at heq
    obtain ⟨rfl, rfl⟩ := heq
    exact ⟨rs₀, hs ▸ hmem, .inl ⟨rfl, rfl⟩⟩
  · have hs' : (s == la) = false := by simpa using hs
    simp only [hs', Bool.false_eq_true, ↓reduceIte, Prod.mk.injEq] at heq
    obtain ⟨rfl, rfl⟩ := heq
    exact ⟨_, hmem, .inr rfl⟩

/-- Adding a reduction on a terminal of its follow set keeps the reductions exact: a
    production already in the cell is not added twice. -/
theorem ReductionsExact.add {follow : Array (List Nat)} {mapIds : Array Nat}
    {cells : List (Nat × List Reduction)} (h : ReductionsExact g follow mapIds cells) {la : Nat}
    {r : Reduction} {prod : Production} (hprod : g.productions[r.production]? = some prod)
    (hla : la ∈ (follow[g.offset prod.lhs]?).getD [])
    (hmap : r.fieldMap = (mapIds[r.production]?).getD 0) :
    ReductionsExact g follow mapIds (addReduction cells la r) := by
  have hr : ∃ prod, g.productions[r.production]? = some prod ∧
      la ∈ (follow[g.offset prod.lhs]?).getD [] ∧ r.fieldMap = (mapIds[r.production]?).getD 0 :=
    ⟨prod, hprod, hla, hmap⟩
  unfold addReduction
  split
  · rename_i rs hrs
    split
    · exact h
    -- the production joins the one cell of `la`
    · rename_i hany
      have hnew : r.production ∉ rs.map (·.production) := by
        simpa [List.any_eq_true] using hany
      refine ⟨?_, fun la' rs' hmem => ?_, fun la' rs' hmem r' hr' => ?_⟩
      · have hkeys : (cells.map fun (s, rs) => if s == la then (s, rs ++ [r]) else (s, rs)).map
            Prod.fst = cells.map Prod.fst := by
          rw [List.map_map]
          exact List.map_congr_left fun x _ => addReduction_map_fst la r x
        rw [hkeys]
        exact h.keys
      · obtain ⟨rs₀, hmem₀, ⟨rfl, rfl⟩ | rfl⟩ := mem_map_addReduction hmem
        · obtain rfl : rs₀ = rs := Option.some.inj ((lookup_eq_of_mem h.keys hmem₀).symm.trans hrs)
          rw [List.map_append, List.nodup_append]
          refine ⟨h.once _ _ hmem₀, by simp, fun q hq q' hq' hqq' => hnew ?_⟩
          simp only [List.map_cons, List.map_nil, List.mem_singleton] at hq'
          rw [← hq', ← hqq']
          exact hq
        · exact h.once _ _ hmem₀
      · obtain ⟨rs₀, hmem₀, ⟨rfl, rfl⟩ | rfl⟩ := mem_map_addReduction hmem
        · rcases List.mem_append.1 hr' with hr' | hr'
          · exact h.follows _ _ hmem₀ r' hr'
          · rw [List.mem_singleton.1 hr']
            exact hr
        · exact h.follows _ _ hmem₀ r' hr'
  -- a new cell for `la`
  · rename_i hnone
    have hla' : la ∉ cells.map Prod.fst := by
      intro hmem
      obtain ⟨⟨s, rs⟩, hs, rfl⟩ := List.mem_map.1 hmem
      simpa using List.lookup_eq_none_iff.1 hnone _ hs
    refine ⟨?_, fun la' rs' hmem => ?_, fun la' rs' hmem r' hr' => ?_⟩
    · rw [List.map_append, List.nodup_append]
      refine ⟨h.keys, by simp, fun k hk k' hk' hkk' => hla' ?_⟩
      simp only [List.map_cons, List.map_nil, List.mem_singleton] at hk'
      rw [← hk', ← hkk']
      exact hk
    · rcases List.mem_append.1 hmem with hmem | hmem
      · exact h.once _ _ hmem
      · obtain ⟨rfl, rfl⟩ := Prod.mk.inj (List.mem_singleton.1 hmem)
        simp
    · rcases List.mem_append.1 hmem with hmem | hmem
      · exact h.follows _ _ hmem r' hr'
      · obtain ⟨rfl, rfl⟩ := Prod.mk.inj (List.mem_singleton.1 hmem)
        rw [List.mem_singleton.1 hr']
        exact hr

/-- The reductions of a scan are exact. -/
theorem reductionsExact_scanOf (follow : Array (List Nat)) (mapIds : Array Nat)
    (items : List LrItem) (edges : List (Nat × Nat)) :
    ReductionsExact g follow mapIds (g.scanOf follow mapIds items edges).2.1 := by
  unfold scanOf
  refine List.foldlRecOn
    (motive := fun acc : List (Nat × Nat) × List (Nat × List Reduction) × Bool =>
      ReductionsExact g follow mapIds acc.2.1) _ _ ⟨by simp, by simp, by simp⟩ ?_
  rintro ⟨shifts, reductions, accepts⟩ hacc item -
  unfold scanItem
  dsimp only
  split
  · exact hacc
  · rename_i p hp
    split
    · split
      · split <;> exact hacc
      · exact hacc
    · split
      · exact hacc
      -- a completed production adds its reduction on every terminal of its follow set
      · refine List.foldlRecOn (motive := fun cells => ReductionsExact g follow mapIds cells)
          _ _ hacc ?_
        intro cells hcells la hla
        exact hcells.add hp hla rfl

/-! ### A row's scan against the SLR(1) cell -/

section Scan

open ParseTable.Built (scanAt)

variable {sets : ItemSets} {j : Nat} {items : List LrItem}

theorem exists_transitions (hS : ItemSets.Sound g sets) (hitems : sets.states[j]? = some items) :
    ∃ edges, sets.transitions[j]? = some edges :=
  ⟨_, Array.getElem?_eq_getElem (hS.transitions_size ▸ (Array.getElem?_eq_some_iff.1 hitems).1)⟩

/-- A shift the scan finds leads along an edge to the state of the LR(0) goto. -/
theorem scan_shift (hwf : g.WellFormed) (hS : ItemSets.Sound g sets) (hX : ItemSets.Exact g sets)
    (hitems : sets.states[j]? = some items) {a T : Nat}
    (h : (scanAt g sets j items).1.lookup a = some T) :
    1 ≤ T ∧ T < sets.states.size + 1 ∧ sets.Holds T = g.lrGoto (sets.Holds (j + 1)) a ∧
      (g.moved (sets.Holds (j + 1)) a).Nonempty := by
  obtain ⟨edges, hedges⟩ := exists_transitions hS hitems
  simp only [scanAt, hedges, Option.getD_some] at h
  have hinv : ScanInv g items edges (g.scanOf g.followSets (g.fieldMaps g.fieldNames).2 items edges) :=
    scanInv_foldl _ _ items edges
  obtain ⟨u, hu, rfl⟩ := hinv.shift a T (List.mem_of_lookup h)
  obtain ⟨k, -, hk⟩ := hX.edge j items edges hitems hedges a u hu
  obtain ⟨heq, hne⟩ := holds_edge hwf hX hitems hedges hu
  exact ⟨Nat.le_add_left 1 u, Nat.succ_lt_succ (Array.getElem?_eq_some_iff.1 hk).1, heq, hne⟩

/-- A terminal after a dot of the set gives the scan a shift on it. -/
theorem scan_shift_of_moved (hS : ItemSets.Sound g sets) (hitems : sets.states[j]? = some items)
    {a : Nat} (ha : a < g.tokenCount) (h : (g.moved (sets.Holds (j + 1)) a).Nonempty) :
    ∃ T, (scanAt g sets j items).1.lookup a = some T := by
  obtain ⟨edges, hedges⟩ := exists_transitions hS hitems
  obtain ⟨-, it₀, hit₀, hnext, -⟩ := h
  rw [ItemSets.holds_succ hitems] at hit₀
  obtain ⟨u₀, hu₀⟩ := hS.complete j items edges hitems hedges it₀ hit₀ a hnext
  obtain ⟨u, hu⟩ : ∃ u, edges.lookup a = some u := by
    cases hl : edges.lookup a with
    | none => simpa using List.lookup_eq_none_iff.1 hl (a, u₀) hu₀
    | some u => exact ⟨u, rfl⟩
  obtain ⟨prod, hprod, hrhs⟩ := next?_eq_some hnext
  refine ⟨u + 1, ?_⟩
  simp only [scanAt, hedges, Option.getD_some]
  exact (scanFound_scanOf _ _ items edges).shift it₀ hit₀ prod a u hprod hrhs
    (by simpa [isTerminal] using ha) hu

/-- A reduction the scan finds is one of the SLR(1) cell: a completed production whose
    left side the terminal follows. -/
theorem slrCell_reduce_of_scan (hwf : g.WellFormed) (hS : ItemSets.Sound g sets)
    (hitems : sets.states[j]? = some items) {a p : Nat}
    (h : HasReduction (scanAt g sets j items).2.1 a p) :
    g.SlrCell (sets.Holds (j + 1)) a (.reduce p) := by
  obtain ⟨edges, hedges⟩ := exists_transitions hS hitems
  obtain ⟨rs, hrs, r, hr, rfl⟩ := h
  simp only [scanAt, hedges, Option.getD_some] at hrs
  have hinv : ScanInv g items edges (g.scanOf g.followSets (g.fieldMaps g.fieldNames).2 items edges) :=
    scanInv_foldl _ _ items edges
  obtain ⟨hp0, d, prod, hit, hprod, hnone, -, -⟩ := hinv.reduce a rs (List.mem_of_lookup hrs) r hr
  obtain ⟨prod', hprod', hla, -⟩ :=
    (reductionsExact_scanOf _ _ items edges).follows a rs (List.mem_of_lookup hrs) r hr
  rw [hprod] at hprod'
  cases hprod'
  -- the dot of a valid item that nothing follows is at the end
  have hd : d = prod.rhs.length := by
    obtain ⟨prod'', hprod'', hle⟩ := hS.valid j items hitems _ hit
    rw [hprod] at hprod''
    cases hprod''
    have := List.getElem?_eq_none_iff.1 hnone
    omega
  have hlhs : g.tokenCount ≤ prod.lhs := hwf.lhs_ge prod (Array.mem_of_getElem? hprod)
  refine .reduce (Nat.one_le_iff_ne_zero.2 hp0) hprod ?_ ((mem_followOf_iff hwf hlhs).1 hla)
  rw [ItemSets.holds_succ hitems]
  exact hd ▸ hit

/-- Every reduction of the SLR(1) cell is in the scan. -/
theorem hasReduction_of_slrCell (hwf : g.WellFormed) (hS : ItemSets.Sound g sets)
    (hitems : sets.states[j]? = some items) {a p : Nat}
    (h : g.SlrCell (sets.Holds (j + 1)) a (.reduce p)) :
    HasReduction (scanAt g sets j items).2.1 a p := by
  obtain ⟨edges, hedges⟩ := exists_transitions hS hitems
  cases h with
  | reduce hp hprod hit hfollow =>
    rw [ItemSets.holds_succ hitems] at hit
    have hlhs := hwf.lhs_ge _ (Array.mem_of_getElem? hprod)
    simp only [scanAt, hedges, Option.getD_some]
    exact (scanFound_scanOf _ _ items edges).reduce _ hit _ a (by omega) hprod (by simp)
      ((mem_followOf_iff hwf hlhs).2 hfollow)

/-- The reductions of one cell of the scan: each production once, each with the left
    side, the length and the field map of its production. -/
theorem scan_reductions (hS : ItemSets.Sound g sets) (hitems : sets.states[j]? = some items)
    {a : Nat} {rs : List Reduction} (h : (scanAt g sets j items).2.1.lookup a = some rs) :
    (rs.map (·.production)).Nodup ∧ ∀ r ∈ rs, ∃ prod, g.productions[r.production]? = some prod ∧
      r.symbol = prod.lhs ∧ r.childCount = prod.rhs.length ∧
      r.fieldMap = ((g.fieldMaps g.fieldNames).2[r.production]?).getD 0 := by
  obtain ⟨edges, hedges⟩ := exists_transitions hS hitems
  simp only [scanAt, hedges, Option.getD_some] at h
  have hinv : ScanInv g items edges (g.scanOf g.followSets (g.fieldMaps g.fieldNames).2 items edges) :=
    scanInv_foldl _ _ items edges
  have hexact := reductionsExact_scanOf (g := g) g.followSets (g.fieldMaps g.fieldNames).2 items edges
  refine ⟨hexact.once a rs (List.mem_of_lookup h), fun r hr => ?_⟩
  obtain ⟨-, d, prod, -, hprod, -, hsym, hcount⟩ := hinv.reduce a rs (List.mem_of_lookup h) r hr
  obtain ⟨prod', hprod', -, hmap⟩ := hexact.follows a rs (List.mem_of_lookup h) r hr
  rw [hprod] at hprod'
  cases hprod'
  exact ⟨prod, hprod, hsym, hcount, hmap⟩

/-- The scan accepts exactly when the set holds the completed augmented item. -/
theorem scan_accept_iff (hS : ItemSets.Sound g sets) (hitems : sets.states[j]? = some items) :
    (scanAt g sets j items).2.2 = true ↔
      ∃ prod, g.productions[0]? = some prod ∧ sets.Holds (j + 1) (0, prod.rhs.length) := by
  obtain ⟨edges, hedges⟩ := exists_transitions hS hitems
  simp only [scanAt, hedges, Option.getD_some]
  rw [ItemSets.holds_succ hitems]
  constructor
  · intro h
    have hinv : ScanInv g items edges
        (g.scanOf g.followSets (g.fieldMaps g.fieldNames).2 items edges) :=
      scanInv_foldl _ _ items edges
    obtain ⟨d, prod, hit, hprod, hnone⟩ := hinv.accept h
    obtain ⟨prod', hprod', hle⟩ := hS.valid j items hitems _ hit
    rw [hprod] at hprod'
    cases hprod'
    have := List.getElem?_eq_none_iff.1 hnone
    exact ⟨prod, hprod, by rw [show prod.rhs.length = d by omega]; exact hit⟩
  · rintro ⟨prod, hprod, hit⟩
    exact (scanFound_scanOf _ _ items edges).accept _ hit prod rfl hprod (by simp)

/-- The SLR(1) cell of state `j + 1` on a terminal, read off the scan of its set. -/
theorem slrCell_iff (hwf : g.WellFormed) (hS : ItemSets.Sound g sets) (hX : ItemSets.Exact g sets)
    (hitems : sets.states[j]? = some items) {a : Nat} (ha : a < g.tokenCount) {x : SlrAction} :
    g.SlrCell (sets.Holds (j + 1)) a x ↔
      (((scanAt g sets j items).1.lookup a).isSome ∧ x = .shift (g.lrGoto (sets.Holds (j + 1)) a)) ∨
      (∃ p, HasReduction (scanAt g sets j items).2.1 a p ∧ x = .reduce p) ∨
      ((scanAt g sets j items).2.2 = true ∧ a = endSymbol ∧ x = .accept) := by
  constructor
  · intro h
    cases h with
    | shift hne =>
      obtain ⟨T, hT⟩ := scan_shift_of_moved hS hitems ha hne
      exact .inl ⟨by simp [hT], rfl⟩
    | reduce hp hprod hit hfollow =>
      exact .inr (.inl ⟨_, hasReduction_of_slrCell hwf hS hitems (.reduce hp hprod hit hfollow), rfl⟩)
    | accept hprod hit ha0 =>
      exact .inr (.inr ⟨(scan_accept_iff hS hitems).2 ⟨_, hprod, hit⟩, ha0, rfl⟩)
  · rintro (⟨hsome, rfl⟩ | ⟨p, hp, rfl⟩ | ⟨hacc, rfl, rfl⟩)
    · obtain ⟨T, hT⟩ := Option.isSome_iff_exists.1 hsome
      exact .shift (scan_shift hwf hS hX hitems hT).2.2.2
    · exact slrCell_reduce_of_scan hwf hS hitems hp
    · obtain ⟨prod, hprod, hit⟩ := (scan_accept_iff hS hitems).1 hacc
      exact .accept hprod hit rfl

/-! ### Cells and conflicts -/

theorem not_hasReduction_of_getD_nil {cells : List (Nat × List Reduction)} {a p : Nat}
    (h : (cells.lookup a).getD [] = []) : ¬HasReduction cells a p := by
  rintro ⟨rs, hrs, r, hr, -⟩
  rw [hrs, Option.getD_some] at h
  subst h
  cases hr

theorem lookup_eq_some_of_getD_cons {cells : List (Nat × List Reduction)} {a : Nat}
    {r : Reduction} {rest : List Reduction} (h : (cells.lookup a).getD [] = r :: rest) :
    cells.lookup a = some (r :: rest) := by
  cases hl : cells.lookup a with
  | none =>
    rw [hl] at h
    cases h
  | some rs =>
    rw [hl, Option.getD_some] at h
    rw [h]

/-- A cell the builder writes agrees with the SLR(1) cell of its set. -/
theorem cellAgrees_of_scan (hwf : g.WellFormed) (hS : ItemSets.Sound g sets)
    (hX : ItemSets.Exact g sets) (hend : ∀ prod ∈ g.productions, endSymbol ∉ prod.rhs)
    (hitems : sets.states[j]? = some items) {a : Nat} (ha : a < g.tokenCount)
    {res : Option Action}
    (hres : g.cellAction (j + 1) a ((scanAt g sets j items).1.lookup a)
      (((scanAt g sets j items).2.1.lookup a).getD [])
      ((scanAt g sets j items).2.2 && a == endSymbol) = .ok res) :
    g.CellAgrees sets.Holds (sets.states.size + 1) (sets.Holds (j + 1)) (j + 1) a
      (g.cellOf (j + 1) a res) := by
  have hcell := fun {x} => slrCell_iff hwf hS hX hitems ha (x := x)
  rcases cellAction_ok hres with ⟨T, hT, hnil, rfl⟩ | ⟨r, hshift, hone, hacc, rfl⟩ |
    ⟨hshift, hnil, rfl⟩
  · -- a shift alone; no acceptance beside it, since the end of the input is never shifted
    obtain ⟨hT1, hTlt, hgoto, hne⟩ := scan_shift hwf hS hX hitems hT
    refine .inl ⟨_, .shift hne, fun y hy => ?_, _, rfl, hT1, hTlt, hgoto⟩
    rcases hcell.1 hy with ⟨-, rfl⟩ | ⟨p, hp, -⟩ | ⟨-, rfl, -⟩
    · rfl
    · exact absurd hp (not_hasReduction_of_getD_nil hnil)
    · obtain ⟨-, it₀, -, hnext, -⟩ := hne
      obtain ⟨prod, hprod, hrhs⟩ := next?_eq_some hnext
      exact absurd (List.mem_of_getElem? hrhs) (hend prod (Array.mem_of_getElem? hprod))
  · -- a single reduction
    have hrs := lookup_eq_some_of_getD_cons hone
    obtain ⟨-, hdata⟩ := scan_reductions hS hitems hrs
    obtain ⟨prod, hprod, hsym, hcount, hmap⟩ := hdata r List.mem_cons_self
    refine .inl ⟨.reduce r.production,
      slrCell_reduce_of_scan hwf hS hitems ⟨_, hrs, r, List.mem_cons_self, rfl⟩,
      fun y hy => ?_, _, rfl, prod, hprod, hsym, hcount, hmap⟩
    rcases hcell.1 hy with ⟨hsome, -⟩ | ⟨p, ⟨rs, hrs', r', hr', rfl⟩, rfl⟩ | ⟨hacc', rfl, -⟩
    · rw [hshift] at hsome
      cases hsome
    · rw [hrs] at hrs'
      cases hrs'
      rw [List.mem_singleton.1 hr']
    · simp [hacc'] at hacc
  · cases hacc : ((scanAt g sets j items).2.2 && a == endSymbol) with
    | true =>
      obtain ⟨hacc', ha'⟩ : (scanAt g sets j items).2.2 = true ∧ a = endSymbol := by
        simpa using hacc
      refine .inl ⟨.accept, hcell.2 (.inr (.inr ⟨hacc', ha', rfl⟩)), fun y hy => ?_, .accept,
        by simp [cellOf], trivial⟩
      rcases hcell.1 hy with ⟨hsome, -⟩ | ⟨p, hp, -⟩ | ⟨-, -, rfl⟩
      · rw [hshift] at hsome
        cases hsome
      · exact absurd hp (not_hasReduction_of_getD_nil hnil)
      · rfl
    | false =>
      have hnone : ∀ x, ¬g.SlrCell (sets.Holds (j + 1)) a x := by
        intro x hx
        rcases hcell.1 hx with ⟨hsome, -⟩ | ⟨p, hp, -⟩ | ⟨hacc', ha', -⟩
        · rw [hshift] at hsome
          cases hsome
        · exact not_hasReduction_of_getD_nil hnil hp
        · simp [hacc', ha'] at hacc
      by_cases hextra : a ∈ g.extras
      · exact .inr (.inl ⟨hnone, hextra, by simp [cellOf, hextra]⟩)
      · exact .inr (.inr ⟨hnone, hextra, by simp [cellOf, hextra]⟩)

/-- A conflict the builder reports in a cell is one of the SLR(1) cell of its set, and
    names the state and the terminal. -/
theorem slrConflict_of_cellAction_error (hwf : g.WellFormed) (hS : ItemSets.Sound g sets)
    (hX : ItemSets.Exact g sets) (hitems : sets.states[j]? = some items) {a : Nat}
    (ha : a < g.tokenCount) {e : GrammarError}
    (h : g.cellAction (j + 1) a ((scanAt g sets j items).1.lookup a)
      (((scanAt g sets j items).2.1.lookup a).getD [])
      ((scanAt g sets j items).2.2 && a == endSymbol) = .error e) :
    (∃ name detail, e = .conflict (j + 1) a name detail) ∧
      g.SlrConflict (sets.Holds (j + 1)) a := by
  have hcell := fun {x} => slrCell_iff hwf hS hX hitems ha (x := x)
  unfold cellAction at h
  split at h
  · -- a shift beside a reduction
    rename_i T r rest hshift hreds
    cases h
    refine ⟨⟨_, _, rfl⟩, .inl ⟨_, r.production, hcell.2 (.inl ⟨by simp [hshift], rfl⟩), ?_⟩⟩
    exact slrCell_reduce_of_scan hwf hS hitems
      ⟨_, lookup_eq_some_of_getD_cons hreds, r, List.mem_cons_self, rfl⟩
  · rename_i r rest hreds _
    split at h
    · rename_i hcond
      cases h
      have hrs := lookup_eq_some_of_getD_cons hreds
      have hr := slrCell_reduce_of_scan hwf hS hitems ⟨_, hrs, r, List.mem_cons_self, rfl⟩
      refine ⟨⟨_, _, rfl⟩, ?_⟩
      cases rest with
      | nil =>
        -- the single reduction beside acceptance
        obtain ⟨hacc, ha'⟩ : (scanAt g sets j items).2.2 = true ∧ a = endSymbol := by
          simpa using hcond
        exact .inr (.inr ⟨_, hr, hcell.2 (.inr (.inr ⟨hacc, ha', rfl⟩))⟩)
      | cons r' rest =>
        -- two reductions, which the scan keeps by different productions
        have hnd := (scan_reductions hS hitems hrs).1
        simp only [List.map_cons, List.nodup_cons, List.mem_cons, not_or] at hnd
        exact .inr (.inl ⟨_, _, hnd.1.1, hr, slrCell_reduce_of_scan hwf hS hitems
          ⟨_, hrs, r', List.mem_cons_of_mem r List.mem_cons_self, rfl⟩⟩)
    · cases h
  · cases h
  · split at h <;> cases h

/-! ### The whole table -/

/-- A table the builder refuses has a cell of some state whose action fails. -/
theorem exists_cellAction_error {e : GrammarError}
    (h : g.tableWith sets (g.fieldMaps g.fieldNames) = .error e) :
    ∃ j items a, sets.states[j]? = some items ∧ a < g.tokenCount ∧
      g.cellAction (j + 1) a ((scanAt g sets j items).1.lookup a)
        (((scanAt g sets j items).2.1.lookup a).getD [])
        ((scanAt g sets j items).2.2 && a == endSymbol) = .error e := by
  simp only [tableWith] at h
  rcases Except.bind_eq_error.1 h with hfold | ⟨_, -, hpure⟩
  · obtain ⟨⟨items, j⟩, hmem, acc, hfill⟩ := List.foldlM_except_error _ _ hfold
    rw [List.mem_zipIdx_iff_getElem?, Array.getElem?_toList] at hmem
    simp only [fillState] at hfill
    generalize hscan : List.foldl _ ([], [], false) items = scan at hfill
    have hscanAt : scanAt g sets j items = scan := hscan
    obtain ⟨shifts, reductions, accepts⟩ := scan
    rcases Except.bind_eq_error.1 hfill with hcells | ⟨_, -, hpure⟩
    · change (List.range g.tokenCount).foldlM (g.writeCell j (shifts, reductions, accepts))
        acc.1 = .error e at hcells
      obtain ⟨a, ha, acts, hw⟩ := List.foldlM_except_error _ _ hcells
      unfold writeCell at hw
      rcases Except.bind_eq_error.1 hw with hw | ⟨_, -, hpure⟩
      · exact ⟨j, items, a, hmem, List.mem_range.1 ha, by rw [hscanAt]; exact hw⟩
      · cases hpure
    · cases hpure
  · cases hpure

theorem table_stateCount {t : ParseTable} (h : g.table sets = .ok t) :
    t.stateCount = sets.states.size + 1 := by
  replace h := tableWith_of_table h
  simp only [tableWith] at h
  obtain ⟨⟨actions, gotos⟩, -, h⟩ := Except.bind_eq_ok.1 h
  cases h
  rfl

end Scan

end Grammar

namespace ParseTable.Built

open ParseTable.Built (scanAt)

variable {t : ParseTable} {g : Grammar} {sets : ItemSets}

/-- The cell of state `j + 1` on a terminal is the one the scan of set `j` gives. -/
theorem actionsAt_of_scan (hb : t.Built g sets) {j : Nat} {items : List LrItem}
    (hitems : sets.states[j]? = some items) {a : Nat} (ha : a < g.tokenCount) :
    ∃ res, g.cellAction (j + 1) a ((scanAt g sets j items).1.lookup a)
        (((scanAt g sets j items).2.1.lookup a).getD [])
        ((scanAt g sets j items).2.2 && a == endSymbol) = .ok res ∧
      t.actionsAt (j + 1) a = g.cellOf (j + 1) a res := by
  obtain ⟨res, hres, hcell⟩ := Grammar.table_row hb.table hitems a ha
  refine ⟨res, hres, ?_⟩
  have herr : a ≠ errorSymbol := by
    have := hb.wellFormed.tokenCount_lt
    have := hb.wellFormed.size_le
    omega
  unfold ParseTable.actionsAt
  rw [hb.tokenCount_eq, if_neg (by omega), hcell, Option.getD_some]

/-- A goto of a built table on a nonterminal is the LR(0) goto of its state's set: 0
    where that is empty, and otherwise the state of that set. -/
theorem gotoAgrees (hb : t.Built g sets) (hX : ItemSets.Exact g sets) (hc : sets.Complete g)
    {j : Nat} (hj : j < sets.states.size) {A : Nat} (hA : g.tokenCount ≤ A)
    (hAlt : A < g.symbolNames.size) :
    g.GotoAgrees sets.Holds (sets.states.size + 1) (sets.Holds (j + 1)) A (t.goto (j + 1) A) := by
  by_cases h0 : t.goto (j + 1) A = 0
  · refine .inl ⟨h0, fun hne => ?_⟩
    obtain ⟨-, ⟨p, d⟩, hit, hnext, -⟩ := Grammar.lrGoto_nonempty_iff.1 hne
    exact (hb.goto_of_next hc hit hnext hA).1 h0
  · obtain ⟨-, -, edges, hedges, hmem⟩ := hb.goto_sound (hb.symbolCount_eq ▸ hAlt) h0
    rw [Nat.add_sub_cancel] at hedges
    have hitems := Array.getElem?_eq_getElem hj
    obtain ⟨heq, -⟩ := Grammar.holds_edge hb.wellFormed hX hitems hedges hmem
    obtain ⟨k, -, hk⟩ := hX.edge j _ edges hitems hedges A _ hmem
    have hlt := (Array.getElem?_eq_some_iff.1 hk).1
    have h1 : 1 ≤ t.goto (j + 1) A := Nat.one_le_iff_ne_zero.2 h0
    refine .inr ⟨h1, by omega, ?_⟩
    rwa [Nat.sub_add_cancel h1] at heq

end ParseTable.Built

namespace Grammar

/-- Every production's field map number is below the number of field maps, and there is
    at most one map more than there are productions. -/
theorem fieldMaps_bounds (g : Grammar) (names : List String) :
    (g.fieldMaps names).1.size ≤ g.productions.size + 1 ∧
      ∀ id ∈ (g.fieldMaps names).2, id < (g.fieldMaps names).1.size := by
  unfold fieldMaps
  apply Array.foldl_induction (motive := fun i (acc : Array (List FieldEntry) × Array Nat) =>
    acc.1.size ≤ i + 1 ∧ ∀ id ∈ acc.2, id < acc.1.size)
  · simp
  · rintro i ⟨maps, ids⟩ ⟨hsize, hids⟩
    dsimp only at hsize hids ⊢
    split
    · -- an equal map is there already: its number is one of the maps'
      rename_i id hfind
      have hid := (Array.findIdx?_eq_some_iff_getElem.1 hfind).1
      refine ⟨by dsimp only; omega, fun x hx => ?_⟩
      rcases Array.mem_push.1 hx with hx | rfl
      · exact hids x hx
      · exact hid
    · refine ⟨by simp; omega, fun x hx => ?_⟩
      rcases Array.mem_push.1 hx with hx | rfl
      · have := hids x hx
        simp only [Array.size_push]
        omega
      · simp

/-- With fewer than 65536 productions every field map number fits in 16 bits, and the
    table is the one built over the field maps. -/
theorem table_eq_tableWith {g : Grammar} {sets : ItemSets} (h : g.productions.size < 65536) :
    g.table sets = g.tableWith sets (g.fieldMaps g.fieldNames) := by
  have ⟨hsize, hids⟩ := g.fieldMaps_bounds g.fieldNames
  have hfit : (g.fieldMaps g.fieldNames).2.any (· > 65535) = false := by
    rw [Array.any_eq_false]
    intro i hi
    have := hids _ (Array.getElem_mem hi)
    simp only [gt_iff_lt, decide_eq_true_eq, Nat.not_lt]
    omega
  simp only [table]
  rw [if_neg (by simp [hfit])]

/-- What building the SLR(1) table of `g` may give, where `sets` numbers its item sets:
    a conflict, reported in a state whose set is of the canonical collection and on a
    terminal whose SLR(1) cell has a conflict, exactly when some cell has one; otherwise
    a table whose states after the error state stand each for one set of the canonical
    collection and every set for one state, the start state for the closure of the
    augmented start item, with every goto the LR(0) goto and every cell agreeing with
    its SLR(1) cell. -/
def SlrOutcome (g : Grammar) (sets : ItemSets) (result : Except GrammarError ParseTable) :
    Prop :=
  (∀ e, result = .error e → ∃ T a name detail, e = .conflict T a name detail ∧
    g.Canonical (sets.Holds T) ∧ a < g.tokenCount ∧ g.SlrConflict (sets.Holds T) a) ∧
  ((∃ I a, g.Canonical I ∧ a < g.tokenCount ∧ g.SlrConflict I a) → ∃ e, result = .error e) ∧
  ∀ t, result = .ok t → ∃ φ : Nat → Set LrItem,
    Set.BijOn φ (Set.Ico 1 t.stateCount) {I | g.Canonical I} ∧
    φ startState = g.Closure {(0, 0)} ∧
    (∀ T ∈ Set.Ico 1 t.stateCount, ∀ A, g.tokenCount ≤ A → A < g.symbolNames.size →
      g.GotoAgrees φ t.stateCount (φ T) A (t.goto T A)) ∧
    ∀ T ∈ Set.Ico 1 t.stateCount, ∀ a < g.tokenCount,
      g.CellAgrees φ t.stateCount (φ T) T a (t.actionsAt T a)

end Grammar

end IncrementalLR
