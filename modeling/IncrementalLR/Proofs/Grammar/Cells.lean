import IncrementalLR.Proofs.Grammar.Actions
import IncrementalLR.Proofs.Grammar.Closure
import IncrementalLR.Proofs.Grammar.FirstFollow

/-!
# The cells that a complete automaton gives

`Grammar.action_sound` reads every action of a built table back as a fact about its
automaton.
-/

namespace IncrementalLR

/-- Table state `s` is item set `s - 1`, which holds item `it`. -/
def ItemSets.Holds (sets : ItemSets) (s : Nat) (it : LrItem) : Prop :=
  1 ≤ s ∧ ∃ items, sets.states[s - 1]? = some items ∧ it ∈ items

namespace Grammar

variable {g : Grammar}

/-! ### Lookups in the scan of a set -/

theorem lookup_shift (l : List (Nat × Nat)) (s b t : Nat) :
    ((l.filter (·.1 != s)) ++ [(s, t)]).lookup b = if b = s then some t else l.lookup b := by
  rw [List.lookup_append]
  split
  · rename_i hb
    subst hb
    have hnone : (l.filter (·.1 != b)).lookup b = none := by
      rw [List.lookup_eq_none_iff]
      intro p hp
      have := (List.mem_filter.1 hp).2
      simp only [bne_iff_ne, ne_eq] at this ⊢
      exact fun h => this h.symm
    simp [hnone]
  · rename_i hb
    have hfilter : (l.filter (·.1 != s)).lookup b = l.lookup b := by
      induction l with
      | nil => rfl
      | cons x xs ih =>
        obtain ⟨k, v⟩ := x
        by_cases hk : k = s
        · subst hk
          have hbk : (b == k) = false := by simpa using hb
          simp [List.lookup_cons, hbk, ih]
        · simp [hk, List.lookup_cons, ih]
    have hsingle : [(s, t)].lookup b = none := by
      have hbs : (b == s) = false := by simpa using hb
      simp [List.lookup_cons, hbs]
    rw [hfilter, hsingle, Option.or_none]

/-- Some reduction of production `q` is in the cell of `la`. -/
def HasReduction (cells : List (Nat × List Reduction)) (la q : Nat) : Prop :=
  ∃ rs, cells.lookup la = some rs ∧ ∃ r ∈ rs, r.production = q

/-- Mapping the values of a list of pairs, keys kept, maps what a key looks up. -/
theorem lookup_map_keys {f : Nat × List Reduction → Nat × List Reduction}
    (hf : ∀ x, (f x).1 = x.1) (l : List (Nat × List Reduction)) (k : Nat) :
    (l.map f).lookup k = (l.lookup k).map fun rs => (f (k, rs)).2 := by
  induction l with
  | nil => rfl
  | cons x xs ih =>
    obtain ⟨s, rs⟩ := x
    have h1 := hf (s, rs)
    rcases hfx : f (s, rs) with ⟨s', rs'⟩
    rw [hfx] at h1
    simp only at h1
    subst h1
    by_cases hk : k = s'
    · subst hk
      simp [hfx]
    · have hks : (k == s') = false := by simpa using hk
      simp only [List.map_cons, hfx, List.lookup_cons, hks, ih]

/-- The values that `addReduction` maps keep their keys, and gain the reduction at `la`. -/
theorem addReduction_map_fst (la : Nat) (r : Reduction) (x : Nat × List Reduction) :
    ((fun (s, rs) => if s == la then (s, rs ++ [r]) else (s, rs)) x).1 = x.1 := by
  obtain ⟨s, rs⟩ := x
  dsimp only
  split <;> rfl

theorem mem_addReduction_map_snd {la k : Nat} {r r' : Reduction} {rs : List Reduction}
    (h : r' ∈ rs) :
    r' ∈ ((fun (s, rs) => if s == la then (s, rs ++ [r]) else (s, rs)) (k, rs)).2 := by
  dsimp only
  split
  · exact List.mem_append_left _ h
  · exact h

/-- Adding a reduction keeps every reduction of every cell. -/
theorem HasReduction.addReduction {cells : List (Nat × List Reduction)} {la' q : Nat}
    (h : HasReduction cells la' q) (la : Nat) (r : Reduction) :
    HasReduction (IncrementalLR.Grammar.addReduction cells la r) la' q := by
  obtain ⟨rs, hrs, r', hr', hq⟩ := h
  unfold Grammar.addReduction
  split
  · split
    · exact ⟨rs, hrs, r', hr', hq⟩
    · exact ⟨_, by rw [lookup_map_keys (addReduction_map_fst la r), hrs]; rfl, r',
        mem_addReduction_map_snd hr', hq⟩
  · exact ⟨rs, by rw [List.lookup_append, hrs]; rfl, r', hr', hq⟩

/-- After adding a reduction, its cell has a reduction of its production. -/
theorem hasReduction_addReduction (cells : List (Nat × List Reduction)) (la : Nat)
    (r : Reduction) : HasReduction (addReduction cells la r) la r.production := by
  unfold Grammar.addReduction
  split
  · rename_i rs hrs
    split
    · rename_i hany
      obtain ⟨r', hr', hq⟩ := List.any_eq_true.1 hany
      exact ⟨rs, hrs, r', hr', by simpa using hq⟩
    · refine ⟨_, by rw [lookup_map_keys (addReduction_map_fst la r), hrs]; rfl, r, ?_, rfl⟩
      simp
  · rename_i hnone
    refine ⟨[r], by rw [List.lookup_append, hnone]; simp, r, by simp, rfl⟩

/-- Adding a reduction on every lookahead of a list keeps what the cells had and gives
    each of those lookaheads a reduction of its production. -/
theorem hasReduction_foldl (r : Reduction) :
    ∀ (lookaheads : List Nat) (cells : List (Nat × List Reduction)),
      (∀ la' q, HasReduction cells la' q →
        HasReduction (lookaheads.foldl (fun cells la => addReduction cells la r) cells) la' q) ∧
      ∀ la ∈ lookaheads,
        HasReduction (lookaheads.foldl (fun cells la => addReduction cells la r) cells) la
          r.production
  | [], _ => ⟨fun _ _ h => h, by simp⟩
  | la :: rest, cells => by
    obtain ⟨hkeep, hnew⟩ := hasReduction_foldl r rest (addReduction cells la r)
    refine ⟨fun la' q h => hkeep la' q (h.addReduction la r), fun la' hla' => ?_⟩
    rcases List.mem_cons.1 hla' with rfl | hla'
    · exact hkeep _ _ (hasReduction_addReduction cells la' r)
    · exact hnew la' hla'

/-! ### Scanning one set -/

/-- The scan of one item in `fillState`. -/
def scanItem (g : Grammar) (follow : Array (List Nat)) (mapIds : Array Nat)
    (edges : List (Nat × Nat)) (acc : List (Nat × Nat) × List (Nat × List Reduction) × Bool)
    (item : LrItem) : List (Nat × Nat) × List (Nat × List Reduction) × Bool :=
  let (shifts, reductions, accepts) := acc
  match g.productions[item.1]? with
  | none => acc
  | some p =>
    match p.rhs[item.2]? with
    | some s =>
      if g.isTerminal s then
        match edges.lookup s with
        | some t => ((shifts.filter (·.1 != s)) ++ [(s, t + 1)], reductions, accepts)
        | none => acc
      else acc
    | none =>
      if item.1 = 0 then (shifts, reductions, true)
      else
        let r : Reduction := ⟨item.1, p.lhs, p.rhs.length, (mapIds[item.1]?).getD 0⟩
        let reductions := ((follow[g.offset p.lhs]?).getD []).foldl
          (fun cells la => addReduction cells la r) reductions
        (shifts, reductions, accepts)

/-- The shifts, reductions and acceptance the builder finds in a set. -/
def scanOf (g : Grammar) (follow : Array (List Nat)) (mapIds : Array Nat) (items : List LrItem)
    (edges : List (Nat × Nat)) : List (Nat × Nat) × List (Nat × List Reduction) × Bool :=
  items.foldl (g.scanItem follow mapIds edges) ([], [], false)

/-- What the scan has found after the items `done`: every shift leads along the edge on
    its terminal; every terminal after a dot has its shift; every completed production
    other than the augmented start has a reduction on each terminal of its follow set;
    and the completed augmented item gives acceptance. -/
structure ScanFound (g : Grammar) (follow : Array (List Nat)) (edges : List (Nat × Nat))
    (done : List LrItem) (acc : List (Nat × Nat) × List (Nat × List Reduction) × Bool) :
    Prop where
  edge : ∀ b T, acc.1.lookup b = some T → ∃ u, edges.lookup b = some u ∧ T = u + 1
  shift : ∀ it ∈ done, ∀ prod b u, g.productions[it.1]? = some prod → prod.rhs[it.2]? = some b →
    g.isTerminal b = true → edges.lookup b = some u → acc.1.lookup b = some (u + 1)
  reduce : ∀ it ∈ done, ∀ prod la, it.1 ≠ 0 → g.productions[it.1]? = some prod →
    prod.rhs[it.2]? = none → la ∈ (follow[g.offset prod.lhs]?).getD [] →
      HasReduction acc.2.1 la it.1
  accept : ∀ it ∈ done, ∀ prod, it.1 = 0 → g.productions[0]? = some prod →
    prod.rhs[it.2]? = none → acc.2.2 = true

theorem ScanFound.step {follow : Array (List Nat)} (mapIds : Array Nat)
    {edges : List (Nat × Nat)} {done : List LrItem}
    {acc : List (Nat × Nat) × List (Nat × List Reduction) × Bool}
    (h : ScanFound g follow edges done acc) (item : LrItem) :
    ScanFound g follow edges (done ++ [item]) (g.scanItem follow mapIds edges acc item) := by
  obtain ⟨shifts, reductions, accepts⟩ := acc
  obtain ⟨hedge, hshift, hreduce, haccept⟩ := h
  -- an item of `done` keeps what it found; the new item is taken case by case
  have hnew : ∀ {P : LrItem → Prop}, (∀ it ∈ done, P it) → P item → ∀ it ∈ done ++ [item], P it :=
    fun hd hi it hit => (List.mem_append.1 hit).elim (hd it) fun h => List.mem_singleton.1 h ▸ hi
  unfold scanItem
  dsimp only
  split
  · rename_i hnone
    refine ⟨hedge, hnew hshift ?_, hnew hreduce ?_, hnew haccept ?_⟩
    · intro prod b u hp
      rw [hnone] at hp
      cases hp
    · intro prod la _ hp
      rw [hnone] at hp
      cases hp
    · intro prod h0 hp
      rw [← h0, hnone] at hp
      cases hp
  · rename_i p hp
    split
    · rename_i s hs
      split
      · rename_i hterm
        split
        -- a shift along the edge on `s`; the shifts of other terminals stay
        · rename_i t ht
          refine ⟨fun b T hT => ?_, hnew (fun it hit prod b u hprod hb hbt hu => ?_) ?_,
            hnew hreduce ?_, hnew haccept ?_⟩
          · rw [lookup_shift] at hT
            split at hT
            · rename_i hbs
              subst hbs
              cases hT
              exact ⟨t, ht, rfl⟩
            · exact hedge b T hT
          · rw [lookup_shift]
            split
            · rename_i hbs
              subst hbs
              rw [ht] at hu
              cases hu
              rfl
            · exact hshift it hit prod b u hprod hb hbt hu
          · intro prod b u hprod hb _ hu
            rw [hp] at hprod
            cases hprod
            rw [hs] at hb
            cases hb
            rw [lookup_shift, if_pos rfl]
            rw [ht] at hu
            cases hu
            rfl
          · intro prod la _ hprod hnone
            rw [hp] at hprod
            cases hprod
            rw [hs] at hnone
            cases hnone
          · intro prod h0 hprod hnone
            rw [← h0, hp] at hprod
            cases hprod
            rw [hs] at hnone
            cases hnone
        · rename_i hnone
          refine ⟨hedge, hnew hshift ?_, hnew hreduce ?_, hnew haccept ?_⟩
          · intro prod b u hprod hb _ hu
            rw [hp] at hprod
            cases hprod
            rw [hs] at hb
            cases hb
            rw [hnone] at hu
            cases hu
          · intro prod la _ hprod hnone'
            rw [hp] at hprod
            cases hprod
            rw [hs] at hnone'
            cases hnone'
          · intro prod h0 hprod hnone'
            rw [← h0, hp] at hprod
            cases hprod
            rw [hs] at hnone'
            cases hnone'
      · rename_i hterm
        refine ⟨hedge, hnew hshift ?_, hnew hreduce ?_, hnew haccept ?_⟩
        · intro prod b u hprod hb hbt _
          rw [hp] at hprod
          cases hprod
          rw [hs] at hb
          cases hb
          exact absurd hbt hterm
        · intro prod la _ hprod hnone
          rw [hp] at hprod
          cases hprod
          rw [hs] at hnone
          cases hnone
        · intro prod h0 hprod hnone
          rw [← h0, hp] at hprod
          cases hprod
          rw [hs] at hnone
          cases hnone
    · rename_i hnone
      split
      -- the completed augmented item accepts
      · rename_i h0
        refine ⟨hedge, hnew hshift ?_, hnew hreduce ?_, fun _ _ _ _ _ _ => rfl⟩
        · intro prod b u hprod hb
          rw [hp] at hprod
          cases hprod
          rw [hnone] at hb
          cases hb
        · intro prod la hne
          exact absurd h0 hne
      -- a completed item reduces on every terminal of its follow set
      · rename_i h0
        obtain ⟨hkeep, hfound⟩ := hasReduction_foldl
          ⟨item.1, p.lhs, p.rhs.length, (mapIds[item.1]?).getD 0⟩
          ((follow[g.offset p.lhs]?).getD []) reductions
        refine ⟨hedge, hnew hshift ?_, hnew (fun it hit prod la h0' hprod hnone' hla =>
          hkeep la it.1 (hreduce it hit prod la h0' hprod hnone' hla)) ?_, hnew haccept ?_⟩
        · intro prod b u hprod hb
          rw [hp] at hprod
          cases hprod
          rw [hnone] at hb
          cases hb
        · intro prod la _ hprod _ hla
          rw [hp] at hprod
          cases hprod
          exact hfound la hla
        · intro prod h0' _ _
          exact absurd h0' h0

theorem scanFound_foldl {follow : Array (List Nat)} (mapIds : Array Nat)
    {edges : List (Nat × Nat)} :
    ∀ (l done : List LrItem) (acc : List (Nat × Nat) × List (Nat × List Reduction) × Bool),
      ScanFound g follow edges done acc →
        ScanFound g follow edges (done ++ l) (l.foldl (g.scanItem follow mapIds edges) acc)
  | [], done, acc, h => by simpa using h
  | item :: l, done, acc, h => by
    have := scanFound_foldl mapIds l (done ++ [item]) _ (h.step mapIds item)
    simpa using this

/-- The scan of a set finds every shift, reduction and acceptance its items call for. -/
theorem scanFound_scanOf (follow : Array (List Nat)) (mapIds : Array Nat) (items : List LrItem)
    (edges : List (Nat × Nat)) :
    ScanFound g follow edges items (g.scanOf follow mapIds items edges) := by
  have hempty : ScanFound g follow edges [] ([], [], false) :=
    ⟨by simp, by simp, by simp, by simp⟩
  simpa [scanOf] using scanFound_foldl mapIds items [] _ hempty

/-! ### Writing the cells -/

/-- The cell the builder writes for the action of a cell: that action alone, or, for an
    empty cell of an extra, a shift that keeps the state. -/
def cellOf (g : Grammar) (state symbol : Nat) : Option Action → List Action
  | some a => [a]
  | none => if g.extras.contains symbol then [.shift state true] else []

/-- The writing of one cell of state `index + 1` in `fillState`. -/
def writeCell (g : Grammar) (index : Nat)
    (scan : List (Nat × Nat) × List (Nat × List Reduction) × Bool)
    (actions : Array (List Action)) (symbol : Nat) : Except GrammarError (Array (List Action)) := do
  let action ← g.cellAction (index + 1) symbol (scan.1.lookup symbol)
    ((scan.2.1.lookup symbol).getD []) (scan.2.2 && symbol == endSymbol)
  pure (actions.setIfInBounds ((index + 1) * g.tokenCount + symbol) (g.cellOf (index + 1) symbol action))

/-- Row `index + 1` of `actions` holds, for every terminal, the cell of the action that
    the scan of its set gives. -/
def RowWritten (g : Grammar) (actions : Array (List Action)) (index : Nat)
    (scan : List (Nat × Nat) × List (Nat × List Reduction) × Bool) : Prop :=
  ∀ a < g.tokenCount, ∃ res, g.cellAction (index + 1) a (scan.1.lookup a)
      ((scan.2.1.lookup a).getD []) (scan.2.2 && a == endSymbol) = .ok res ∧
    actions[(index + 1) * g.tokenCount + a]? = some (g.cellOf (index + 1) a res)

/-- Writing the cells of terminals `l`, each once, writes each where it belongs and
    nothing else. -/
theorem foldlM_writeCell {index : Nat}
    {scan : List (Nat × Nat) × List (Nat × List Reduction) × Bool} :
    ∀ (l : List Nat) (actions res : Array (List Action)), l.Nodup →
      (∀ a ∈ l, a < g.tokenCount) → (index + 2) * g.tokenCount ≤ actions.size →
      l.foldlM (g.writeCell index scan) actions = .ok res →
      res.size = actions.size ∧
      (∀ a ∈ l, ∃ r, g.cellAction (index + 1) a (scan.1.lookup a) ((scan.2.1.lookup a).getD [])
          (scan.2.2 && a == endSymbol) = .ok r ∧
        res[(index + 1) * g.tokenCount + a]? = some (g.cellOf (index + 1) a r)) ∧
      ∀ c, (∀ a ∈ l, c ≠ (index + 1) * g.tokenCount + a) → res[c]? = actions[c]?
  | [], actions, res, _, _, _, h => by
    simp only [List.foldlM, pure, Except.pure, Except.ok.injEq] at h
    subst h
    exact ⟨rfl, by simp, fun _ _ => rfl⟩
  | a :: l, actions, res, hnd, hlt, hsize, h => by
    obtain ⟨ha, hnd⟩ := List.nodup_cons.1 hnd
    rw [List.foldlM_cons] at h
    obtain ⟨mid, hmid, h⟩ := Except.bind_eq_ok.1 h
    obtain ⟨r, hr, hmid⟩ := Except.bind_eq_ok.1 hmid
    simp only [pure, Except.pure, Except.ok.injEq] at hmid
    subst hmid
    have hat := hlt a List.mem_cons_self
    have hpos : (index + 1) * g.tokenCount + a < actions.size := by
      have h2 : (index + 2) * g.tokenCount = index * g.tokenCount + 2 * g.tokenCount :=
        Nat.add_mul _ _ _
      have h1 : (index + 1) * g.tokenCount = index * g.tokenCount + g.tokenCount := by
        rw [Nat.add_mul, Nat.one_mul]
      omega
    obtain ⟨hsize', hwritten, hkeep⟩ := foldlM_writeCell l _ res hnd
      (fun a' h => hlt a' (List.mem_cons_of_mem a h)) (by rw [Array.size_setIfInBounds]; exact hsize) h
    -- the cells of `l` lie elsewhere in the row, so the cell of `a` stays
    have hother : ∀ a' ∈ l, (index + 1) * g.tokenCount + a ≠ (index + 1) * g.tokenCount + a' := by
      intro a' ha' heq
      exact ha (by rw [show a = a' by omega]; exact ha')
    refine ⟨by rw [hsize', Array.size_setIfInBounds], fun a' ha' => ?_, fun c hc => ?_⟩
    · rcases List.mem_cons.1 ha' with rfl | ha'
      · refine ⟨r, hr, ?_⟩
        rw [hkeep _ hother, Array.getElem?_setIfInBounds, if_pos rfl, if_pos hpos]
      · exact hwritten a' ha'
    · rw [hkeep c fun a' ha' => hc a' (List.mem_cons_of_mem a ha'), Array.getElem?_setIfInBounds,
        if_neg (Ne.symm (hc a List.mem_cons_self))]

/-- Filling state `index + 1` writes its row from the scan of its set, and nothing else. -/
theorem fillState_row {follow : Array (List Nat)} {mapIds : Array Nat}
    {acc res : Array (List Action) × Array Nat} {index : Nat} {items : List LrItem}
    {edges : List (Nat × Nat)} (hsize : (index + 2) * g.tokenCount ≤ acc.1.size)
    (h : g.fillState follow mapIds acc index items edges = .ok res) :
    res.1.size = acc.1.size ∧ RowWritten g res.1 index (g.scanOf follow mapIds items edges) ∧
      ∀ c, (∀ a < g.tokenCount, c ≠ (index + 1) * g.tokenCount + a) → res.1[c]? = acc.1[c]? := by
  simp only [fillState] at h
  generalize hscan : List.foldl _ ([], [], false) items = scan at h
  have hscanOf : g.scanOf follow mapIds items edges = scan := hscan
  obtain ⟨shifts, reductions, accepts⟩ := scan
  obtain ⟨actions, hactions, hres⟩ := Except.bind_eq_ok.1 h
  cases hres
  change (List.range g.tokenCount).foldlM (g.writeCell index (shifts, reductions, accepts)) acc.1 =
    .ok actions at hactions
  obtain ⟨hsize', hwritten, hkeep⟩ := foldlM_writeCell _ _ _ List.nodup_range
    (fun a ha => List.mem_range.1 ha) hsize hactions
  refine ⟨hsize', fun a ha => hscanOf ▸ hwritten a (List.mem_range.2 ha), fun c hc => ?_⟩
  exact hkeep c fun a ha => hc a (List.mem_range.1 ha)

/-- Filling the states of `rows`, each once, writes each row from its set's scan, and
    nothing outside those rows. -/
theorem rows_foldlM {sets : ItemSets} {follow : Array (List Nat)} {mapIds : Array Nat} :
    ∀ (rows : List (List LrItem × Nat)) (acc res : Array (List Action) × Array Nat),
      (rows.map Prod.snd).Nodup → (∀ e ∈ rows, e.2 < sets.states.size) →
      acc.1.size = (sets.states.size + 1) * g.tokenCount →
      rows.foldlM (fun acc x =>
        g.fillState follow mapIds acc x.2 x.1 ((sets.transitions[x.2]?).getD [])) acc = .ok res →
      res.1.size = acc.1.size ∧
      (∀ e ∈ rows, RowWritten g res.1 e.2
        (g.scanOf follow mapIds e.1 ((sets.transitions[e.2]?).getD []))) ∧
      ∀ c, (∀ e ∈ rows, ∀ a < g.tokenCount, c ≠ (e.2 + 1) * g.tokenCount + a) →
        res.1[c]? = acc.1[c]?
  | [], acc, res, _, _, _, h => by
    simp only [List.foldlM, pure, Except.pure, Except.ok.injEq] at h
    subst h
    exact ⟨rfl, by simp, fun _ _ => rfl⟩
  | e :: rows, acc, res, hnd, hlt, hsize, h => by
    rw [List.map_cons, List.nodup_cons] at hnd
    rw [List.foldlM_cons] at h
    obtain ⟨mid, hmid, h⟩ := Except.bind_eq_ok.1 h
    have he := hlt e List.mem_cons_self
    have hrow : (e.2 + 2) * g.tokenCount ≤ acc.1.size := by
      rw [hsize]
      exact Nat.mul_le_mul_right _ (by omega)
    obtain ⟨hsize₁, hwritten₁, hkeep₁⟩ := fillState_row hrow hmid
    obtain ⟨hsize₂, hwritten₂, hkeep₂⟩ := rows_foldlM rows mid res hnd.2
      (fun e' h => hlt e' (List.mem_cons_of_mem e h)) (by rw [hsize₁, hsize]) h
    -- a later row is another state, so its cells are not those of row `e`
    have hdisjoint : ∀ a < g.tokenCount, ∀ e' ∈ rows, ∀ a' < g.tokenCount,
        (e.2 + 1) * g.tokenCount + a ≠ (e'.2 + 1) * g.tokenCount + a' := by
      intro a ha e' he' a' ha' heq
      have := (row_col_inj ha ha' heq).1
      exact hnd.1 (List.mem_map.2 ⟨e', he', by omega⟩)
    refine ⟨by rw [hsize₂, hsize₁], fun e' he' => ?_, fun c hc => ?_⟩
    · rcases List.mem_cons.1 he' with rfl | he'
      · intro a ha
        obtain ⟨r, hr, hcell⟩ := hwritten₁ a ha
        exact ⟨r, hr, by rw [hkeep₂ _ (hdisjoint a ha)]; exact hcell⟩
      · exact hwritten₂ e' he'
    · rw [hkeep₂ c fun e' he' => hc e' (List.mem_cons_of_mem e he'),
        hkeep₁ c (hc e List.mem_cons_self)]

/-- Every state of a built table holds the cells its set's scan gives. -/
theorem table_row {sets : ItemSets} {t : ParseTable} (h : g.table sets = .ok t) {j : Nat}
    {items : List LrItem} (hitems : sets.states[j]? = some items) :
    RowWritten g t.actions j
      (g.scanOf g.followSets (g.fieldMaps g.fieldNames).2 items ((sets.transitions[j]?).getD [])) := by
  replace h := tableWith_of_table h
  simp only [tableWith] at h
  obtain ⟨⟨actions, gotos⟩, hfold, h⟩ := Except.bind_eq_ok.1 h
  cases h
  have hnd : (sets.states.toList.zipIdx.map Prod.snd).Nodup := by
    rw [List.zipIdx_map_snd]
    exact List.nodup_range'
  have hlt : ∀ e ∈ sets.states.toList.zipIdx, e.2 < sets.states.size := by
    intro e he
    rw [List.mem_zipIdx_iff_getElem?, Array.getElem?_toList] at he
    exact (Array.getElem?_eq_some_iff.1 he).1
  obtain ⟨-, hwritten, -⟩ := rows_foldlM _ _ _ hnd hlt Array.size_replicate hfold
  refine hwritten (items, j) ?_
  rw [List.mem_zipIdx_iff_getElem?, Array.getElem?_toList]
  exact hitems

/-- A cell action without a conflict is a shift with no reduction beside it, the single
    reduction of a cell that neither shifts nor accepts, or acceptance or nothing. -/
theorem cellAction_ok {state symbol : Nat} {shift : Option Nat} {reds : List Reduction}
    {accept : Bool} {res : Option Action}
    (h : g.cellAction state symbol shift reds accept = .ok res) :
    (∃ T, shift = some T ∧ reds = [] ∧ res = some (.shift T false)) ∨
    (∃ r, shift = none ∧ reds = [r] ∧ accept = false ∧
      res = some (.reduce r.symbol r.childCount r.fieldMap)) ∨
    (shift = none ∧ reds = [] ∧ res = if accept then some .accept else none) := by
  unfold cellAction at h
  split at h
  · cases h
  · rename_i hshift
    split at h
    · cases h
    · rename_i hcond
      cases h
      obtain ⟨rfl, rfl⟩ : _ = [] ∧ accept = false := by simpa using hcond
      rcases shift with _ | T
      · exact .inr (.inl ⟨_, rfl, rfl, rfl, rfl⟩)
      · exact (hshift T rfl).elim
  · cases h
    exact .inl ⟨_, rfl, rfl, rfl⟩
  · cases h
    exact .inr (.inr ⟨rfl, rfl, rfl⟩)

end Grammar

namespace ParseTable.Built

variable {t : ParseTable} {g : Grammar} {sets : ItemSets}

/-- The scan of set `j` of a built table. -/
abbrev scanAt (g : Grammar) (sets : ItemSets) (j : Nat) (items : List LrItem) :
    List (Nat × Nat) × List (Nat × List Reduction) × Bool :=
  g.scanOf g.followSets (g.fieldMaps g.fieldNames).2 items ((sets.transitions[j]?).getD [])

/-- The first action of a cell of state `j + 1` is the one the scan of set `j` gives. -/
theorem action?_of_scan (hb : t.Built g sets) {j : Nat} {items : List LrItem}
    (hitems : sets.states[j]? = some items) {a : Nat} (ha : a < g.tokenCount) :
    ∃ res, g.cellAction (j + 1) a ((scanAt g sets j items).1.lookup a)
        (((scanAt g sets j items).2.1.lookup a).getD [])
        ((scanAt g sets j items).2.2 && a == endSymbol) = .ok res ∧
      t.action? (j + 1) a = (g.cellOf (j + 1) a res).head? := by
  obtain ⟨res, hres, hcell⟩ := Grammar.table_row hb.table hitems a ha
  refine ⟨res, hres, ?_⟩
  have herr : a ≠ errorSymbol := by
    have := hb.wellFormed.tokenCount_lt
    have := hb.wellFormed.size_le
    omega
  unfold ParseTable.action? ParseTable.actionsAt
  rw [hb.tokenCount_eq, if_neg (by omega), hcell, Option.getD_some]

theorem transitions_of_states (hb : t.Built g sets) {j : Nat} {items : List LrItem}
    (hitems : sets.states[j]? = some items) : ∃ edges, sets.transitions[j]? = some edges := by
  have hlt := (Array.getElem?_eq_some_iff.1 hitems).1
  rw [← hb.sound.transitions_size] at hlt
  exact ⟨_, Array.getElem?_eq_getElem hlt⟩

/-- An item with a terminal after its dot gives a shift on it, to a state that holds
    the item with the dot moved. -/
theorem shift_of_next (hb : t.Built g sets) (hc : sets.Complete g) {s p d b : Nat}
    (hs : sets.Holds s (p, d)) (hnext : g.next? (p, d) = some b) (hbt : b < g.tokenCount) :
    ∃ T, t.action? s b = some (.shift T false) ∧ sets.Holds T (p, d + 1) := by
  obtain ⟨hs1, items, hitems, hit⟩ := hs
  obtain ⟨j, rfl⟩ : ∃ j, s = j + 1 := ⟨s - 1, by omega⟩
  rw [Nat.add_sub_cancel] at hitems
  obtain ⟨edges, hedges⟩ := hb.transitions_of_states hitems
  obtain ⟨u₀, hu₀⟩ := hb.sound.complete j items edges hitems hedges _ hit b hnext
  -- the edge on `b` is the first one the scan looks up
  obtain ⟨u, hu⟩ : ∃ u, edges.lookup b = some u := by
    cases hl : edges.lookup b with
    | none => simpa using List.lookup_eq_none_iff.1 hl (b, u₀) hu₀
    | some u => exact ⟨u, rfl⟩
  obtain ⟨prod, hprod, hrhs⟩ := Grammar.next?_eq_some hnext
  have hshift := (Grammar.scanFound_scanOf g.followSets (g.fieldMaps g.fieldNames).2 items
    edges).shift (p, d) hit prod b u hprod hrhs (by simpa [Grammar.isTerminal] using hbt) hu
  obtain ⟨res, hres, haction⟩ := hb.action?_of_scan hitems hbt
  simp only [scanAt, hedges, Option.getD_some] at hres
  rw [hshift] at hres
  obtain ⟨items', hitems', hmoved⟩ := hc.moved j items edges hitems hedges b u
    (List.mem_of_lookup hu)
  refine ⟨u + 1, ?_, Nat.succ_pos u, items', by simpa using hitems', hmoved (p, d) hit hnext⟩
  rcases Grammar.cellAction_ok hres with ⟨T, hT, -, rfl⟩ | ⟨r, hr, -⟩ | ⟨hr, -⟩
  · cases hT
    rw [haction]
    rfl
  · cases hr
  · cases hr

/-- An item with a nonterminal after its dot gives a goto on it that is not 0, to a
    state that holds the item with the dot moved. -/
theorem goto_of_next (hb : t.Built g sets) (hc : sets.Complete g) {s p d X : Nat}
    (hs : sets.Holds s (p, d)) (hnext : g.next? (p, d) = some X) (hX : g.tokenCount ≤ X) :
    t.goto s X ≠ 0 ∧ sets.Holds (t.goto s X) (p, d + 1) := by
  obtain ⟨hs1, items, hitems, hit⟩ := hs
  obtain ⟨j, rfl⟩ : ∃ j, s = j + 1 := ⟨s - 1, by omega⟩
  rw [Nat.add_sub_cancel] at hitems
  obtain ⟨edges, hedges⟩ := hb.transitions_of_states hitems
  obtain ⟨u₀, hu₀⟩ := hb.sound.complete j items edges hitems hedges _ hit X hnext
  have hgoto := hb.goto_ne_zero hedges hu₀ hX
  have hXlt : X < t.symbolCount := by
    obtain ⟨prod, hprod, hrhs⟩ := Grammar.next?_eq_some hnext
    rw [hb.symbolCount_eq]
    exact hb.wellFormed.rhs_lt prod (Array.mem_of_getElem? hprod) X (List.mem_of_getElem? hrhs)
  -- the goto follows an edge on `X`, along which the dot of the item moves
  obtain ⟨-, -, edges', hedges', hmem⟩ := hb.goto_sound hXlt hgoto
  rw [Nat.add_sub_cancel, hedges] at hedges'
  cases hedges'
  obtain ⟨items', hitems', hmoved⟩ := hc.moved j items edges hitems hedges X _ hmem
  exact ⟨hgoto, Nat.one_le_iff_ne_zero.2 hgoto, items', hitems', hmoved (p, d) hit hnext⟩

/-- A completed item of a production other than the augmented start gives the reduction
    by it on every terminal of its left side's follow set. -/
theorem reduce_of_complete (hb : t.Built g sets) {s q n a : Nat} {prod : Production}
    (hs : sets.Holds s (q, n)) (hq : 1 ≤ q) (hprod : g.productions[q]? = some prod)
    (hn : n = prod.rhs.length) (ha : a ∈ g.followOf prod.lhs) (hat : a < g.tokenCount) :
    ∃ f, t.action? s a = some (.reduce prod.lhs n f) := by
  obtain ⟨hs1, items, hitems, hit⟩ := hs
  obtain ⟨j, rfl⟩ : ∃ j, s = j + 1 := ⟨s - 1, by omega⟩
  rw [Nat.add_sub_cancel] at hitems
  obtain ⟨edges, hedges⟩ := hb.transitions_of_states hitems
  obtain ⟨rs, hrs, r, hr, hrq⟩ := (Grammar.scanFound_scanOf g.followSets
    (g.fieldMaps g.fieldNames).2 items edges).reduce (q, n) hit prod a (by omega) hprod
    (by simp [hn]) ha
  have hinv : Grammar.ScanInv g items edges
      (g.scanOf g.followSets (g.fieldMaps g.fieldNames).2 items edges) :=
    Grammar.scanInv_foldl _ _ items edges
  obtain ⟨res, hres, haction⟩ := hb.action?_of_scan hitems hat
  simp only [scanAt, hedges, Option.getD_some] at hres
  rw [hrs, Option.getD_some] at hres
  rcases Grammar.cellAction_ok hres with ⟨T, -, hnil, -⟩ | ⟨r₀, -, hone, -, rfl⟩ | ⟨-, hnil, -⟩
  · rw [hnil] at hr
    cases hr
  -- the only reduction of the cell is one of `q`, read off its completed item
  · rw [hone, List.mem_singleton] at hr
    subst hr
    obtain ⟨-, d, prod', -, hprod', -, hsym, hcount⟩ :=
      hinv.reduce a _ (List.mem_of_lookup hrs) r (by rw [hone]; exact List.mem_singleton_self r)
    rw [hrq, hprod] at hprod'
    cases hprod'
    refine ⟨r.fieldMap, ?_⟩
    rw [haction, hsym, hcount, hn]
    rfl
  · rw [hnil] at hr
    cases hr

/-- The completed augmented item gives acceptance at the end of the input, when no
    right side holds the end of the input. -/
theorem accept_of_complete (hb : t.Built g sets) {s : Nat} (hs : sets.Holds s (0, 1))
    (hend : ∀ prod ∈ g.productions, endSymbol ∉ prod.rhs) (htc : 0 < g.tokenCount) :
    t.action? s endSymbol = some .accept := by
  obtain ⟨hs1, items, hitems, hit⟩ := hs
  obtain ⟨j, rfl⟩ : ∃ j, s = j + 1 := ⟨s - 1, by omega⟩
  rw [Nat.add_sub_cancel] at hitems
  obtain ⟨edges, hedges⟩ := hb.transitions_of_states hitems
  have haccept := (Grammar.scanFound_scanOf g.followSets (g.fieldMaps g.fieldNames).2 items
    edges).accept (0, 1) hit _ rfl hb.wellFormed.augmented rfl
  have hinv : Grammar.ScanInv g items edges
      (g.scanOf g.followSets (g.fieldMaps g.fieldNames).2 items edges) :=
    Grammar.scanInv_foldl _ _ items edges
  -- no item has the end of the input after its dot, so nothing shifts it
  have hnoshift : (g.scanOf g.followSets (g.fieldMaps g.fieldNames).2 items edges).1.lookup
      endSymbol = none := by
    cases hl : (g.scanOf g.followSets (g.fieldMaps g.fieldNames).2 items edges).1.lookup
        endSymbol with
    | none => rfl
    | some T =>
      obtain ⟨u, hu, -⟩ := hinv.shift _ T (List.mem_of_lookup hl)
      obtain ⟨-, ⟨it, -, hnext⟩, -⟩ := hb.sound.edge_sound j items edges hitems hedges _ u hu
      obtain ⟨prod, hprod, hrhs⟩ := Grammar.next?_eq_some hnext
      exact absurd (List.mem_of_getElem? hrhs) (hend prod (Array.mem_of_getElem? hprod))
  obtain ⟨res, hres, haction⟩ := hb.action?_of_scan (a := endSymbol) hitems htc
  simp only [scanAt, hedges, Option.getD_some] at hres
  rw [hnoshift, haccept] at hres
  rcases Grammar.cellAction_ok hres with ⟨T, hT, -⟩ | ⟨r, -, -, hacc, -⟩ | ⟨-, -, rfl⟩
  · cases hT
  · cases hacc
  · rw [haction]
    rfl

/-- A cell with an action belongs to a state of the automaton: the cells of the error
    state and past the last state stay empty. -/
theorem exists_items_of_action (hb : t.Built g sets) {T a : Nat} {act : Action}
    (h : t.action? T a = some act) : ∃ j items, T = j + 1 ∧ sets.states[j]? = some items := by
  obtain ⟨ha, -⟩ := hb.action_sound h
  by_contra hnone
  simp only [not_exists, not_and] at hnone
  have htable := hb.table
  replace htable := Grammar.tableWith_of_table htable
  simp only [Grammar.tableWith] at htable
  obtain ⟨⟨actions, gotos⟩, hfold, htable⟩ := Except.bind_eq_ok.1 htable
  cases htable
  have hnd : (sets.states.toList.zipIdx.map Prod.snd).Nodup := by
    rw [List.zipIdx_map_snd]
    exact List.nodup_range'
  have hlt : ∀ e ∈ sets.states.toList.zipIdx, e.2 < sets.states.size := by
    intro e he
    rw [List.mem_zipIdx_iff_getElem?, Array.getElem?_toList] at he
    exact (Array.getElem?_eq_some_iff.1 he).1
  obtain ⟨-, -, hkeep⟩ := Grammar.rows_foldlM _ _ _ hnd hlt Array.size_replicate hfold
  -- no row of a set holds the cell, so it is as the table started: empty
  have hcell : actions[T * g.tokenCount + a]? =
      (Array.replicate ((sets.states.size + 1) * g.tokenCount) ([] : List Action))[
        T * g.tokenCount + a]? := by
    refine hkeep _ fun e he a' ha' heq => ?_
    obtain ⟨hT, -⟩ := Grammar.row_col_inj ha ha' heq
    rw [List.mem_zipIdx_iff_getElem?, Array.getElem?_toList] at he
    exact hnone e.2 e.1 hT he
  unfold ParseTable.action? ParseTable.actionsAt at h
  simp only at h ha
  rw [if_neg (by have := hb.wellFormed.tokenCount_lt; have := hb.wellFormed.size_le; omega),
    hcell, Array.getElem?_replicate] at h
  split at h <;> simp at h

/-- A state shifts a terminal in place only where the terminal is an extra. -/
theorem mem_extras_of_shift_extra (hb : t.Built g sets) {T a T' : Nat}
    (h : t.action? T a = some (.shift T' true)) : a ∈ g.extras := by
  obtain ⟨j, items, rfl, hitems⟩ := hb.exists_items_of_action h
  have ha : a < g.tokenCount := hb.tokenCount_eq ▸ (hb.action_sound h).1
  obtain ⟨res, hres, haction⟩ := hb.action?_of_scan hitems ha
  rw [h] at haction
  -- the cell found holds no shift in place; only an empty cell of an extra does
  cases res with
  | some act =>
    simp only [Grammar.cellOf, List.head?_cons, Option.some.injEq] at haction
    subst haction
    rcases Grammar.cellAction_ok hres with ⟨T, -, -, hres'⟩ | ⟨r, -, -, -, hres'⟩ | ⟨-, -, hres'⟩
    · cases hres'
    · cases hres'
    · split at hres' <;> cases hres'
  | none =>
    simp only [Grammar.cellOf] at haction
    split at haction
    · rename_i hmem
      exact List.contains_iff_mem.1 hmem
    · cases haction

/-- No state shifts the end of the input, when no right side holds it and it is not an
    extra. -/
theorem action_end_ne_shift (hb : t.Built g sets)
    (hend : ∀ prod ∈ g.productions, endSymbol ∉ prod.rhs) (hextra : endSymbol ∉ g.extras)
    (T T' : Nat) (extra : Bool) : t.action? T endSymbol ≠ some (.shift T' extra) := by
  intro h
  cases extra with
  | true => exact hextra (hb.mem_extras_of_shift_extra h)
  | false =>
    -- a shift follows an edge, and an edge on the end would come from an item before it
    obtain ⟨j, items, rfl, hitems⟩ := hb.exists_items_of_action h
    obtain ⟨-, -, -, edges, hedges, hmem⟩ := hb.action_sound h
    rw [Nat.add_sub_cancel] at hedges
    obtain ⟨-, ⟨it, -, hnext⟩, -⟩ := hb.sound.edge_sound j items edges hitems hedges _ _ hmem
    obtain ⟨prod, hprod, hrhs⟩ := Grammar.next?_eq_some hnext
    exact hend prod (Array.mem_of_getElem? hprod) (List.mem_of_getElem? hrhs)

end ParseTable.Built

end IncrementalLR
