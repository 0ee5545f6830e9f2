import Mathlib.Data.List.Perm.Subperm
import IncrementalLR.Proofs.Grammar.Automaton

/-!
# Completeness of the LR(0) automaton

`ItemSets.Sound` says that every item of a set has a reason to be there.
-/

namespace IncrementalLR

/-- The facts of the LR(0) automaton that let a parser accept all the grammar derives. -/
structure ItemSets.Complete (g : Grammar) (sets : ItemSets) : Prop where
  start : ∃ items, sets.states[0]? = some items ∧ (0, 0) ∈ items
  closed : ∀ (j : Nat) (items : List LrItem), sets.states[j]? = some items → ∀ it ∈ items,
    ∀ q prod, 1 ≤ q → g.productions[q]? = some prod → g.next? it = some prod.lhs →
      (q, 0) ∈ items
  moved : ∀ (j : Nat) (items : List LrItem) (edges : List (Nat × Nat)),
    sets.states[j]? = some items → sets.transitions[j]? = some edges → ∀ X u, (X, u) ∈ edges →
      ∃ items', sets.states[u]? = some items' ∧
        ∀ it ∈ items, g.next? it = some X → (it.1, it.2 + 1) ∈ items'

namespace Grammar

variable {g : Grammar}

/-! ### Productions by left side -/

/-- The step of `byLhs`: production `i` goes to the list of its left side. -/
def byLhsAdd (g : Grammar) (acc : Array (List Nat)) (i : Nat) : Array (List Nat) :=
  match g.productions[i]? with
  | some p => acc.modify (p.lhs - g.tokenCount) (· ++ [i])
  | none => acc

theorem byLhs_eq : g.byLhs = (List.range' 1 (g.productions.size - 1)).foldl g.byLhsAdd
    (Array.replicate g.nonterminalCount []) := rfl

/-- Listing the productions `l`, each once, by left side: every list stays without
    repeats, keeps what it had, and gets the productions of its nonterminal. -/
theorem foldl_byLhsAdd (hwf : g.WellFormed) :
    ∀ (l : List Nat) (acc : Array (List Nat)), acc.size = g.nonterminalCount → l.Nodup →
      (∀ k : Nat, ((acc[k]?).getD []).Nodup) → (∀ k : Nat, ∀ q ∈ (acc[k]?).getD [], q ∉ l) →
      (∀ k : Nat, (((l.foldl g.byLhsAdd acc)[k]?).getD []).Nodup) ∧
      (∀ k : Nat, ∀ q ∈ (acc[k]?).getD [], q ∈ ((l.foldl g.byLhsAdd acc)[k]?).getD []) ∧
      ∀ q ∈ l, ∀ p, g.productions[q]? = some p →
        q ∈ ((l.foldl g.byLhsAdd acc)[p.lhs - g.tokenCount]?).getD []
  | [], acc, _, _, hnd, _ => ⟨hnd, fun _ _ h => h, by simp⟩
  | x :: l, acc, hsize, hl, hnd, hout => by
    obtain ⟨hx, hl⟩ := List.nodup_cons.1 hl
    have hout' : ∀ k : Nat, ∀ q ∈ (acc[k]?).getD [], q ∉ l :=
      fun k q hq h => hout k q hq (List.mem_cons_of_mem x h)
    rw [List.foldl_cons]
    cases hp : g.productions[x]? with
    | none =>
      have hstep : g.byLhsAdd acc x = acc := by simp [byLhsAdd, hp]
      rw [hstep]
      obtain ⟨hnd', hkeep, hmem⟩ := foldl_byLhsAdd hwf l acc hsize hl hnd hout'
      refine ⟨hnd', hkeep, fun q hq p' hp' => ?_⟩
      rcases List.mem_cons.1 hq with rfl | hq
      · rw [hp] at hp'
        cases hp'
      · exact hmem q hq p' hp'
    | some p =>
      have hstep : g.byLhsAdd acc x = acc.modify (p.lhs - g.tokenCount) (· ++ [x]) := by
        simp [byLhsAdd, hp]
      rw [hstep]
      have hk : p.lhs - g.tokenCount < acc.size := by
        have := hwf.lhs_ge p (Array.mem_of_getElem? hp)
        have := hwf.lhs_lt p (Array.mem_of_getElem? hp)
        rw [hsize]
        unfold nonterminalCount
        omega
      -- the list of `p`'s left side gets `x` at its end
      have hget : ∀ k : Nat, (((acc.modify (p.lhs - g.tokenCount) (· ++ [x]))[k]?).getD []) =
          if p.lhs - g.tokenCount = k then (acc[k]?).getD [] ++ [x] else (acc[k]?).getD [] := by
        intro k
        rw [Array.getElem?_modify]
        split
        · subst_vars
          simp [hk]
        · rfl
      have hnd₁ : ∀ k : Nat, (((acc.modify (p.lhs - g.tokenCount) (· ++ [x]))[k]?).getD []).Nodup := by
        intro k
        rw [hget k]
        split
        · refine List.nodup_append.2 ⟨hnd k, by simp, fun a ha b hb hab => ?_⟩
          rw [List.mem_singleton.1 hb] at hab
          exact hout k a ha (hab ▸ List.mem_cons_self)
        · exact hnd k
      have hout₁ : ∀ k : Nat, ∀ q ∈ ((acc.modify (p.lhs - g.tokenCount) (· ++ [x]))[k]?).getD [],
          q ∉ l := by
        intro k q hq
        rw [hget k] at hq
        split at hq
        · rcases List.mem_append.1 hq with hq | hq
          · exact hout' k q hq
          · rw [List.mem_singleton.1 hq]
            exact hx
        · exact hout' k q hq
      obtain ⟨hnd', hkeep, hmem⟩ :=
        foldl_byLhsAdd hwf l _ (by rw [Array.size_modify, hsize]) hl hnd₁ hout₁
      refine ⟨hnd', ?_, ?_⟩
      · intro k q hq
        refine hkeep k q ?_
        rw [hget k]
        split
        · exact List.mem_append_left _ hq
        · exact hq
      · intro q hq p' hp'
        rcases List.mem_cons.1 hq with rfl | hq
        · rw [hp] at hp'
          cases hp'
          refine hkeep _ q ?_
          rw [hget, if_pos rfl]
          exact List.mem_append_right _ (List.mem_singleton_self q)
        · exact hmem q hq p' hp'

theorem byLhs_nodup (hwf : g.WellFormed) (k : Nat) : ((g.byLhs[k]?).getD []).Nodup := by
  rw [byLhs_eq]
  refine (foldl_byLhsAdd hwf _ _ Array.size_replicate List.nodup_range' (fun k => ?_)
    (fun k q hq => ?_)).1 k
  · simp only [Array.getElem?_replicate]
    split <;> simp
  · simp only [Array.getElem?_replicate] at hq
    split at hq <;> simp at hq

/-- Every production but the augmented start is listed under its left side. -/
theorem mem_byLhs (hwf : g.WellFormed) {q : Nat} {p : Production} (hq : 1 ≤ q)
    (hp : g.productions[q]? = some p) : q ∈ (g.byLhs[p.lhs - g.tokenCount]?).getD [] := by
  rw [byLhs_eq]
  have hlt : q < g.productions.size := (Array.getElem?_eq_some_iff.1 hp).1
  refine (foldl_byLhsAdd hwf _ _ Array.size_replicate List.nodup_range' (fun k => ?_)
    (fun k q hq => ?_)).2.2 q (List.mem_range'_1.2 ⟨hq, by omega⟩) p hp
  · simp only [Array.getElem?_replicate]
    split <;> simp
  · simp only [Array.getElem?_replicate] at hq
    split at hq <;> simp at hq

/-! ### Closing -/

/-- Items closed under prediction: with an item whose dot stands before a nonterminal,
    every production listed for it, with the dot at the start. -/
def ClosedUnder (g : Grammar) (byLhs : Array (List Nat)) (items : List LrItem) : Prop :=
  ∀ it ∈ items, ∀ s, g.next? it = some s → g.isTerminal s = false →
    ∀ q ∈ (byLhs[s - g.tokenCount]?).getD [], (q, 0) ∈ items

/-- What closing keeps true: the items are the kernel and then the predicted items of
    the nonterminals expanded so far, no production twice; every item before position
    `i` with a nonterminal after its dot has had it expanded; and every expanded
    nonterminal has its productions in. -/
structure CloseInv (g : Grammar) (byLhs : Array (List Nat)) (kernel : List LrItem)
    (items : Array LrItem) (i : Nat) (expanded : List Nat) : Prop where
  split : ∃ added : List LrItem, items.toList = kernel ++ added ∧ (added.map Prod.fst).Nodup ∧
    ∀ it ∈ added, it.2 = 0 ∧ ∃ s ∈ expanded, it.1 ∈ (byLhs[s - g.tokenCount]?).getD []
  nonterminal : ∀ s ∈ expanded, g.tokenCount ≤ s
  le_size : i ≤ items.size
  done : ∀ j < i, ∀ it s, items[j]? = some it → g.next? it = some s → g.isTerminal s = false →
    s ∈ expanded
  complete : ∀ s ∈ expanded, ∀ q ∈ (byLhs[s - g.tokenCount]?).getD [], (q, 0) ∈ items.toList

section Close

variable {byLhs : Array (List Nat)} {kernel : List LrItem}

theorem closeInv_start (kernel : List LrItem) : CloseInv g byLhs kernel kernel.toArray 0 [] :=
  ⟨⟨[], by simp, by simp, by simp⟩, by simp, Nat.zero_le _, fun _ h => absurd h (Nat.not_lt_zero _),
    by simp⟩

/-- A closure holds the kernel and at most one item per production. -/
theorem CloseInv.size_le (hby : ByLhsSound g byLhs) {items : Array LrItem} {i : Nat}
    {expanded : List Nat} (inv : CloseInv g byLhs kernel items i expanded) :
    items.size ≤ kernel.length + (g.productions.size - 1) := by
  obtain ⟨added, hsplit, hnd, hadded⟩ := inv.split
  have hsub : added.map Prod.fst ⊆ List.range' 1 (g.productions.size - 1) := by
    intro q hq
    obtain ⟨it, hit, rfl⟩ := List.mem_map.1 hq
    obtain ⟨-, s, -, hs⟩ := hadded it hit
    obtain ⟨hq1, p, hp, -⟩ := hby _ _ hs
    have := (Array.getElem?_eq_some_iff.1 hp).1
    exact List.mem_range'_1.2 ⟨hq1, by omega⟩
  have hlen := (List.subperm_of_subset hnd hsub).length_le
  rw [List.length_map, List.length_range'] at hlen
  rw [← Array.length_toList, hsplit, List.length_append]
  omega

/-- Expanding a nonterminal met for the first time keeps the invariant. -/
theorem CloseInv.expand (hby : ByLhsSound g byLhs) (hnd : ∀ k : Nat, ((byLhs[k]?).getD []).Nodup)
    {items : Array LrItem} {i : Nat} {expanded : List Nat} {item : LrItem} {s : Nat}
    (inv : CloseInv g byLhs kernel items i expanded) (hitem : items[i]? = some item)
    (hnext : g.next? item = some s) (hnt : g.isTerminal s = false) (hnew : s ∉ expanded) :
    CloseInv g byLhs kernel
      (items ++ (((byLhs[s - g.tokenCount]?).getD []).map fun q => (q, 0)).toArray) (i + 1)
      (s :: expanded) := by
  obtain ⟨added, hsplit, hnodup, hadded⟩ := inv.split
  have hi : i < items.size := (Array.getElem?_eq_some_iff.1 hitem).1
  have hs : g.tokenCount ≤ s := by simpa [isTerminal] using hnt
  have hget : ∀ j < items.size, (items ++ (((byLhs[s - g.tokenCount]?).getD []).map
      fun q => (q, 0)).toArray)[j]? = items[j]? := fun j hj => Array.getElem?_append_left hj
  refine ⟨⟨added ++ ((byLhs[s - g.tokenCount]?).getD []).map fun q => (q, 0), ?_, ?_, ?_⟩,
    ?_, ?_, ?_, ?_⟩
  · simp [hsplit]
  -- a production listed under `s` is listed under no other nonterminal
  · rw [List.map_append, List.map_map]
    have hmap : ((byLhs[s - g.tokenCount]?).getD []).map (Prod.fst ∘ fun q => (q, 0)) =
        (byLhs[s - g.tokenCount]?).getD [] := by
      simp [Function.comp_def]
    refine List.nodup_append.2 ⟨hnodup, by rw [hmap]; exact hnd _, ?_⟩
    intro a ha b hb hab
    obtain ⟨it, hit, rfl⟩ := List.mem_map.1 ha
    obtain ⟨-, s', hs', hq'⟩ := hadded it hit
    obtain ⟨q, hq, rfl⟩ := List.mem_map.1 hb
    obtain ⟨-, p, hp, hlhs⟩ := hby _ _ hq
    obtain ⟨-, p', hp', hlhs'⟩ := hby _ _ hq'
    simp only [Function.comp_apply] at hab
    rw [hab, hp] at hp'
    cases hp'
    have := inv.nonterminal s' hs'
    exact hnew (by rwa [show s = s' by omega])
  · intro it hit
    rcases List.mem_append.1 hit with hit | hit
    · obtain ⟨h0, s', hs', hq⟩ := hadded it hit
      exact ⟨h0, s', List.mem_cons_of_mem s hs', hq⟩
    · obtain ⟨q, hq, rfl⟩ := List.mem_map.1 hit
      exact ⟨rfl, s, List.mem_cons_self, hq⟩
  · intro s' hs'
    rcases List.mem_cons.1 hs' with rfl | hs'
    · exact hs
    · exact inv.nonterminal s' hs'
  · simp only [Array.size_append]
    omega
  · intro j hj it s' hj' hnext' hnt'
    rw [hget j (by omega)] at hj'
    rcases Nat.lt_succ_iff_lt_or_eq.1 hj with hj | rfl
    · exact List.mem_cons_of_mem s (inv.done j hj it s' hj' hnext' hnt')
    · rw [hitem] at hj'
      cases hj'
      rw [hnext] at hnext'
      cases hnext'
      exact List.mem_cons_self
  · intro s' hs' q hq
    simp only [Array.toList_append, List.mem_append]
    rcases List.mem_cons.1 hs' with rfl | hs'
    · exact .inr (by simpa using hq)
    · exact .inl (inv.complete s' hs' q hq)

/-- Passing over an item whose symbol after the dot needs nothing keeps the invariant. -/
theorem CloseInv.skip {items : Array LrItem} {i : Nat} {expanded : List Nat} {item : LrItem}
    (inv : CloseInv g byLhs kernel items i expanded) (hitem : items[i]? = some item)
    (hdone : ∀ s, g.next? item = some s → g.isTerminal s = false → s ∈ expanded) :
    CloseInv g byLhs kernel items (i + 1) expanded := by
  refine ⟨inv.split, inv.nonterminal, (Array.getElem?_eq_some_iff.1 hitem).1, ?_, inv.complete⟩
  intro j hj it s hj' hnext hnt
  rcases Nat.lt_succ_iff_lt_or_eq.1 hj with hj | rfl
  · exact inv.done j hj it s hj' hnext hnt
  · rw [hitem] at hj'
    cases hj'
    exact hdone s hnext hnt

/-- Once every item has been passed over, the items are closed. -/
theorem CloseInv.closedUnder {items : Array LrItem} {i : Nat} {expanded : List Nat}
    (inv : CloseInv g byLhs kernel items i expanded) (hi : items.size ≤ i) :
    ClosedUnder g byLhs items.toList := by
  intro it hit s hnext hnt q hq
  obtain ⟨j, hj, rfl⟩ := List.getElem_of_mem hit
  rw [Array.length_toList] at hj
  exact inv.complete s (inv.done j (by omega) _ s (by simp [hj]) hnext hnt) q hq

/-- Closing with enough fuel passes over every item, so its result is closed. The
    induction follows `closeFrom`; the fuel and the position together stay above the
    largest size a closure can reach. -/
theorem closeFrom_closedUnder (hby : ByLhsSound g byLhs)
    (hnd : ∀ k : Nat, ((byLhs[k]?).getD []).Nodup) {fuel i : Nat} {items : Array LrItem}
    {expanded : List Nat} (inv : CloseInv g byLhs kernel items i expanded)
    (hfuel : kernel.length + g.productions.size ≤ fuel + i) :
    ClosedUnder g byLhs (g.closeFrom byLhs fuel items i expanded).toList := by
  fun_induction g.closeFrom byLhs fuel items i expanded with
  | case1 items i expanded =>
    have := inv.size_le hby
    exact inv.closedUnder (by omega)
  | case2 fuel items i expanded hnone =>
    exact inv.closedUnder (Array.getElem?_eq_none_iff.1 hnone)
  | case3 fuel items i expanded item hitem s hnext hnew added ih =>
    simp only [Bool.and_eq_true, Bool.not_eq_eq_eq_not, Bool.not_true] at hnew
    exact ih (inv.expand hby hnd hitem hnext hnew.1 (by simpa using hnew.2)) (by omega)
  | case4 fuel items i expanded item hitem s hnext hold ih =>
    refine ih (inv.skip hitem fun s' hs' hnt => ?_) (by omega)
    rw [hnext] at hs'
    cases hs'
    simpa [hnt] using hold
  | case5 fuel items i expanded item hitem hnone ih =>
    exact ih (inv.skip hitem fun s hs => absurd hs (by simp [hnone])) (by omega)

/-- The closure of any kernel is closed under prediction. -/
theorem closure_closedUnder (hby : ByLhsSound g byLhs)
    (hnd : ∀ k : Nat, ((byLhs[k]?).getD []).Nodup) (kernel : List LrItem) :
    ClosedUnder g byLhs (g.closure byLhs kernel) :=
  closeFrom_closedUnder hby hnd (closeInv_start kernel) (by simp)

end Close

/-! ### The automaton -/

/-- A successor kernel holds every item of the set with the dot moved over its symbol. -/
theorem mem_kernel_of_mem_successors {items kernel : List LrItem} {X : Nat}
    (h : (X, kernel) ∈ g.successors items) {it : LrItem} (hit : it ∈ items)
    (hX : g.next? it = some X) : (it.1, it.2 + 1) ∈ kernel := by
  obtain ⟨s, -, hs⟩ := List.mem_map.1 h
  obtain ⟨rfl, rfl⟩ := Prod.mk.inj hs
  simp only [kernelOf, List.mem_eraseDups, mem_sortBy, List.mem_map, List.mem_filter,
    List.mem_filterMap, Option.map_eq_some_iff, beq_iff_eq]
  exact ⟨(_, (it.1, it.2 + 1)), ⟨⟨it, hit, _, hX, rfl⟩, rfl⟩, rfl⟩

/-- When the queue is exhausted, the invariant gives the completeness facts. -/
theorem ExploreInv.complete_sets (hwf : g.WellFormed) {queue : Array (List LrItem)}
    {kernels : ListMap (List LrItem) Nat} {i : Nat} {sets : ItemSets}
    (inv : ExploreInv g g.byLhs queue kernels i sets) (hq : queue[i]? = none) :
    ItemSets.Complete g sets := by
  have hclosed := closure_closedUnder (byLhs_sound g) (byLhs_nodup hwf)
  refine ⟨⟨_, inv.states_closure hq inv.start, mem_closure_of_mem (List.mem_singleton_self _)⟩,
    ?_, ?_⟩
  · intro j items hj it hit q prod hq1 hprod hnext
    obtain ⟨k, -, rfl⟩ := inv.states_eq j items hj
    have hnt : g.isTerminal prod.lhs = false := by
      simpa [isTerminal] using hwf.lhs_ge prod (Array.mem_of_getElem? hprod)
    exact hclosed k it hit _ hnext hnt q (mem_byLhs hwf hq1 hprod)
  · intro j items edges hj he X u hXu
    obtain ⟨k, hsucc, hk⟩ := inv.edge_sound j items edges hj he X u hXu
    exact ⟨_, inv.states_closure hq hk,
      fun it hit hX => mem_closure_of_mem (mem_kernel_of_mem_successors hsucc hit hX)⟩

/-- The item sets of a well-formed grammar are a complete LR(0) automaton. -/
theorem itemSets_complete (hwf : g.WellFormed) {sets : ItemSets} (h : g.itemSets = .ok sets) :
    ItemSets.Complete g sets :=
  explore_of_inv _ (fun _ _ _ _ inv hq => inv.complete_sets hwf hq) _ _ _ _ _ _
    (exploreInv_start g g.byLhs) h

end Grammar

end IncrementalLR
