import IncrementalLR.Proofs.Grammar.WellFormed
import IncrementalLR.Grammar.Table

/-!
# Soundness of the LR(0) automaton

The item sets of a grammar form the LR(0) automaton its table is read from.
-/

namespace IncrementalLR.Grammar

variable {g : Grammar}

/-! ### Productions by left side -/

/-- Every production listed under a nonterminal's offset has that nonterminal as its
    left side, and none of them is the augmented start. -/
def ByLhsSound (g : Grammar) (byLhs : Array (List Nat)) : Prop :=
  ∀ k q, q ∈ (byLhs[k]?).getD [] →
    1 ≤ q ∧ ∃ p, g.productions[q]? = some p ∧ p.lhs - g.tokenCount = k

theorem byLhs_sound (g : Grammar) : ByLhsSound g g.byLhs := by
  unfold byLhs
  refine List.foldlRecOn _ _ ?_ ?_
  · intro k q hq
    simp only [Array.getElem?_replicate] at hq
    split at hq <;> simp at hq
  · intro acc hacc i hi k q hq
    have hi1 : 1 ≤ i := by
      rw [List.mem_range'] at hi
      omega
    split at hq
    · rename_i p hp
      rw [Array.getElem?_modify] at hq
      split at hq
      · rename_i hk
        cases hacc' : acc[k]? with
        | none => simp [hacc'] at hq
        | some qs =>
          simp only [hacc', Option.map_some, Option.getD_some, List.mem_append,
            List.mem_singleton] at hq
          rcases hq with hq | rfl
          · exact hacc k q (by simp [hacc', hq])
          · exact ⟨hi1, p, hp, hk⟩
      · exact hacc k q hq
    · exact hacc k q hq

/-! ### Closing an item set -/

/-- An item that closing adds: the dot at the start of a production, other than the
    augmented one, whose left side follows the dot of an item of `items`. -/
def Predicted (g : Grammar) (items : List LrItem) (it : LrItem) : Prop :=
  it.2 = 0 ∧ 1 ≤ it.1 ∧ ∃ p, g.productions[it.1]? = some p ∧ ∃ it' ∈ items, g.next? it' = some p.lhs

theorem Predicted.mono {items items' : List LrItem} {it : LrItem} (h : Predicted g items it)
    (hsub : ∀ x ∈ items, x ∈ items') : Predicted g items' it := by
  obtain ⟨hdot, hq, p, hp, it', hit', hnext⟩ := h
  exact ⟨hdot, hq, p, hp, it', hsub it' hit', hnext⟩

section Closure

variable {byLhs : Array (List Nat)}

theorem mem_closeFrom_of_mem {fuel i : Nat} {expanded : List Nat} {items : Array LrItem}
    {it : LrItem} (h : it ∈ items) : it ∈ g.closeFrom byLhs fuel items i expanded := by
  fun_induction g.closeFrom byLhs fuel items i expanded <;> simp_all

theorem mem_closeFrom (hwf : g.WellFormed) (hby : ByLhsSound g byLhs) {fuel i : Nat}
    {expanded : List Nat} {items : Array LrItem} {it : LrItem}
    (h : it ∈ g.closeFrom byLhs fuel items i expanded) :
    it ∈ items ∨ Predicted g (g.closeFrom byLhs fuel items i expanded).toList it := by
  fun_induction g.closeFrom byLhs fuel items i expanded with
  | case1 | case2 => exact .inl h
  | case3 fuel items i expanded item hitem s hnext hnew added ih =>
    rcases ih h with hin | hpred
    · rcases Array.mem_append.1 hin with hold | hadd
      · exact .inl hold
      -- an added item starts a production of the nonterminal after the dot of `item`
      · right
        obtain ⟨q, hq, rfl⟩ := List.mem_map.1 (List.mem_toArray.1 hadd)
        obtain ⟨hq1, p, hp, hlhs⟩ := hby _ q hq
        have hs : g.tokenCount ≤ s := by
          simp only [isTerminal, Bool.and_eq_true, Bool.not_eq_eq_eq_not, Bool.not_true,
            decide_eq_false_iff_not, Nat.not_lt] at hnew
          exact hnew.1
        have hp' : g.tokenCount ≤ p.lhs := hwf.lhs_ge p (Array.mem_of_getElem? hp)
        refine ⟨rfl, hq1, p, hp, item, ?_, ?_⟩
        · exact Array.mem_toList_iff.2
            (mem_closeFrom_of_mem (Array.mem_append_left _ (Array.mem_of_getElem? hitem)))
        · rw [hnext]
          congr 1
          omega
    · exact .inr hpred
  | case4 fuel items i expanded item hitem s hnext hnew ih => exact ih h
  | case5 fuel items i expanded item hitem hnone ih => exact ih h

theorem mem_closure_of_mem {kernel : List LrItem} {it : LrItem} (h : it ∈ kernel) :
    it ∈ g.closure byLhs kernel :=
  Array.mem_toList_iff.2 (mem_closeFrom_of_mem (List.mem_toArray.2 h))

/-- An item of a closed set is in its kernel or is predicted by another of its items. -/
theorem mem_closure (hwf : g.WellFormed) (hby : ByLhsSound g byLhs) {kernel : List LrItem}
    {it : LrItem} (h : it ∈ g.closure byLhs kernel) :
    it ∈ kernel ∨ Predicted g (g.closure byLhs kernel) it := by
  rcases mem_closeFrom hwf hby (Array.mem_toList_iff.1 h) with hk | hp
  · exact .inl (List.mem_toArray.1 hk)
  · exact .inr hp

end Closure

/-! ### Moving the dot -/

/-- Every item of `kernel` is an item of `items` with the dot moved over `X`. -/
def MovedKernel (g : Grammar) (items : List LrItem) (X : Nat) (kernel : List LrItem) : Prop :=
  ∀ it ∈ kernel, ∃ it₀ ∈ items, g.next? it₀ = some X ∧ it = (it₀.1, it₀.2 + 1)

theorem movedKernel_of_mem_successors {items kernel : List LrItem} {X : Nat}
    (h : (X, kernel) ∈ g.successors items) : MovedKernel g items X kernel := by
  obtain ⟨s, -, hs⟩ := List.mem_map.1 h
  obtain ⟨rfl, rfl⟩ := Prod.mk.inj hs
  intro it hit
  simp only [kernelOf, List.mem_eraseDups, mem_sortBy, List.mem_map, List.mem_filter,
    List.mem_filterMap, Option.map_eq_some_iff] at hit
  obtain ⟨move, ⟨⟨it₀, hit₀, X, hnext, rfl⟩, hX⟩, rfl⟩ := hit
  simp only [beq_iff_eq] at hX
  exact ⟨it₀, hit₀, hX ▸ hnext, rfl⟩

theorem exists_next_of_mem_successors {items kernel : List LrItem} {X : Nat}
    (h : (X, kernel) ∈ g.successors items) : ∃ it ∈ items, g.next? it = some X := by
  obtain ⟨s, hs, hsX⟩ := List.mem_map.1 h
  obtain ⟨rfl, -⟩ := Prod.mk.inj hsX
  simp only [List.mem_eraseDups, mem_sortBy, List.mem_map, List.mem_filterMap,
    Option.map_eq_some_iff] at hs
  obtain ⟨move, ⟨it, hit, X, hX, rfl⟩, rfl⟩ := hs
  exact ⟨it, hit, hX⟩

/-- Every symbol after a dot has a successor kernel. -/
theorem exists_mem_successors {items : List LrItem} {it : LrItem} {X : Nat} (hit : it ∈ items)
    (hX : g.next? it = some X) : ∃ kernel, (X, kernel) ∈ g.successors items := by
  refine ⟨_, List.mem_map.2 ⟨X, ?_, rfl⟩⟩
  simp only [List.mem_eraseDups, mem_sortBy, List.mem_map, List.mem_filterMap,
    Option.map_eq_some_iff]
  exact ⟨(X, (it.1, it.2 + 1)), ⟨it, hit, X, hX, rfl⟩, rfl⟩

/-! ### Exploring the sets -/

/-- One move of the exploration: its target is the set with the move's kernel, numbered
    anew when the kernel is new. -/
def visitMove (acc : Array (List LrItem) × ListMap (List LrItem) Nat × List (Nat × Nat))
    (move : Nat × List LrItem) :
    Array (List LrItem) × ListMap (List LrItem) Nat × List (Nat × Nat) :=
  match acc.2.1[move.2]? with
  | some t => (acc.1, acc.2.1, acc.2.2 ++ [(move.1, t)])
  | none => (acc.1.push move.2, acc.2.1.insert move.2 acc.1.size, acc.2.2 ++ [(move.1, acc.1.size)])

/-- One round of the exploration, with its moves folded by `visitMove`. -/
theorem explore_succ (g : Grammar) (byLhs : Array (List Nat)) (fuel : Nat)
    (queue : Array (List LrItem)) (kernels : ListMap (List LrItem) Nat) (i : Nat)
    (sets : ItemSets) :
    g.explore byLhs (fuel + 1) queue kernels i sets =
      match queue[i]? with
      | none => .ok sets
      | some kernel =>
        let items := g.closure byLhs kernel
        let r := (g.successors items).foldl visitMove (queue, kernels, [])
        if r.1.size ≥ stateLimit then .error (.tooLarge "states")
        else g.explore byLhs fuel r.1 r.2.1 (i + 1)
          ⟨sets.states.push items, sets.transitions.push r.2.2⟩ := by
  rfl

theorem getElem?_push_of_eq_some {α : Type} {xs : Array α} {x a : α} {j : Nat}
    (h : xs[j]? = some a) : (xs.push x)[j]? = some a := by
  rw [Array.getElem?_push, if_neg]
  · exact h
  · rintro rfl
    simp at h

/-- What folding the moves of one set does: the queue only grows, by kernels of the
    moves; the kernel index points into the queue; each new edge leads to the kernel of
    a move on its symbol. -/
structure VisitInv (queue : Array (List LrItem)) (moves : List (Nat × List LrItem))
    (acc : Array (List LrItem) × ListMap (List LrItem) Nat × List (Nat × Nat)) : Prop where
  extends_queue : ∀ (j : Nat) (k : List LrItem), queue[j]? = some k → acc.1[j]? = some k
  new_kernel : ∀ (j : Nat) (k : List LrItem), acc.1[j]? = some k →
    queue[j]? = some k ∨ ∃ X, (X, k) ∈ moves
  kernels_sound : ∀ (k : List LrItem) (t : Nat), acc.2.1[k]? = some t → acc.1[t]? = some k
  edge_target : ∀ X t, (X, t) ∈ acc.2.2 → ∃ k, (X, k) ∈ moves ∧ acc.1[t]? = some k

theorem visitInv_foldl {queue : Array (List LrItem)} {kernels : ListMap (List LrItem) Nat}
    (moves : List (Nat × List LrItem))
    (hks : ∀ (k : List LrItem) (t : Nat), kernels[k]? = some t → queue[t]? = some k) :
    VisitInv queue moves (moves.foldl visitMove (queue, kernels, [])) := by
  refine List.foldlRecOn _ _ ⟨fun _ _ h => h, fun _ _ h => .inl h, hks, by simp⟩ ?_
  intro acc hacc move hmove
  obtain ⟨hext, hnew, hks, hedge⟩ := hacc
  unfold visitMove
  split
  · rename_i t ht
    refine ⟨hext, hnew, hks, fun X t' he => ?_⟩
    rcases List.mem_append.1 he with he | he
    · exact hedge X t' he
    · obtain ⟨rfl, rfl⟩ := Prod.mk.inj (List.mem_singleton.1 he)
      exact ⟨move.2, hmove, hks _ _ ht⟩
  -- a new kernel is pushed at the end of the queue and indexed there
  · refine ⟨fun j k hj => getElem?_push_of_eq_some (hext j k hj), fun j k hj => ?_,
      fun k t hkt => ?_, fun X t he => ?_⟩
    · rw [Array.getElem?_push] at hj
      split at hj
      · cases hj
        exact .inr ⟨move.1, hmove⟩
      · exact hnew j k hj
    · rw [ListMap.getElem?_insert] at hkt
      split at hkt
      · rename_i heq
        cases hkt
        rw [Array.getElem?_push_size, eq_of_beq heq]
      · exact getElem?_push_of_eq_some (hks k t hkt)
    · rcases List.mem_append.1 he with he | he
      · obtain ⟨k, hk, ht⟩ := hedge X t he
        exact ⟨k, hk, getElem?_push_of_eq_some ht⟩
      · obtain ⟨rfl, rfl⟩ := Prod.mk.inj (List.mem_singleton.1 he)
        exact ⟨move.2, hmove, Array.getElem?_push_size⟩

/-- Every move gets an edge on its symbol. -/
theorem exists_edge_foldl_visitMove (moves : List (Nat × List LrItem)) :
    ∀ (acc : Array (List LrItem) × ListMap (List LrItem) Nat × List (Nat × Nat)),
      (∀ e ∈ acc.2.2, e ∈ (moves.foldl visitMove acc).2.2) ∧
      ∀ move ∈ moves, ∃ t, (move.1, t) ∈ (moves.foldl visitMove acc).2.2 := by
  induction moves with
  | nil => simp
  | cons move rest ih =>
    intro acc
    obtain ⟨hkeep, hall⟩ := ih (visitMove acc move)
    have hgrow : ∀ e ∈ acc.2.2, e ∈ (visitMove acc move).2.2 := by
      intro e he
      unfold visitMove
      split <;> exact List.mem_append_left _ he
    have hmove : ∃ t, (move.1, t) ∈ (visitMove acc move).2.2 := by
      unfold visitMove
      split
      · exact ⟨_, List.mem_append_right _ (List.mem_singleton_self _)⟩
      · exact ⟨_, List.mem_append_right _ (List.mem_singleton_self _)⟩
    refine ⟨fun e he => hkeep e (hgrow e he), ?_⟩
    intro m hm
    rcases List.mem_cons.1 hm with rfl | hm
    · obtain ⟨t, ht⟩ := hmove
      exact ⟨t, hkeep _ ht⟩
    · exact hall m hm

theorem next?_eq_some {it : LrItem} {X : Nat} (h : g.next? it = some X) :
    ∃ p, g.productions[it.1]? = some p ∧ p.rhs[it.2]? = some X := by
  simpa only [next?, Option.bind_eq_some_iff] using h

/-- What the exploration keeps true of the queue of kernels, the kernel index and the
    sets found so far, `i` of them. -/
structure ExploreInv (g : Grammar) (byLhs : Array (List Nat)) (queue : Array (List LrItem))
    (kernels : ListMap (List LrItem) Nat) (i : Nat) (sets : ItemSets) : Prop where
  states_size : sets.states.size = i
  transitions_size : sets.transitions.size = i
  le_queue : i ≤ queue.size
  start : queue[0]? = some [(0, 0)]
  later : ∀ (j : Nat) (k : List LrItem), queue[j]? = some k → 0 < j → ∀ it ∈ k,
    0 < it.2 ∧ ∃ p, g.productions[it.1]? = some p ∧ it.2 ≤ p.rhs.length
  kernels_sound : ∀ (k : List LrItem) (t : Nat), kernels[k]? = some t → queue[t]? = some k
  states_eq : ∀ (j : Nat) (items : List LrItem), sets.states[j]? = some items →
    ∃ k, queue[j]? = some k ∧ items = g.closure byLhs k
  edge_sound : ∀ (j : Nat) (items : List LrItem) (edges : List (Nat × Nat)),
    sets.states[j]? = some items → sets.transitions[j]? = some edges → ∀ X t, (X, t) ∈ edges →
      ∃ k, (X, k) ∈ g.successors items ∧ queue[t]? = some k
  complete : ∀ (j : Nat) (items : List LrItem) (edges : List (Nat × Nat)),
    sets.states[j]? = some items → sets.transitions[j]? = some edges → ∀ it ∈ items, ∀ X,
      g.next? it = some X → ∃ t, (X, t) ∈ edges

theorem exploreInv_start (g : Grammar) (byLhs : Array (List Nat)) :
    ExploreInv g byLhs #[[(0, 0)]] (({} : ListMap (List LrItem) Nat).insert [(0, 0)] 0) 0
      ⟨#[], #[]⟩ := by
  refine ⟨rfl, rfl, by simp, rfl, ?_, ?_, by simp, by simp, by simp⟩
  · intro j k hj hpos
    simp only [List.getElem?_toArray, List.getElem?_singleton] at hj
    split at hj <;> simp_all
  · intro k t hk
    rw [ListMap.getElem?_insert] at hk
    split at hk
    · rename_i heq
      cases hk
      rw [eq_of_beq heq]
      rfl
    · simp at hk

/-- Exploring set `i` keeps the invariant, with one set more. -/
theorem ExploreInv.step {byLhs : Array (List Nat)} {queue : Array (List LrItem)}
    {kernels : ListMap (List LrItem) Nat} {i : Nat} {sets : ItemSets} {kernel : List LrItem}
    (inv : ExploreInv g byLhs queue kernels i sets) (hq : queue[i]? = some kernel) :
    let items := g.closure byLhs kernel
    let r := (g.successors items).foldl visitMove (queue, kernels, [])
    ExploreInv g byLhs r.1 r.2.1 (i + 1) ⟨sets.states.push items, sets.transitions.push r.2.2⟩ := by
  intro items r
  have V := visitInv_foldl (g.successors items) inv.kernels_sound
  have hri : r.1[i]? = some kernel := V.extends_queue i kernel hq
  refine ⟨by simp [inv.states_size], by simp [inv.transitions_size],
    (Array.getElem?_eq_some_iff.1 hri).1, V.extends_queue 0 _ inv.start, ?_, V.kernels_sound,
    ?_, ?_, ?_⟩
  -- a new kernel moves the dot of an item over a symbol, so its dots are inside
  · intro j k hj hpos it hit
    rcases V.new_kernel j k hj with hold | ⟨X, hX⟩
    · exact inv.later j k hold hpos it hit
    · obtain ⟨it₀, -, hnext, rfl⟩ := movedKernel_of_mem_successors hX it hit
      obtain ⟨p, hp, hX⟩ := next?_eq_some hnext
      exact ⟨Nat.succ_pos _, p, hp, (List.getElem?_eq_some_iff.1 hX).1⟩
  · intro j its hj
    rw [Array.getElem?_push, inv.states_size] at hj
    split at hj
    · rename_i hji
      subst hji
      cases hj
      exact ⟨kernel, hri, rfl⟩
    · obtain ⟨k, hk, rfl⟩ := inv.states_eq j its hj
      exact ⟨k, V.extends_queue j k hk, rfl⟩
  · intro j its edges hj he X t hXt
    rw [Array.getElem?_push, inv.states_size] at hj
    rw [Array.getElem?_push, inv.transitions_size] at he
    split at hj
    · simp only [↓reduceIte, *, Option.some.injEq] at hj he
      subst hj he
      exact V.edge_target X t hXt
    · rw [if_neg ‹_›] at he
      obtain ⟨k, hk, ht⟩ := inv.edge_sound j its edges hj he X t hXt
      exact ⟨k, hk, V.extends_queue t k ht⟩
  · intro j its edges hj he it hit X hX
    rw [Array.getElem?_push, inv.states_size] at hj
    rw [Array.getElem?_push, inv.transitions_size] at he
    split at hj
    · simp only [↓reduceIte, *, Option.some.injEq] at hj he
      subst hj he
      obtain ⟨k, hk⟩ := exists_mem_successors hit hX
      exact (exists_edge_foldl_visitMove _ _).2 _ hk
    · rw [if_neg ‹_›] at he
      exact inv.complete j its edges hj he it hit X hX

/-! ### The automaton -/

end Grammar

/-- The facts of the LR(0) automaton that the parser relies on. Set `j` is table state
    `j + 1`, and sets are read with `[j]?`. -/
structure ItemSets.Sound (g : Grammar) (sets : ItemSets) : Prop where
  transitions_size : sets.transitions.size = sets.states.size
  nonempty : 0 < sets.states.size
  valid : ∀ (j : Nat) (items : List LrItem), sets.states[j]? = some items → ∀ it ∈ items,
    ∃ p, g.productions[it.1]? = some p ∧ it.2 ≤ p.rhs.length
  start_dot : ∀ items, sets.states[0]? = some items → ∀ it ∈ items, it.2 = 0
  augmented : ∀ (j : Nat) (items : List LrItem), sets.states[j]? = some items →
    (0, 0) ∈ items → j = 0
  predicted : ∀ (j : Nat) (items : List LrItem), sets.states[j]? = some items → ∀ it ∈ items,
    it.2 = 0 → 1 ≤ it.1 → g.Predicted items it
  edge_sound : ∀ (j : Nat) (items : List LrItem) (edges : List (Nat × Nat)),
    sets.states[j]? = some items → sets.transitions[j]? = some edges → ∀ X t, (X, t) ∈ edges →
      0 < t ∧ (∃ it ∈ items, g.next? it = some X) ∧
      ∃ items', sets.states[t]? = some items' ∧ ∀ it ∈ items', 0 < it.2 →
        g.next? (it.1, it.2 - 1) = some X ∧ (it.1, it.2 - 1) ∈ items
  complete : ∀ (j : Nat) (items : List LrItem) (edges : List (Nat × Nat)),
    sets.states[j]? = some items → sets.transitions[j]? = some edges → ∀ it ∈ items, ∀ X,
      g.next? it = some X → ∃ t, (X, t) ∈ edges

namespace Grammar

/-- When the queue is exhausted, every kernel in it has been closed into its set. -/
theorem ExploreInv.states_closure {byLhs : Array (List Nat)} {queue : Array (List LrItem)}
    {kernels : ListMap (List LrItem) Nat} {i : Nat} {sets : ItemSets}
    (inv : ExploreInv g byLhs queue kernels i sets) (hq : queue[i]? = none) {t : Nat}
    {k : List LrItem} (hk : queue[t]? = some k) : sets.states[t]? = some (g.closure byLhs k) := by
  have hsize : sets.states.size = queue.size :=
    inv.states_size ▸ Nat.le_antisymm inv.le_queue (Array.getElem?_eq_none_iff.1 hq)
  have ht : t < sets.states.size := hsize ▸ (Array.getElem?_eq_some_iff.1 hk).1
  obtain ⟨k', hk', heq⟩ := inv.states_eq t _ (Array.getElem?_eq_getElem ht)
  rw [hk] at hk'
  cases hk'
  rw [Array.getElem?_eq_getElem ht, heq]

/-- When the queue is exhausted, every kernel has its set, and the invariant gives the
    automaton facts. -/
theorem ExploreInv.sound (hwf : g.WellFormed) {queue : Array (List LrItem)}
    {kernels : ListMap (List LrItem) Nat} {i : Nat} {sets : ItemSets}
    (inv : ExploreInv g g.byLhs queue kernels i sets) (hq : queue[i]? = none) :
    ItemSets.Sound g sets := by
  have hby := byLhs_sound g
  have hsize : sets.states.size = queue.size :=
    inv.states_size ▸ Nat.le_antisymm inv.le_queue (Array.getElem?_eq_none_iff.1 hq)
  -- every kernel in the queue has been closed into its set
  have hset : ∀ (t : Nat) (k : List LrItem), queue[t]? = some k →
      sets.states[t]? = some (g.closure g.byLhs k) :=
    fun _ _ hk => inv.states_closure hq hk
  -- an item with the dot further in belongs to the kernel
  have hkernel : ∀ (k : List LrItem) (it : LrItem), it ∈ g.closure g.byLhs k → 0 < it.2 → it ∈ k := by
    intro k it hit hpos
    rcases mem_closure hwf hby hit with hk | ⟨hdot, -⟩
    · exact hk
    · omega
  have hstart : sets.states[0]? = some (g.closure g.byLhs [(0, 0)]) := hset 0 _ inv.start
  -- the only item with the dot at the start that a kernel holds is the augmented one
  have hdot0 : ∀ (j : Nat) (k : List LrItem) (it : LrItem), queue[j]? = some k → it ∈ k → it.2 = 0 → j = 0 ∧ it = (0, 0) := by
    intro j k it hk hit hdot
    rcases Nat.eq_zero_or_pos j with rfl | hpos
    · rw [inv.start] at hk
      cases hk
      exact ⟨rfl, List.mem_singleton.1 hit⟩
    · have := (inv.later j k hk hpos it hit).1
      omega
  refine ⟨by rw [inv.transitions_size, inv.states_size], ?_, ?_, ?_, ?_, ?_, ?_, ?_⟩
  · exact hsize ▸ (Array.getElem?_eq_some_iff.1 inv.start).1
  · intro j items hj it hit
    obtain ⟨k, hk, rfl⟩ := inv.states_eq j items hj
    rcases mem_closure hwf hby hit with hin | ⟨hdot, -, p, hp, -⟩
    · rcases Nat.eq_zero_or_pos it.2 with hdot | hpos
      · obtain ⟨-, rfl⟩ := hdot0 j k it hk hin hdot
        exact ⟨_, hwf.augmented, Nat.zero_le _⟩
      · rcases Nat.eq_zero_or_pos j with rfl | hj0
        · rw [inv.start] at hk
          cases hk
          rw [List.mem_singleton.1 hin] at hpos
          exact absurd hpos (Nat.lt_irrefl 0)
        · exact (inv.later j k hk hj0 it hin).2
    · exact ⟨p, hp, hdot ▸ Nat.zero_le _⟩
  · intro items h0 it hit
    rw [hstart] at h0
    cases h0
    rcases mem_closure hwf hby hit with hin | ⟨hdot, -⟩
    · rw [List.mem_singleton.1 hin]
    · exact hdot
  · intro j items hj hit
    obtain ⟨k, hk, rfl⟩ := inv.states_eq j items hj
    rcases mem_closure hwf hby hit with hin | ⟨-, hq1, -⟩
    · exact (hdot0 j k _ hk hin rfl).1
    · exact absurd hq1 (by decide)
  · intro j items hj it hit hdot hq1
    obtain ⟨k, hk, rfl⟩ := inv.states_eq j items hj
    rcases mem_closure hwf hby hit with hin | hpred
    · obtain ⟨-, rfl⟩ := hdot0 j k it hk hin hdot
      exact absurd hq1 (by decide)
    · exact hpred
  · intro j items edges hj he X t hXt
    obtain ⟨k, hsucc, hk⟩ := inv.edge_sound j items edges hj he X t hXt
    have hmoved := movedKernel_of_mem_successors hsucc
    refine ⟨?_, exists_next_of_mem_successors hsucc, _, hset t k hk, fun it hit hpos => ?_⟩
    -- no edge enters the start set: its kernel item has the dot at the start
    · refine Nat.pos_of_ne_zero fun ht => ?_
      subst ht
      rw [inv.start] at hk
      cases hk
      obtain ⟨it₀, -, -, h⟩ := hmoved (0, 0) (List.mem_singleton_self _)
      exact absurd (congrArg Prod.snd h) (by simp)
    · obtain ⟨it₀, hit₀, hnext, rfl⟩ := hmoved it (hkernel k it hit hpos)
      exact ⟨hnext, hit₀⟩
  · exact inv.complete

/-- What the invariant gives once the queue is exhausted holds of every set the
    exploration returns: each round keeps the invariant. -/
theorem explore_of_inv {byLhs : Array (List Nat)} (P : ItemSets → Prop)
    (hP : ∀ (queue : Array (List LrItem)) (kernels : ListMap (List LrItem) Nat) (i : Nat)
      (sets : ItemSets), ExploreInv g byLhs queue kernels i sets → queue[i]? = none → P sets) :
    ∀ (fuel : Nat) (queue : Array (List LrItem)) (kernels : ListMap (List LrItem) Nat)
      (i : Nat) (sets sets' : ItemSets), ExploreInv g byLhs queue kernels i sets →
      g.explore byLhs fuel queue kernels i sets = .ok sets' → P sets'
  | 0, _, _, _, _, _, _, h => by simp [explore] at h
  | fuel + 1, queue, kernels, i, sets, sets', inv, h => by
    rw [explore_succ] at h
    split at h
    · rename_i hq
      cases h
      exact hP queue kernels i sets inv hq
    · rename_i kernel hq
      simp only at h
      split at h
      · cases h
      · exact explore_of_inv P hP fuel _ _ _ _ _ (inv.step hq) h

theorem explore_sound (hwf : g.WellFormed) :
    ∀ (fuel : Nat) (queue : Array (List LrItem)) (kernels : ListMap (List LrItem) Nat)
      (i : Nat) (sets sets' : ItemSets), ExploreInv g g.byLhs queue kernels i sets →
      g.explore g.byLhs fuel queue kernels i sets = .ok sets' → ItemSets.Sound g sets' :=
  explore_of_inv _ fun _ _ _ _ inv hq => inv.sound hwf hq

/-- The item sets of a well-formed grammar are a sound LR(0) automaton. -/
theorem itemSets_sound (hwf : g.WellFormed) {sets : ItemSets} (h : g.itemSets = .ok sets) :
    ItemSets.Sound g sets :=
  explore_sound hwf _ _ _ _ _ _ (exploreInv_start g g.byLhs) h

end IncrementalLR.Grammar
