import Mathlib.Data.Set.Operations
import Mathlib.Order.Interval.Set.Defs
import IncrementalLR.Proofs.Grammar.SlrReference
import IncrementalLR.Proofs.Grammar.Cells

/-!
# The explored item sets are the canonical LR(0) collection

`ItemSets.Sound` and `ItemSets.Complete` say what each explored set holds.
-/

namespace IncrementalLR

/-- The strict order of items: by production, then by dot. -/
def LrItem.Lt (a b : LrItem) : Prop := a.1 < b.1 ∨ (a.1 = b.1 ∧ a.2 < b.2)

namespace Grammar

variable {g : Grammar}

/-! ### Closing and moving, against the textbook -/

/-- The items a closing run adds stay inside the closure of the kernel: each starts a
    production of the nonterminal after the dot of an item already there. -/
theorem closeFrom_sub (hwf : g.WellFormed) {K : Set LrItem} {fuel i : Nat} {expanded : List Nat}
    {items : Array LrItem} (h : ∀ it ∈ items, g.Closure K it) :
    ∀ it ∈ g.closeFrom g.byLhs fuel items i expanded, g.Closure K it := by
  fun_induction g.closeFrom g.byLhs fuel items i expanded with
  | case1 | case2 => exact h
  | case3 fuel items i expanded item hitem s hnext hnew added ih =>
    refine ih fun it hit => ?_
    rcases Array.mem_append.1 hit with hold | hadd
    · exact h it hold
    · obtain ⟨q, hq, rfl⟩ := List.mem_map.1 (List.mem_toArray.1 hadd)
      obtain ⟨hq1, p, hp, hlhs⟩ := byLhs_sound g _ q hq
      have hs : g.tokenCount ≤ s := by
        simp only [isTerminal, Bool.and_eq_true, Bool.not_eq_eq_eq_not, Bool.not_true,
          decide_eq_false_iff_not, Nat.not_lt] at hnew
        exact hnew.1
      have hp' : g.tokenCount ≤ p.lhs := hwf.lhs_ge p (Array.mem_of_getElem? hp)
      refine .predict (h item (Array.mem_of_getElem? hitem)) hq1 hp ?_
      rw [hnext]
      congr 1
      omega
  | case4 fuel items i expanded item hitem s hnext hnew ih => exact ih h
  | case5 fuel items i expanded item hitem hnone ih => exact ih h

/-- Closing a kernel gives exactly its LR(0) closure. -/
theorem mem_closure_iff (hwf : g.WellFormed) {kernel : List LrItem} {it : LrItem} :
    it ∈ g.closure g.byLhs kernel ↔ g.Closure {x | x ∈ kernel} it := by
  constructor
  · intro h
    exact closeFrom_sub hwf (fun it hit => .kernel (List.mem_toArray.1 hit)) it
      (Array.mem_toList_iff.1 h)
  · intro h
    induction h with
    | kernel h => exact mem_closure_of_mem h
    | @predict it q prod _ hq hprod hnext ih =>
      have hnt : g.isTerminal prod.lhs = false := by
        simpa [isTerminal] using hwf.lhs_ge prod (Array.mem_of_getElem? hprod)
      exact closure_closedUnder (byLhs_sound g) (byLhs_nodup hwf) kernel it ih _ hnext hnt q
        (mem_byLhs hwf hq hprod)

/-- A successor kernel holds exactly the items of the set with the dot moved over its
    symbol. -/
theorem mem_successor_iff {items kernel : List LrItem} {X : Nat}
    (h : (X, kernel) ∈ g.successors items) {it : LrItem} :
    it ∈ kernel ↔ it ∈ g.moved {x | x ∈ items} X := by
  constructor
  · intro hit
    obtain ⟨it₀, hit₀, hnext, rfl⟩ := movedKernel_of_mem_successors h it hit
    exact ⟨it₀, hit₀, hnext, rfl⟩
  · rintro ⟨it₀, hit₀, hnext, rfl⟩
    exact mem_kernel_of_mem_successors h hit₀ hnext

/-- An edge of the explored sets leads to the LR(0) goto of its source. -/
theorem closure_successor_eq (hwf : g.WellFormed) {items kernel : List LrItem} {X : Nat}
    (h : (X, kernel) ∈ g.successors items) :
    {it | it ∈ g.closure g.byLhs kernel} = g.lrGoto {x | x ∈ items} X := by
  have hkernel : {x | x ∈ kernel} = g.moved {x | x ∈ items} X := Set.ext fun _ => mem_successor_iff h
  ext it
  change it ∈ g.closure g.byLhs kernel ↔ g.Closure (g.moved {x | x ∈ items} X) it
  rw [mem_closure_iff hwf, hkernel]

/-! ### Kernels in order -/

theorem pairwise_lt_eraseDups : ∀ (l : List LrItem),
    l.Pairwise (fun a b => LrItem.le a b = true) → l.eraseDups.Pairwise LrItem.Lt
  | [], _ => by simp
  | a :: as, h => by
    rw [List.eraseDups_cons]
    obtain ⟨hhead, htail⟩ := List.pairwise_cons.1 h
    -- the items left after `a` are the later ones that differ from it
    refine List.pairwise_cons.2 ⟨fun b hb => ?_, pairwise_lt_eraseDups _ (htail.filter _)⟩
    rw [List.mem_eraseDups, List.mem_filter] at hb
    have hle := hhead b hb.1
    have hne : b ≠ a := by simpa using hb.2
    simp only [LrItem.le, Bool.or_eq_true, decide_eq_true_eq, Bool.and_eq_true, beq_iff_eq]
      at hle
    unfold LrItem.Lt
    rcases hle with hlt | ⟨heq, hle⟩
    · exact .inl hlt
    · refine .inr ⟨heq, Nat.lt_of_le_of_ne hle fun h2 => hne ?_⟩
      exact Prod.ext heq.symm h2.symm
termination_by l => l.length
decreasing_by exact Nat.lt_succ_of_le (List.length_filter_le _ _)

/-- A kernel is sorted without repeats. -/
theorem pairwise_kernelOf (items : List LrItem) : (kernelOf items).Pairwise LrItem.Lt := by
  refine pairwise_lt_eraseDups _ (pairwise_sortBy ?_ ?_ _)
  · intro a b c hab hbc
    simp only [LrItem.le, Bool.or_eq_true, decide_eq_true_eq, Bool.and_eq_true, beq_iff_eq]
      at hab hbc ⊢
    omega
  · intro a b
    simp only [LrItem.le, Bool.not_eq_true', Bool.or_eq_true, Bool.or_eq_false_iff,
      decide_eq_true_eq, decide_eq_false_iff_not, Bool.and_eq_true, Bool.and_eq_false_iff,
      beq_iff_eq, beq_eq_false_iff_ne]
    omega

/-- Two kernels with the same items are the same list. -/
theorem eq_of_pairwise_lt {k k' : List LrItem} (h : k.Pairwise LrItem.Lt)
    (h' : k'.Pairwise LrItem.Lt) (hmem : ∀ it, it ∈ k ↔ it ∈ k') : k = k' := by
  have hne : ∀ a b : LrItem, LrItem.Lt a b → a ≠ b := by
    rintro a b (hab | ⟨-, hab⟩) rfl <;> omega
  refine List.Perm.eq_of_pairwise (fun a b _ _ hab hba => ?_) h h'
    ((List.perm_ext_iff_of_nodup (h.imp (hne _ _)) (h'.imp (hne _ _))).2 hmem)
  unfold LrItem.Lt at hab hba
  omega

theorem pairwise_of_mem_successors {items kernel : List LrItem} {X : Nat}
    (h : (X, kernel) ∈ g.successors items) : kernel.Pairwise LrItem.Lt := by
  obtain ⟨s, -, hs⟩ := List.mem_map.1 h
  obtain ⟨-, rfl⟩ := Prod.mk.inj hs
  exact pairwise_kernelOf _

/-! ### The kernel index and the order of discovery -/

/-- What folding the moves of one set keeps of the kernel index: it still finds every
    kernel of the queue at its place, and every kernel pushed gets an edge of the set. -/
structure VisitIndexed (queue : Array (List LrItem))
    (acc : Array (List LrItem) × ListMap (List LrItem) Nat × List (Nat × Nat)) : Prop where
  indexed : ∀ (t : Nat) (k : List LrItem), acc.1[t]? = some k → acc.2.1[k]? = some t
  size_le : queue.size ≤ acc.1.size
  pushed : ∀ j, queue.size ≤ j → j < acc.1.size → ∃ X, (X, j) ∈ acc.2.2

theorem visitIndexed_foldl {queue : Array (List LrItem)} {kernels : ListMap (List LrItem) Nat}
    (moves : List (Nat × List LrItem))
    (hidx : ∀ (t : Nat) (k : List LrItem), queue[t]? = some k → kernels[k]? = some t) :
    VisitIndexed queue (moves.foldl visitMove (queue, kernels, [])) := by
  refine List.foldlRecOn _ _ ⟨hidx, Nat.le_refl _, fun j h1 h2 => absurd h2 (by simp; omega)⟩ ?_
  intro acc hacc move _
  obtain ⟨hidx, hle, hpushed⟩ := hacc
  unfold visitMove
  split
  · refine ⟨hidx, hle, fun j h1 h2 => ?_⟩
    obtain ⟨X, hX⟩ := hpushed j h1 h2
    exact ⟨X, List.mem_append_left _ hX⟩
  -- a new kernel goes to the end of the queue, and the index learns its place
  · rename_i hnone
    refine ⟨fun t k hk => ?_, by simp only [Array.size_push]; omega, fun j h1 h2 => ?_⟩
    · rw [ListMap.getElem?_insert]
      rw [Array.getElem?_push] at hk
      split at hk
      · cases hk
        simp_all
      · split
        · rename_i heq
          rw [eq_of_beq heq, hidx t k hk] at hnone
          cases hnone
        · exact hidx t k hk
    · simp only [Array.size_push] at h2
      rcases Nat.lt_or_ge j acc.1.size with hj | hj
      · obtain ⟨X, hX⟩ := hpushed j h1 hj
        exact ⟨X, List.mem_append_left _ hX⟩
      · obtain rfl : j = acc.1.size := by omega
        exact ⟨move.1, List.mem_append_right _ (List.mem_singleton_self _)⟩

/-- What the exploration keeps of its kernel index and of the order in which it finds
    sets: the index finds every kernel of the queue at its place, every kernel is sorted
    without repeats, and every kernel after the first was found along an edge of a set
    explored before it. -/
structure ExploreIndexed (queue : Array (List LrItem)) (kernels : ListMap (List LrItem) Nat)
    (i : Nat) (sets : ItemSets) : Prop where
  indexed : ∀ (t : Nat) (k : List LrItem), queue[t]? = some k → kernels[k]? = some t
  sorted : ∀ (t : Nat) (k : List LrItem), queue[t]? = some k → k.Pairwise LrItem.Lt
  found : ∀ j, 0 < j → j < queue.size → ∃ i' < j, i' < i ∧
    ∃ edges X, sets.transitions[i']? = some edges ∧ (X, j) ∈ edges

theorem exploreIndexed_start :
    ExploreIndexed #[[(0, 0)]] (({} : ListMap (List LrItem) Nat).insert [(0, 0)] 0) 0
      ⟨#[], #[]⟩ := by
  refine ⟨fun t k hk => ?_, fun t k hk => ?_, fun j hj hlt => absurd hlt (by simp; omega)⟩
  · simp only [List.getElem?_toArray, List.getElem?_singleton] at hk
    split at hk
    · cases hk
      subst_vars
      rfl
    · cases hk
  · simp only [List.getElem?_toArray, List.getElem?_singleton] at hk
    split at hk
    · cases hk
      simp
    · cases hk

/-- Exploring set `i` keeps the index and the order of discovery: the kernels it finds
    new are sorted, and the set gets an edge to each of them. -/
theorem ExploreIndexed.step {byLhs : Array (List Nat)} {queue : Array (List LrItem)}
    {kernels : ListMap (List LrItem) Nat} {i : Nat} {sets : ItemSets} {kernel : List LrItem}
    (inv : ExploreInv g byLhs queue kernels i sets) (ix : ExploreIndexed queue kernels i sets)
    (hq : queue[i]? = some kernel) :
    let items := g.closure byLhs kernel
    let r := (g.successors items).foldl visitMove (queue, kernels, [])
    ExploreIndexed r.1 r.2.1 (i + 1) ⟨sets.states.push items, sets.transitions.push r.2.2⟩ := by
  intro items r
  have V := visitInv_foldl (g.successors items) inv.kernels_sound
  have W := visitIndexed_foldl (g.successors items) ix.indexed
  have hi : i < queue.size := (Array.getElem?_eq_some_iff.1 hq).1
  refine ⟨W.indexed, fun t k hk => ?_, fun j hj hlt => ?_⟩
  · rcases V.new_kernel t k hk with hold | ⟨X, hX⟩
    · exact ix.sorted t k hold
    · exact pairwise_of_mem_successors hX
  · rcases Nat.lt_or_ge j queue.size with hjq | hjq
    -- an old kernel keeps the edge it was found along
    · obtain ⟨i', hi'j, hi'i, edges, X, hedges, hX⟩ := ix.found j hj hjq
      refine ⟨i', hi'j, Nat.lt_succ_of_lt hi'i, edges, X, ?_, hX⟩
      exact getElem?_push_of_eq_some hedges
    -- a new kernel was found along an edge of set `i`
    · obtain ⟨X, hX⟩ := W.pushed j hjq hlt
      refine ⟨i, by omega, Nat.lt_succ_self i, r.2.2, X, ?_, hX⟩
      rw [Array.getElem?_push, inv.transitions_size, if_pos rfl]

end Grammar

/-- The explored sets as the canonical collection needs them: set 0 is the closure of the
    augmented start item, every edge leads to the closure of the successor kernel on its
    symbol, every set after the first is entered by an edge from an earlier set, and no
    two sets hold the same items. -/
structure ItemSets.Exact (g : Grammar) (sets : ItemSets) : Prop where
  start : sets.states[0]? = some (g.closure g.byLhs [(0, 0)])
  edge : ∀ (j : Nat) (items : List LrItem) (edges : List (Nat × Nat)),
    sets.states[j]? = some items → sets.transitions[j]? = some edges → ∀ X u, (X, u) ∈ edges →
      ∃ k, (X, k) ∈ g.successors items ∧ sets.states[u]? = some (g.closure g.byLhs k)
  found : ∀ j, 0 < j → j < sets.states.size → ∃ i < j,
    ∃ edges X, sets.transitions[i]? = some edges ∧ (X, j) ∈ edges
  distinct : ∀ (j j' : Nat) (items items' : List LrItem), sets.states[j]? = some items →
    sets.states[j']? = some items' → (∀ it, it ∈ items ↔ it ∈ items') → j = j'

namespace Grammar

variable {g : Grammar}

/-- When the queue is exhausted, the invariants give what the collection needs. Two sets
    with the same items are both the start set, which alone holds the augmented start
    item, or both later sets, whose kernels are then the same sorted list, which the
    index places once. -/
theorem ExploreIndexed.exact (hwf : g.WellFormed) {queue : Array (List LrItem)}
    {kernels : ListMap (List LrItem) Nat} {i : Nat} {sets : ItemSets}
    (inv : ExploreInv g g.byLhs queue kernels i sets) (ix : ExploreIndexed queue kernels i sets)
    (hq : queue[i]? = none) : ItemSets.Exact g sets := by
  have hS := inv.sound hwf hq
  have hsize : sets.states.size = queue.size :=
    inv.states_size ▸ Nat.le_antisymm inv.le_queue (Array.getElem?_eq_none_iff.1 hq)
  -- the kernel of a later set is the part of the set with the dot further in
  have hkernel : ∀ j k, queue[j]? = some k → 0 < j →
      ∀ it, it ∈ k ↔ it ∈ g.closure g.byLhs k ∧ 0 < it.2 := by
    intro j k hk hj it
    constructor
    · intro hit
      exact ⟨mem_closure_of_mem hit, (inv.later j k hk hj it hit).1⟩
    · rintro ⟨hit, hpos⟩
      rcases mem_closure hwf (byLhs_sound g) hit with hin | ⟨hdot, -⟩
      · exact hin
      · omega
  have hstart : ∀ k, queue[0]? = some k → (0, 0) ∈ g.closure g.byLhs k := by
    intro k hk
    rw [inv.start] at hk
    cases hk
    exact mem_closure_of_mem (List.mem_singleton_self _)
  refine ⟨inv.states_closure hq inv.start, fun j items edges hj he X u hXu => ?_,
    fun j hj hlt => ?_, fun j j' items items' hj hj' hmem => ?_⟩
  · obtain ⟨k, hsucc, hk⟩ := inv.edge_sound j items edges hj he X u hXu
    exact ⟨k, hsucc, inv.states_closure hq hk⟩
  · obtain ⟨i', hi'j, -, edges, X, hedges, hX⟩ := ix.found j hj (hsize ▸ hlt)
    exact ⟨i', hi'j, edges, X, hedges, hX⟩
  · obtain ⟨k, hk, rfl⟩ := inv.states_eq j items hj
    obtain ⟨k', hk', rfl⟩ := inv.states_eq j' items' hj'
    rcases Nat.eq_zero_or_pos j with rfl | hjpos
    · exact (hS.augmented j' _ hj' ((hmem _).1 (hstart k hk))).symm
    rcases Nat.eq_zero_or_pos j' with rfl | hj'pos
    · exact hS.augmented j _ hj ((hmem _).2 (hstart k' hk'))
    have hkk : k = k' := eq_of_pairwise_lt (ix.sorted j k hk) (ix.sorted j' k' hk') fun it => by
      rw [hkernel j k hk hjpos, hkernel j' k' hk' hj'pos, hmem]
    subst hkk
    have hidx := ix.indexed j k hk
    rw [ix.indexed j' k hk'] at hidx
    exact (Option.some.inj hidx).symm

theorem explore_exact (hwf : g.WellFormed) :
    ∀ (fuel : Nat) (queue : Array (List LrItem)) (kernels : ListMap (List LrItem) Nat)
      (i : Nat) (sets sets' : ItemSets), ExploreInv g g.byLhs queue kernels i sets →
      ExploreIndexed queue kernels i sets →
      g.explore g.byLhs fuel queue kernels i sets = .ok sets' → ItemSets.Exact g sets'
  | 0, _, _, _, _, _, _, _, h => by simp [explore] at h
  | fuel + 1, queue, kernels, i, sets, sets', inv, ix, h => by
    rw [explore_succ] at h
    split at h
    · rename_i hq
      cases h
      exact ix.exact hwf inv hq
    · rename_i kernel hq
      simp only at h
      split at h
      · cases h
      · exact explore_exact hwf fuel _ _ _ _ _ (inv.step hq) (ix.step inv hq) h

theorem itemSets_exact (hwf : g.WellFormed) {sets : ItemSets} (h : g.itemSets = .ok sets) :
    ItemSets.Exact g sets :=
  explore_exact hwf _ _ _ _ _ _ (exploreInv_start g g.byLhs) exploreIndexed_start h

end Grammar

/-! ### Table states as item sets -/

theorem ItemSets.holds_succ {sets : ItemSets} {j : Nat} {items : List LrItem}
    (h : sets.states[j]? = some items) : sets.Holds (j + 1) = {it | it ∈ items} := by
  ext it
  constructor
  · rintro ⟨-, items', h', hit⟩
    rw [Nat.add_sub_cancel, h] at h'
    cases h'
    exact hit
  · intro hit
    exact ⟨Nat.le_add_left 1 j, items, by rw [Nat.add_sub_cancel]; exact h, hit⟩

namespace Grammar

variable {g : Grammar} {sets : ItemSets}

section Exact

variable (hwf : g.WellFormed) (hX : ItemSets.Exact g sets)
include hwf hX

/-- Table state 1 is the closure of the augmented start item. -/
theorem holds_start : sets.Holds 1 = g.Closure {(0, 0)} := by
  rw [ItemSets.holds_succ hX.start]
  ext it
  have hkernel : {x | x ∈ [((0, 0) : LrItem)]} = ({(0, 0)} : Set LrItem) :=
    Set.ext fun _ => List.mem_singleton
  change it ∈ g.closure g.byLhs [(0, 0)] ↔ g.Closure {(0, 0)} it
  rw [mem_closure_iff hwf, hkernel]

/-- An edge from set `j` on `X` leads to the LR(0) goto of state `j + 1` on `X`, and some
    dot of the state stands before `X`. -/
theorem holds_edge {j u X : Nat} {items : List LrItem} {edges : List (Nat × Nat)}
    (hj : sets.states[j]? = some items) (he : sets.transitions[j]? = some edges)
    (hXu : (X, u) ∈ edges) :
    sets.Holds (u + 1) = g.lrGoto (sets.Holds (j + 1)) X ∧ (g.moved (sets.Holds (j + 1)) X).Nonempty := by
  obtain ⟨k, hsucc, hu⟩ := hX.edge j items edges hj he X u hXu
  obtain ⟨it, hit, hnext⟩ := exists_next_of_mem_successors hsucc
  rw [ItemSets.holds_succ hu, ItemSets.holds_succ hj]
  exact ⟨closure_successor_eq hwf hsucc, ⟨(it.1, it.2 + 1), it, hit, hnext, rfl⟩⟩

/-- Every state is a set of the canonical collection. The induction follows the order in
    which the sets were found: each was reached along an edge of an earlier one. -/
theorem canonical_holds (hS : ItemSets.Sound g sets) :
    ∀ j, j < sets.states.size → g.Canonical (sets.Holds (j + 1)) := by
  intro j
  induction j using Nat.strong_induction_on with
  | _ j ih =>
    intro hj
    rcases Nat.eq_zero_or_pos j with rfl | hpos
    · rw [holds_start hwf hX]
      exact .start
    · obtain ⟨i, hij, edges, X, hedges, hXj⟩ := hX.found j hpos hj
      have hi : i < sets.states.size :=
        hS.transitions_size ▸ (Array.getElem?_eq_some_iff.1 hedges).1
      obtain ⟨heq, hne⟩ := holds_edge hwf hX (Array.getElem?_eq_getElem hi) hedges hXj
      rw [heq]
      exact .goto (ih i hij hi) hne

/-- Every set of the canonical collection is a state. The induction is on the collection:
    the goto of a state on a symbol after one of its dots follows its edge on it. -/
theorem exists_holds_of_canonical (hS : ItemSets.Sound g sets) {I : Set LrItem}
    (h : g.Canonical I) : ∃ j < sets.states.size, sets.Holds (j + 1) = I := by
  induction h with
  | start => exact ⟨0, hS.nonempty, holds_start hwf hX⟩
  | @goto I X _ hne ih =>
    obtain ⟨j, hj, rfl⟩ := ih
    obtain ⟨-, it₀, hit₀, hnext, -⟩ := hne
    have hitems := Array.getElem?_eq_getElem hj
    have hedges := Array.getElem?_eq_getElem (hS.transitions_size ▸ hj)
    rw [ItemSets.holds_succ hitems] at hit₀
    obtain ⟨u, hu⟩ := hS.complete j _ _ hitems hedges it₀ hit₀ X hnext
    obtain ⟨k, -, hk⟩ := hX.edge j _ _ hitems hedges X u hu
    exact ⟨u, (Array.getElem?_eq_some_iff.1 hk).1, (holds_edge hwf hX hitems hedges hu).1⟩

omit hwf in
/-- No two states hold the same items. -/
theorem holds_inj {j j' : Nat} (hj : j < sets.states.size) (hj' : j' < sets.states.size)
    (h : sets.Holds (j + 1) = sets.Holds (j' + 1)) : j = j' := by
  have hitems := Array.getElem?_eq_getElem hj
  have hitems' := Array.getElem?_eq_getElem hj'
  rw [ItemSets.holds_succ hitems, ItemSets.holds_succ hitems'] at h
  refine hX.distinct j j' _ _ hitems hitems' fun it => ?_
  change it ∈ {x | x ∈ sets.states[j]} ↔ it ∈ {x | x ∈ sets.states[j']}
  rw [h]

end Exact

/-- The table states after the error state, read as item sets, are the canonical LR(0)
    collection, each set once. -/
theorem holds_bijOn (hwf : g.WellFormed) (h : g.itemSets = .ok sets) :
    Set.BijOn sets.Holds (Set.Ico 1 (sets.states.size + 1)) {I | g.Canonical I} := by
  have hS := itemSets_sound hwf h
  have hX := itemSets_exact hwf h
  refine ⟨fun T hT => ?_, fun T hT T' hT' heq => ?_, fun I hI => ?_⟩
  · obtain ⟨j, rfl⟩ : ∃ j, T = j + 1 := ⟨T - 1, by have := hT.1; omega⟩
    exact canonical_holds hwf hX hS j (by have := hT.2; omega)
  · obtain ⟨j, rfl⟩ : ∃ j, T = j + 1 := ⟨T - 1, by have := hT.1; omega⟩
    obtain ⟨j', rfl⟩ : ∃ j', T' = j' + 1 := ⟨T' - 1, by have := hT'.1; omega⟩
    rw [holds_inj hX (by have := hT.2; omega) (by have := hT'.2; omega) heq]
  · obtain ⟨j, hj, heq⟩ := exists_holds_of_canonical hwf hX hS hI
    exact ⟨j + 1, ⟨Nat.le_add_left 1 j, Nat.succ_lt_succ hj⟩, heq⟩

end Grammar

end IncrementalLR
