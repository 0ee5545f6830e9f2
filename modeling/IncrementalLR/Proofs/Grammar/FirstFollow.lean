import Mathlib.Algebra.Order.BigOperators.Group.Finset
import IncrementalLR.Grammar.Follow
import IncrementalLR.Proofs.Grammar.Derivations
import IncrementalLR.Proofs.Grammar.WellFormed

/-!
# The first and follow sets reach their equations

Both sets are computed by passes over the productions that report whether anything grew,
repeated until a pass reports nothing.
-/

namespace IncrementalLR

/-! ### Sorted insertion -/

section Sorted

variable {x z : Nat}

theorem mem_insertSorted : ∀ {l : List Nat}, z ∈ (insertSorted x l).2 ↔ z = x ∨ z ∈ l
  | [] => by simp [insertSorted]
  | y :: ys => by
    unfold insertSorted
    split
    · simp
    · split
      · rename_i hxy
        subst hxy
        simp
      · have ih := mem_insertSorted (l := ys)
        simp only [List.mem_cons] at ih ⊢
        rw [ih]
        tauto

theorem insertSorted_of_not_grew : ∀ {l : List Nat}, (insertSorted x l).1 = false →
    (insertSorted x l).2 = l
  | [] => by simp [insertSorted]
  | y :: ys => by
    unfold insertSorted
    split
    · simp
    · split
      · simp
      · intro h
        simp only [List.cons.injEq, true_and]
        exact insertSorted_of_not_grew h

theorem length_insertSorted : ∀ {l : List Nat},
    (insertSorted x l).2.length = l.length + (insertSorted x l).1.toNat
  | [] => by simp [insertSorted]
  | y :: ys => by
    unfold insertSorted
    split
    · simp
    · split
      · simp
      · simp only [List.length_cons, length_insertSorted (l := ys)]
        omega

theorem pairwise_insertSorted : ∀ {l : List Nat}, l.Pairwise (· < ·) →
    (insertSorted x l).2.Pairwise (· < ·)
  | [] => by simp [insertSorted]
  | y :: ys => by
    intro h
    obtain ⟨hy, hys⟩ := List.pairwise_cons.1 h
    unfold insertSorted
    split
    · rename_i hxy
      refine List.pairwise_cons.2 ⟨fun w hw => ?_, h⟩
      rcases List.mem_cons.1 hw with rfl | hw
      · exact hxy
      · exact Nat.lt_trans hxy (hy w hw)
    · split
      · exact h
      -- `x` goes after `y`, so everything of the new tail is above `y`
      · rename_i hxy hne
        refine List.pairwise_cons.2 ⟨fun w hw => ?_, pairwise_insertSorted hys⟩
        rcases mem_insertSorted.1 hw with rfl | hw
        · omega
        · exact hy w hw

end Sorted

/-- One insertion of `insertAll`, keeping the flag that says whether the set grew. -/
def insertStep (acc : Bool × List Nat) (x : Nat) : Bool × List Nat :=
  let (grew, s) := acc
  let (g, s) := insertSorted x s
  (grew || g, s)

theorem insertAll_eq (xs s : List Nat) : insertAll xs s = xs.foldl insertStep (false, s) := rfl

theorem insertStep_eq (b : Bool) (s : List Nat) (x : Nat) :
    insertStep (b, s) x = (b || (insertSorted x s).1, (insertSorted x s).2) := rfl

section InsertAll

variable {z : Nat}

/-- What folding insertions from any flag does: the set gets the new elements and keeps
    the old ones, never shrinks, grows when the flag is raised, and stays as it was when
    the flag stays down. -/
theorem foldl_insertStep (xs : List Nat) : ∀ (b : Bool) (s : List Nat),
    (∀ z, z ∈ (xs.foldl insertStep (b, s)).2 ↔ z ∈ xs ∨ z ∈ s) ∧
    s.length ≤ (xs.foldl insertStep (b, s)).2.length ∧
    ((xs.foldl insertStep (b, s)).1 = true → b = true ∨ s.length < (xs.foldl insertStep (b, s)).2.length) ∧
    ((xs.foldl insertStep (b, s)).1 = false → b = false ∧ (xs.foldl insertStep (b, s)).2 = s) ∧
    (s.Pairwise (· < ·) → (xs.foldl insertStep (b, s)).2.Pairwise (· < ·)) := by
  induction xs with
  | nil => simp
  | cons x xs ih =>
    intro b s
    rw [List.foldl_cons, insertStep_eq]
    obtain ⟨hmem, hlen, hgrew, hsame, hsorted⟩ := ih (b || (insertSorted x s).1) (insertSorted x s).2
    have hlen₀ := length_insertSorted (x := x) (l := s)
    refine ⟨fun w => ?_, by omega, fun h => ?_, fun h => ?_, fun h => hsorted (pairwise_insertSorted h)⟩
    · rw [hmem, mem_insertSorted]
      simp only [List.mem_cons]
      tauto
    · rcases hgrew h with hb | hlt
      · rcases Bool.or_eq_true_iff.1 hb with hb | hins
        · exact .inl hb
        · rw [hins, Bool.toNat_true] at hlen₀
          exact .inr (by omega)
      · exact .inr (by omega)
    · obtain ⟨hb, hs⟩ := hsame h
      simp only [Bool.or_eq_false_iff] at hb
      exact ⟨hb.1, hs.trans (insertSorted_of_not_grew hb.2)⟩

theorem mem_insertAll {xs s : List Nat} : z ∈ (insertAll xs s).2 ↔ z ∈ xs ∨ z ∈ s :=
  (foldl_insertStep xs false s).1 z

theorem length_le_insertAll (xs s : List Nat) : s.length ≤ (insertAll xs s).2.length :=
  (foldl_insertStep xs false s).2.1

theorem length_lt_insertAll {xs s : List Nat} (h : (insertAll xs s).1 = true) :
    s.length < (insertAll xs s).2.length := by
  rcases (foldl_insertStep xs false s).2.2.1 h with h | h
  · cases h
  · exact h

theorem insertAll_of_not_grew {xs s : List Nat} (h : (insertAll xs s).1 = false) :
    (insertAll xs s).2 = s :=
  ((foldl_insertStep xs false s).2.2.2.1 h).2

theorem pairwise_insertAll {xs s : List Nat} (h : s.Pairwise (· < ·)) :
    (insertAll xs s).2.Pairwise (· < ·) :=
  (foldl_insertStep xs false s).2.2.2.2 h

end InsertAll

/-! ### Passes with a change flag

A pass folds a step over a list; the step reports whether it changed anything. The two
lemmas below hold for any such pass, given what one step does, and serve the first sets,
the follow sets, and the entries of one production within a follow pass. -/

section Iteration

variable {σ α : Type} (Inv : σ → Prop) (Le : σ → σ → Prop) (weight : σ → Nat)
  (Sat : σ → α → Prop)

/-- What one step does from any flag: it keeps `Inv`, only grows the state, raises the
    weight when it reports a change, and reports none only when it changed nothing and
    its equation `Sat` already holds. -/
def StepGrows (step : Bool × σ → α → Bool × σ) (a : α) : Prop :=
  ∀ c s, Inv s → Inv (step (c, s) a).2 ∧ Le s (step (c, s) a).2 ∧
    ((step (c, s) a).1 = true → c = true ∨ weight s < weight (step (c, s) a).2) ∧
    ((step (c, s) a).1 = false → c = false ∧ (step (c, s) a).2 = s ∧ Sat s a)

variable {Inv Le weight Sat}
variable (hrefl : ∀ s, Le s s) (htrans : ∀ s₁ s₂ s₃, Le s₁ s₂ → Le s₂ s₃ → Le s₁ s₃)
  (hmono : ∀ s s', Le s s' → weight s ≤ weight s')
include hrefl htrans hmono

/-- A fold of steps is itself a step, whose equation is that of every element. -/
theorem stepGrows_foldl {step : Bool × σ → α → Bool × σ} :
    ∀ (as : List α), (∀ a ∈ as, StepGrows Inv Le weight Sat step a) →
      StepGrows Inv Le weight (fun s as => ∀ a ∈ as, Sat s a)
        (fun acc as => as.foldl step acc) as
  | [], _ => fun c s hs => ⟨hs, hrefl s, fun h => .inl h, fun h => ⟨h, rfl, by simp⟩⟩
  | a :: as, hall => by
    intro c s hs
    obtain ⟨hs₁, hle₁, hup₁, hsame₁⟩ := hall a List.mem_cons_self c s hs
    obtain ⟨hs₂, hle₂, hup₂, hsame₂⟩ := stepGrows_foldl as
      (fun a' ha' => hall a' (List.mem_cons_of_mem a ha')) (step (c, s) a).1 (step (c, s) a).2 hs₁
    simp only [List.foldl_cons]
    refine ⟨hs₂, htrans _ _ _ hle₁ hle₂, fun h => ?_, fun h => ?_⟩
    -- a change reported at the end was reported by the first step or raised the weight later
    · rcases hup₂ h with h₁ | hlt
      · rcases hup₁ h₁ with hc | hlt₁
        · exact .inl hc
        · exact .inr (Nat.lt_of_lt_of_le hlt₁ (hmono _ _ hle₂))
      · exact .inr (Nat.lt_of_le_of_lt (hmono _ _ hle₁) hlt)
    · obtain ⟨hc₁, heq₂, hsat₂⟩ := hsame₂ h
      obtain ⟨hc, heq₁, hsat₁⟩ := hsame₁ hc₁
      refine ⟨hc, heq₂.trans heq₁, fun a' ha' => ?_⟩
      rcases List.mem_cons.1 ha' with rfl | ha'
      · exact hsat₁
      · exact heq₁ ▸ hsat₂ a' ha'

omit hmono in
/-- A loop that repeats a pass while it reports a change ends on a solution of the
    pass's equations, provided the weight is bounded and the fuel exceeds the bound less
    the weight: every pass that reports a change raises the weight. -/
theorem loop_solves (pass : σ → Bool × σ) (loop : Nat → σ → σ) (Closed : σ → Prop)
    (hzero : ∀ s, loop 0 s = s)
    (hsucc : ∀ fuel s, loop (fuel + 1) s = if (pass s).1 then loop fuel (pass s).2 else (pass s).2)
    (hpass : ∀ s, Inv s → Inv (pass s).2 ∧ Le s (pass s).2 ∧
      ((pass s).1 = true → weight s < weight (pass s).2) ∧ ((pass s).1 = false → (pass s).2 = s ∧ Closed s))
    (bound : Nat) (hbound : ∀ s, Inv s → weight s ≤ bound) :
    ∀ fuel s, Inv s → bound < weight s + fuel →
      Closed (loop fuel s) ∧ Inv (loop fuel s) ∧ Le s (loop fuel s)
  | 0, s, hs, hfuel => absurd (hbound s hs) (by omega)
  | fuel + 1, s, hs, hfuel => by
    obtain ⟨hs', hle, hup, hsame⟩ := hpass s hs
    rw [hsucc]
    cases hc : (pass s).1
    · obtain ⟨heq, hclosed⟩ := hsame hc
      simp only [Bool.false_eq_true, ↓reduceIte, heq]
      exact ⟨hclosed, hs, hrefl s⟩
    · have hlt := hup hc
      obtain ⟨hclosed, hinv, hle'⟩ :=
        loop_solves pass loop Closed hzero hsucc hpass bound hbound fuel _ hs' (by omega)
      simp only [↓reduceIte]
      exact ⟨hclosed, hinv, htrans _ _ _ hle hle'⟩

end Iteration

/-! ### Arrays of sets -/

/-- A strictly increasing list of numbers below `m` has at most `m` elements. -/
theorem length_le_of_pairwise_lt {l : List Nat} {m : Nat} (hl : l.Pairwise (· < ·))
    (hlt : ∀ z ∈ l, z < m) : l.length ≤ m := by
  have hsub : l.toFinset ⊆ Finset.range m := by
    intro z hz
    exact Finset.mem_range.2 (hlt z (List.mem_toFinset.1 hz))
  calc l.length = l.toFinset.card := (List.toFinset_card_of_nodup hl.nodup).symm
    _ ≤ (Finset.range m).card := Finset.card_le_card hsub
    _ = m := Finset.card_range m

/-- `n` sets, each a strictly increasing list of numbers below `m`. -/
structure SetsBelow (n m : Nat) (f : Array (List Nat)) : Prop where
  size_eq : f.size = n
  sorted : ∀ i : Nat, ((f[i]?).getD []).Pairwise (· < ·)
  lt : ∀ i : Nat, ∀ z ∈ (f[i]?).getD [], z < m

/-- Every set of `f` is kept in `f'`, and none got shorter. -/
def SetsGrow (f f' : Array (List Nat)) : Prop :=
  ∀ i : Nat, (∀ z ∈ (f[i]?).getD [], z ∈ (f'[i]?).getD []) ∧
    ((f[i]?).getD []).length ≤ ((f'[i]?).getD []).length

/-- The sizes of the first `n` sets together. -/
def setsWeight (n : Nat) (f : Array (List Nat)) : Nat :=
  ∑ i ∈ Finset.range n, ((f[i]?).getD []).length

namespace SetsGrow

variable {f f' f'' : Array (List Nat)}

theorem refl (f : Array (List Nat)) : SetsGrow f f := fun _ => ⟨fun _ h => h, Nat.le_refl _⟩

theorem trans (h : SetsGrow f f') (h' : SetsGrow f' f'') : SetsGrow f f'' :=
  fun i => ⟨fun z hz => (h' i).1 z ((h i).1 z hz), Nat.le_trans (h i).2 (h' i).2⟩

theorem weight_le (h : SetsGrow f f') (n : Nat) : setsWeight n f ≤ setsWeight n f' :=
  Finset.sum_le_sum fun i _ => (h i).2

theorem weight_lt (h : SetsGrow f f') {n k : Nat} (hk : k < n)
    (hlt : ((f[k]?).getD []).length < ((f'[k]?).getD []).length) :
    setsWeight n f < setsWeight n f' :=
  Finset.sum_lt_sum (fun i _ => (h i).2) ⟨k, Finset.mem_range.2 hk, hlt⟩

end SetsGrow

theorem SetsBelow.weight_le {n m : Nat} {f : Array (List Nat)} (h : SetsBelow n m f) :
    setsWeight n f ≤ n * m := by
  have := Finset.sum_le_card_nsmul (Finset.range n) (fun i => ((f[i]?).getD []).length) m
    fun i _ => length_le_of_pairwise_lt (h.sorted i) (h.lt i)
  simpa [setsWeight] using this

theorem getD_setIfInBounds {f : Array (List Nat)} {k i : Nat} {a : List Nat} (hk : k < f.size) :
    ((f.setIfInBounds k a)[i]?).getD [] = if k = i then a else (f[i]?).getD [] := by
  rw [Array.getElem?_setIfInBounds]
  split
  · simp
  · rfl

/-- Writing a set back where it was changes nothing. -/
theorem setIfInBounds_getD_self {f : Array (List Nat)} {k : Nat} (hk : k < f.size) :
    f.setIfInBounds k ((f[k]?).getD []) = f := by
  apply Array.ext_getElem?
  intro i
  rw [Array.getElem?_setIfInBounds]
  split
  · subst_vars
    simp [hk]
  · rfl

/-- Inserting `xs` into set `k`, as both passes do: the sets stay sorted and bounded and
    only grow, set `k` gets `xs`, the weight rises when the set grew, and nothing changes
    when it did not. -/
theorem SetsBelow.insertAt {n m k : Nat} {f : Array (List Nat)} {xs : List Nat}
    (hf : SetsBelow n m f) (hk : k < n) (hxs : ∀ z ∈ xs, z < m) :
    SetsBelow n m (f.setIfInBounds k (insertAll xs ((f[k]?).getD [])).2) ∧
    SetsGrow f (f.setIfInBounds k (insertAll xs ((f[k]?).getD [])).2) ∧
    (∀ z ∈ xs, z ∈ ((f.setIfInBounds k (insertAll xs ((f[k]?).getD [])).2)[k]?).getD []) ∧
    ((insertAll xs ((f[k]?).getD [])).1 = true →
      setsWeight n f < setsWeight n (f.setIfInBounds k (insertAll xs ((f[k]?).getD [])).2)) ∧
    ((insertAll xs ((f[k]?).getD [])).1 = false →
      f.setIfInBounds k (insertAll xs ((f[k]?).getD [])).2 = f) := by
  have hks : k < f.size := hf.size_eq ▸ hk
  have hget := fun i => getD_setIfInBounds (i := i) (a := (insertAll xs ((f[k]?).getD [])).2) hks
  have hgrow : SetsGrow f (f.setIfInBounds k (insertAll xs ((f[k]?).getD [])).2) := by
    intro i
    rw [hget i]
    split
    · rename_i hki
      subst hki
      exact ⟨fun z hz => mem_insertAll.2 (.inr hz), length_le_insertAll _ _⟩
    · exact ⟨fun _ h => h, Nat.le_refl _⟩
  refine ⟨⟨by rw [Array.size_setIfInBounds, hf.size_eq], fun i => ?_, fun i z hz => ?_⟩,
    hgrow, fun z hz => ?_, fun h => ?_, fun h => ?_⟩
  · rw [hget i]
    split
    · exact pairwise_insertAll (hf.sorted k)
    · exact hf.sorted i
  · rw [hget i] at hz
    split at hz
    · rcases mem_insertAll.1 hz with hz | hz
      · exact hxs z hz
      · exact hf.lt k z hz
    · exact hf.lt i z hz
  · rw [hget k, if_pos rfl]
    exact mem_insertAll.2 (.inl hz)
  · refine hgrow.weight_lt hk ?_
    rw [hget k, if_pos rfl]
    exact length_lt_insertAll h
  · rw [insertAll_of_not_grew h]
    exact setIfInBounds_getD_self hks

/-! ### First sets -/

namespace FirstSets

/-- The nullable flags raised among the first `n`. -/
def flagCount (n : Nat) (a : Array Bool) : Nat := ∑ i ∈ Finset.range n, ((a[i]?).getD false).toNat

/-- First sets of `n` nonterminals, over terminals below `m`. -/
structure Bounded (n m : Nat) (sets : FirstSets) : Prop where
  nullable_size : sets.nullable.size = n
  first : SetsBelow n m sets.first

/-- Every first set and every raised flag of `s` is kept in `s'`. -/
def Grows (s s' : FirstSets) : Prop :=
  SetsGrow s.first s'.first ∧
    ∀ i : Nat, (s.nullable[i]?).getD false = true → (s'.nullable[i]?).getD false = true

/-- What the first sets hold: their terminals and their raised flags. -/
def weight (n : Nat) (s : FirstSets) : Nat := setsWeight n s.first + flagCount n s.nullable

variable {s s' s'' : FirstSets}

theorem Grows.refl (s : FirstSets) : Grows s s := ⟨SetsGrow.refl _, fun _ h => h⟩

theorem Grows.trans (h : Grows s s') (h' : Grows s' s'') : Grows s s'' :=
  ⟨h.1.trans h'.1, fun i hi => h'.2 i (h.2 i hi)⟩

theorem flagCount_le {a a' : Array Bool}
    (h : ∀ i : Nat, (a[i]?).getD false = true → (a'[i]?).getD false = true) (n : Nat) :
    flagCount n a ≤ flagCount n a' := by
  refine Finset.sum_le_sum fun i _ => ?_
  cases hi : (a[i]?).getD false
  · exact Nat.zero_le _
  · rw [h i hi]

theorem Grows.weight_le (h : Grows s s') (n : Nat) : weight n s ≤ weight n s' :=
  Nat.add_le_add (h.1.weight_le n) (flagCount_le h.2 n)

theorem Bounded.weight_le {n m : Nat} (h : Bounded n m s) : weight n s ≤ n * (m + 1) := by
  have hflags : flagCount n s.nullable ≤ n := by
    have := Finset.sum_le_card_nsmul (Finset.range n) (fun i => ((s.nullable[i]?).getD false).toNat) 1
      fun i _ => Bool.toNat_le _
    simpa [flagCount] using this
  have := h.first.weight_le
  unfold weight
  rw [Nat.mul_add, Nat.mul_one]
  omega

/-- Raising flag `k`, which was down, raises the count. -/
theorem flagCount_lt_set {n k : Nat} {a : Array Bool} (hk : k < n) (hsize : a.size = n)
    (hdown : (a[k]?).getD false = false) : flagCount n a < flagCount n (a.setIfInBounds k true) := by
  have hget : ∀ i : Nat, ((a.setIfInBounds k true)[i]?).getD false =
      if k = i then true else (a[i]?).getD false := by
    intro i
    rw [Array.getElem?_setIfInBounds]
    split
    · simp [hsize ▸ hk]
    · rfl
  refine Finset.sum_lt_sum (fun i _ => ?_) ⟨k, Finset.mem_range.2 hk, ?_⟩
  · rw [hget i]
    split
    · exact Bool.toNat_le _
    · exact Nat.le_refl _
  · rw [hget k, if_pos rfl, hdown]
    decide

end FirstSets

/-- The symbols of a right side, each with what stands behind it. -/
def Production.tails (p : Production) : List (Nat × List Nat) :=
  (List.range p.rhs.length).filterMap fun i => p.rhs[i]?.map fun s => (s, p.rhs.drop (i + 1))

namespace Grammar

variable {g : Grammar}

/-- The equation of production `p` for first sets: what its right side can begin with is
    in the first set of its left side, and a right side that can be empty makes the left
    side nullable. -/
def FirstSatisfies (g : Grammar) (sets : FirstSets) (p : Production) : Prop :=
  (∀ b ∈ (g.firstOfSeq sets p.rhs).1, b ∈ (sets.first[g.offset p.lhs]?).getD []) ∧
  ((g.firstOfSeq sets p.rhs).2 = true → (sets.nullable[g.offset p.lhs]?).getD false = true)

/-- First sets that satisfy the equation of every production but the augmented start. -/
def FirstClosed (g : Grammar) (sets : FirstSets) : Prop :=
  ∀ p prod, 1 ≤ p → g.productions[p]? = some prod → g.FirstSatisfies sets prod

/-- The step of `firstPass` for one production. -/
def firstStep (g : Grammar) (acc : Bool × FirstSets) (p : Production) : Bool × FirstSets :=
  let (changed, sets) := acc
  let lhs := g.offset p.lhs
  let (terminals, allNullable) := g.firstOfSeq sets p.rhs
  let (grew, set) := insertAll terminals ((sets.first[lhs]?).getD [])
  let sets := { sets with first := sets.first.setIfInBounds lhs set }
  if allNullable && !((sets.nullable[lhs]?).getD false) then
    (true, { sets with nullable := sets.nullable.setIfInBounds lhs true })
  else (changed || grew, sets)

theorem firstPass_eq (sets : FirstSets) :
    g.firstPass sets = (g.productions.toList.drop 1).foldl g.firstStep (false, sets) := rfl

theorem firstStep_eq (c : Bool) (s : FirstSets) (p : Production) :
    g.firstStep (c, s) p =
      if (g.firstOfSeq s p.rhs).2 && !((s.nullable[g.offset p.lhs]?).getD false) then
        (true, ⟨s.nullable.setIfInBounds (g.offset p.lhs) true, s.first.setIfInBounds (g.offset p.lhs)
          (insertAll (g.firstOfSeq s p.rhs).1 ((s.first[g.offset p.lhs]?).getD [])).2⟩)
      else (c || (insertAll (g.firstOfSeq s p.rhs).1 ((s.first[g.offset p.lhs]?).getD [])).1,
        ⟨s.nullable, s.first.setIfInBounds (g.offset p.lhs)
          (insertAll (g.firstOfSeq s p.rhs).1 ((s.first[g.offset p.lhs]?).getD [])).2⟩) := rfl

theorem firstOfSeq_cons (sets : FirstSets) (s : Nat) (rest : List Nat) :
    g.firstOfSeq sets (s :: rest) =
      if g.isTerminal s then ([s], false)
      else if (sets.nullable[g.offset s]?).getD false then
        ((sets.first[g.offset s]?).getD [] ++ (g.firstOfSeq sets rest).1, (g.firstOfSeq sets rest).2)
      else ((sets.first[g.offset s]?).getD [], false) := rfl

/-- What a string can begin with is a terminal or in some first set. -/
theorem firstOfSeq_lt {sets : FirstSets} {m : Nat} (hm : g.tokenCount ≤ m)
    (hf : ∀ i : Nat, ∀ z ∈ (sets.first[i]?).getD [], z < m) :
    ∀ (β : List Nat), ∀ z ∈ (g.firstOfSeq sets β).1, z < m
  | [] => by simp [firstOfSeq]
  | s :: rest => by
    intro z hz
    rw [firstOfSeq_cons] at hz
    split at hz
    · rename_i hs
      rw [List.mem_singleton.1 hz]
      simp only [isTerminal, decide_eq_true_eq] at hs
      omega
    · split at hz
      · rcases List.mem_append.1 hz with hz | hz
        · exact hf _ z hz
        · exact firstOfSeq_lt hm hf rest z hz
      · exact hf _ z hz

/-- One production's step of a first pass: it inserts what the right side can begin
    with, and raises the flag of a right side that can be empty. -/
theorem firstStep_grows {n m : Nat} (hm : g.tokenCount ≤ m) {p : Production}
    (hp : g.offset p.lhs < n) :
    StepGrows (FirstSets.Bounded n m) FirstSets.Grows (FirstSets.weight n) g.FirstSatisfies
      g.firstStep p := by
  intro c s hs
  rw [firstStep_eq]
  obtain ⟨hB, hG, hmem, hup, hsame⟩ :=
    hs.first.insertAt hp (firstOfSeq_lt hm hs.first.lt p.rhs)
  split
  -- the flag of the left side goes up
  · rename_i hnull
    simp only [Bool.and_eq_true, Bool.not_eq_eq_eq_not, Bool.not_true] at hnull
    refine ⟨⟨by rw [Array.size_setIfInBounds, hs.nullable_size], hB⟩, ⟨hG, fun i hi => ?_⟩,
      fun _ => .inr ?_, fun h => by cases h⟩
    · rw [Array.getElem?_setIfInBounds]
      split
      · simp [hs.nullable_size ▸ hp]
      · exact hi
    · exact Nat.add_lt_add_of_le_of_lt (hG.weight_le n)
        (FirstSets.flagCount_lt_set hp hs.nullable_size hnull.2)
  · rename_i hnull
    refine ⟨⟨hs.nullable_size, hB⟩, ⟨hG, fun _ h => h⟩, fun h => ?_, fun h => ?_⟩
    · rcases Bool.or_eq_true_iff.1 h with hc | hgrew
      · exact .inl hc
      · exact .inr (Nat.add_lt_add_right (hup hgrew) _)
    -- nothing grew: the sets are unchanged and the equation held already
    · simp only [Bool.or_eq_false_iff] at h
      have heq := hsame h.2
      refine ⟨h.1, by rw [heq], fun b hb => heq ▸ hmem b hb, fun hall => ?_⟩
      simpa [hall] using hnull

theorem offset_lhs_lt (hwf : g.WellFormed) {prod : Production} (h : prod ∈ g.productions) :
    g.offset prod.lhs < g.nonterminalCount := by
  have := hwf.lhs_ge prod h
  have := hwf.lhs_lt prod h
  unfold offset nonterminalCount
  omega

theorem mem_drop_one {p : Nat} {prod : Production} (hp : 1 ≤ p)
    (h : g.productions[p]? = some prod) : prod ∈ g.productions.toList.drop 1 := by
  refine List.mem_of_getElem? (i := p - 1) ?_
  rw [List.getElem?_drop, Array.getElem?_toList, Nat.add_sub_cancel' hp]
  exact h

/-- The first sets of a well-formed grammar satisfy every production's equation. -/
theorem firstSets_closed (hwf : g.WellFormed) :
    g.FirstClosed g.firstSets ∧ g.firstSets.Bounded g.nonterminalCount g.tokenCount := by
  have hsteps : ∀ p ∈ g.productions.toList.drop 1,
      StepGrows (FirstSets.Bounded g.nonterminalCount g.tokenCount) FirstSets.Grows
        (FirstSets.weight g.nonterminalCount) g.FirstSatisfies g.firstStep p :=
    fun p hp => firstStep_grows (Nat.le_refl _)
      (offset_lhs_lt hwf (Array.mem_toList_iff.1 (List.mem_of_mem_drop hp)))
  have hpass := stepGrows_foldl FirstSets.Grows.refl (fun _ _ _ => FirstSets.Grows.trans)
    (fun _ _ h => h.weight_le _) _ hsteps
  have hinit : FirstSets.Bounded g.nonterminalCount g.tokenCount
      ⟨Array.replicate g.nonterminalCount false, Array.replicate g.nonterminalCount []⟩ := by
    refine ⟨Array.size_replicate, Array.size_replicate, fun i => ?_, fun i z hz => ?_⟩
    · simp only [Array.getElem?_replicate]
      split <;> simp
    · simp only [Array.getElem?_replicate] at hz
      split at hz <;> simp at hz
  obtain ⟨hclosed, hinv, -⟩ := loop_solves FirstSets.Grows.refl
    (fun _ _ _ => FirstSets.Grows.trans) g.firstPass g.firstLoop
    (fun s => ∀ p ∈ g.productions.toList.drop 1, g.FirstSatisfies s p) (fun _ => rfl)
    (fun _ _ => rfl)
    (fun s hs => by
      obtain ⟨hinv, hle, hup, hsame⟩ := hpass false s hs
      refine ⟨hinv, hle, fun h => ?_, fun h => ⟨(hsame h).2.1, (hsame h).2.2⟩⟩
      rcases hup h with h | h
      · cases h
      · exact h)
    _ (fun s hs => hs.weight_le) (g.nonterminalCount * (g.tokenCount + 1) + 2) _ hinit (by omega)
  exact ⟨fun p prod hp hprod => hclosed prod (mem_drop_one hp hprod), hinv⟩

/-- A derivation's word begins with a terminal of its string's first set, and a string
    that derives the empty word is nullable, for first sets that satisfy the equations.
    The induction is on the derivation; at a nonterminal its production's equation
    carries the fact from the right side to the left. -/
theorem mem_firstOfSeq_of_derives (hwf : g.WellFormed) {sets : FirstSets}
    (hc : g.FirstClosed sets) {β w : List Nat} (h : g.Derives β w) :
    (w = [] → (g.firstOfSeq sets β).2 = true) ∧
      ∀ b w', w = b :: w' → b ∈ (g.firstOfSeq sets β).1 := by
  induction h with
  | nil => exact ⟨fun _ => rfl, fun b w' h => (List.cons_ne_nil b w' h.symm).elim⟩
  | @token a α w ha _ _ =>
    have hterm : g.isTerminal a = true := by simpa [isTerminal] using ha
    rw [firstOfSeq_cons, if_pos hterm]
    refine ⟨fun h => (List.cons_ne_nil a w h).elim, fun b w' h => ?_⟩
    obtain ⟨rfl, -⟩ := List.cons.inj h
    exact List.mem_singleton_self _
  | @rule p prod α u v hp hprod _ _ ihu ihv =>
    have hnt : ¬g.isTerminal prod.lhs = true := by
      simpa [isTerminal] using hwf.lhs_ge prod (Array.mem_of_getElem? hprod)
    obtain ⟨hfirst, hnull⟩ := hc p prod hp hprod
    rw [firstOfSeq_cons, if_neg hnt]
    -- an empty body makes the left side nullable
    have hempty : u = [] → (sets.nullable[g.offset prod.lhs]?).getD false = true :=
      fun hu => hnull (ihu.1 hu)
    constructor
    · intro huv
      obtain ⟨rfl, rfl⟩ := List.append_eq_nil_iff.1 huv
      rw [if_pos (hempty rfl)]
      exact ihv.1 rfl
    · intro b w' huv
      cases u with
      | nil =>
        rw [if_pos (hempty rfl)]
        exact List.mem_append_right _ (ihv.2 b w' huv)
      | cons c u' =>
        obtain ⟨rfl, -⟩ := List.cons.inj huv
        have hb := hfirst c (ihu.2 c u' rfl)
        split
        · exact List.mem_append_left _ hb
        · exact hb

/-! ### Follow sets -/

/-- The equation of one entry of a follow pass: a nonterminal `X` of a right side with
    `after` behind it gets what `after` can begin with and, when `after` can be empty,
    the follow set of the left side, at offset `lhs`. -/
def FollowSatisfies (g : Grammar) (sets : FirstSets) (follow : Array (List Nat)) (lhs : Nat)
    (entry : Nat × List Nat) : Prop :=
  g.isTerminal entry.1 = false →
    (∀ b ∈ (g.firstOfSeq sets entry.2).1, b ∈ (follow[g.offset entry.1]?).getD []) ∧
    ((g.firstOfSeq sets entry.2).2 = true →
      ∀ b ∈ (follow[lhs]?).getD [], b ∈ (follow[g.offset entry.1]?).getD [])

/-- Follow sets that satisfy the equation of every symbol of every right side but the
    augmented start's. -/
def FollowClosed (g : Grammar) (sets : FirstSets) (follow : Array (List Nat)) : Prop :=
  ∀ p prod, 1 ≤ p → g.productions[p]? = some prod → ∀ i X, prod.rhs[i]? = some X →
    g.FollowSatisfies sets follow (g.offset prod.lhs) (X, prod.rhs.drop (i + 1))

/-- What a nonterminal with `after` behind it gets in a follow pass. -/
def followAdditions (g : Grammar) (sets : FirstSets) (follow : Array (List Nat)) (lhs : Nat)
    (after : List Nat) : List Nat :=
  if (g.firstOfSeq sets after).2 then (g.firstOfSeq sets after).1 ++ ((follow[lhs]?).getD [])
  else (g.firstOfSeq sets after).1

/-- The step of `followPass` for one symbol of a right side. -/
def followVisit (g : Grammar) (sets : FirstSets) (lhs : Nat) (acc : Bool × Array (List Nat))
    (entry : Nat × List Nat) : Bool × Array (List Nat) :=
  let (changed, follow) := acc
  let (symbol, after) := entry
  if g.isTerminal symbol then acc
  else
    let (additions, restNullable) := g.firstOfSeq sets after
    let additions :=
      if restNullable then additions ++ ((follow[lhs]?).getD []) else additions
    let target := g.offset symbol
    let (grew, set) := insertAll additions ((follow[target]?).getD [])
    (changed || grew, follow.setIfInBounds target set)

/-- The step of `followPass` for one production. -/
def followStep (g : Grammar) (sets : FirstSets) (acc : Bool × Array (List Nat))
    (p : Production) : Bool × Array (List Nat) :=
  p.tails.foldl (g.followVisit sets (g.offset p.lhs)) acc

theorem followPass_eq (sets : FirstSets) (follow : Array (List Nat)) :
    g.followPass sets follow = (g.productions.toList.drop 1).foldl (g.followStep sets) (false, follow) :=
  rfl

theorem followVisit_eq (sets : FirstSets) (lhs : Nat) (c : Bool) (f : Array (List Nat)) (X : Nat)
    (after : List Nat) :
    g.followVisit sets lhs (c, f) (X, after) =
      if g.isTerminal X then (c, f)
      else (c || (insertAll (g.followAdditions sets f lhs after) ((f[g.offset X]?).getD [])).1,
        f.setIfInBounds (g.offset X)
          (insertAll (g.followAdditions sets f lhs after) ((f[g.offset X]?).getD [])).2) := rfl

theorem mem_tails {p : Production} {i X : Nat} (h : p.rhs[i]? = some X) :
    (X, p.rhs.drop (i + 1)) ∈ p.tails := by
  refine List.mem_filterMap.2 ⟨i, List.mem_range.2 (List.getElem?_eq_some_iff.1 h).1, ?_⟩
  rw [h, Option.map_some]

theorem fst_lt_of_mem_tails (hwf : g.WellFormed) {p : Production} (hp : p ∈ g.productions)
    {e : Nat × List Nat} (he : e ∈ p.tails) : e.1 < g.symbolNames.size := by
  obtain ⟨i, -, hi⟩ := List.mem_filterMap.1 he
  obtain ⟨X, hX, rfl⟩ := Option.map_eq_some_iff.1 hi
  exact hwf.rhs_lt p hp X (List.mem_of_getElem? hX)

section FollowPass

variable {sets : FirstSets} {m : Nat} (hm : g.tokenCount ≤ m)
  (hfirst : ∀ i : Nat, ∀ z ∈ (sets.first[i]?).getD [], z < m)
include hm hfirst

/-- One entry's step of a follow pass inserts the entry's additions into the follow set
    of its nonterminal. -/
theorem followVisit_grows (lhs : Nat) {e : Nat × List Nat}
    (he : e.1 < g.symbolNames.size) :
    StepGrows (SetsBelow g.nonterminalCount m) SetsGrow (setsWeight g.nonterminalCount)
      (fun f e => g.FollowSatisfies sets f lhs e) (g.followVisit sets lhs) e := by
  obtain ⟨X, after⟩ := e
  intro c f hf
  rw [followVisit_eq]
  split
  · rename_i hterm
    exact ⟨hf, SetsGrow.refl f, fun h => .inl h,
      fun h => ⟨h, rfl, fun hnt => absurd hterm (by simp [hnt])⟩⟩
  · rename_i hnt
    have hk : g.offset X < g.nonterminalCount := by
      simp only [isTerminal, decide_eq_true_eq, Nat.not_lt] at hnt
      unfold offset nonterminalCount
      simp only at he
      omega
    have hadd : ∀ z ∈ g.followAdditions sets f lhs after, z < m := by
      intro z hz
      unfold followAdditions at hz
      split at hz
      · rcases List.mem_append.1 hz with hz | hz
        · exact firstOfSeq_lt hm hfirst after z hz
        · exact hf.lt lhs z hz
      · exact firstOfSeq_lt hm hfirst after z hz
    obtain ⟨hB, hG, hmem, hup, hsame⟩ := hf.insertAt hk hadd
    refine ⟨hB, hG, fun h => ?_, fun h => ?_⟩
    · rcases Bool.or_eq_true_iff.1 h with hc | hgrew
      · exact .inl hc
      · exact .inr (hup hgrew)
    -- nothing grew: the additions were in the set already
    · simp only [Bool.or_eq_false_iff] at h
      have heq := hsame h.2
      refine ⟨h.1, heq, fun _ => ⟨fun b hb => ?_, fun hnull b hb => ?_⟩⟩
      · refine heq ▸ hmem b ?_
        unfold followAdditions
        split
        · exact List.mem_append_left _ hb
        · exact hb
      · refine heq ▸ hmem b ?_
        unfold followAdditions
        rw [if_pos hnull]
        exact List.mem_append_right _ hb

theorem followStep_grows (hwf : g.WellFormed) {p : Production} (hp : p ∈ g.productions) :
    StepGrows (SetsBelow g.nonterminalCount m) SetsGrow (setsWeight g.nonterminalCount)
      (fun f p => ∀ e ∈ p.tails, g.FollowSatisfies sets f (g.offset p.lhs) e)
      (g.followStep sets) p :=
  stepGrows_foldl SetsGrow.refl (fun _ _ _ => SetsGrow.trans) (fun _ _ h => h.weight_le _) p.tails
    fun _ he => followVisit_grows hm hfirst _ (fst_lt_of_mem_tails hwf hp he)

end FollowPass

/-- The follow sets of a well-formed grammar satisfy every equation and keep the end of
    the input after the start symbol. -/
theorem followSets_closed (hwf : g.WellFormed) :
    g.FollowClosed g.firstSets g.followSets ∧
      SetsGrow ((Array.replicate g.nonterminalCount []).setIfInBounds (g.offset g.startSymbol)
        [endSymbol]) g.followSets := by
  have hfirst : ∀ i : Nat, ∀ z ∈ (g.firstSets.first[i]?).getD [], z < g.tokenCount + 1 :=
    fun i z hz => Nat.lt_succ_of_lt ((firstSets_closed hwf).2.first.lt i z hz)
  have hm : g.tokenCount ≤ g.tokenCount + 1 := Nat.le_succ _
  have hpass := stepGrows_foldl SetsGrow.refl (fun _ _ _ => SetsGrow.trans)
    (fun _ _ h => h.weight_le _) (g.productions.toList.drop 1)
    fun p hp => followStep_grows hm hfirst hwf (Array.mem_toList_iff.1 (List.mem_of_mem_drop hp))
  have hinit : SetsBelow g.nonterminalCount (g.tokenCount + 1)
      ((Array.replicate g.nonterminalCount []).setIfInBounds (g.offset g.startSymbol) [endSymbol]) := by
    refine ⟨by simp, fun i => ?_, fun i z hz => ?_⟩
    · simp only [Array.getElem?_setIfInBounds, Array.getElem?_replicate]
      split_ifs <;> simp
    · simp only [Array.getElem?_setIfInBounds, Array.getElem?_replicate] at hz
      split_ifs at hz <;> simp_all [endSymbol]
  obtain ⟨hclosed, -, hgrow⟩ := loop_solves SetsGrow.refl (fun _ _ _ => SetsGrow.trans)
    (g.followPass g.firstSets) (g.followLoop g.firstSets)
    (fun f => ∀ p ∈ g.productions.toList.drop 1, ∀ e ∈ p.tails,
      g.FollowSatisfies g.firstSets f (g.offset p.lhs) e) (fun _ => rfl) (fun _ _ => rfl)
    (fun f hf => by
      obtain ⟨hinv, hle, hup, hsame⟩ := hpass false f hf
      refine ⟨hinv, hle, fun h => ?_, fun h => ⟨(hsame h).2.1, (hsame h).2.2⟩⟩
      rcases hup h with h | h
      · cases h
      · exact h)
    _ (fun f hf => hf.weight_le) (g.nonterminalCount * (g.tokenCount + 1) + 2) _ hinit (by omega)
  exact ⟨fun p prod hp hprod i X hX => hclosed prod (mem_drop_one hp hprod) _ (mem_tails hX), hgrow⟩

/-- The follow set the table builder uses for nonterminal `X`. -/
def followOf (g : Grammar) (X : Nat) : List Nat := (g.followSets[g.offset X]?).getD []

/-- The end of the input follows the start symbol. -/
theorem end_mem_followOf_start (hwf : g.WellFormed) : endSymbol ∈ g.followOf g.startSymbol := by
  have hlt : g.offset g.startSymbol < g.nonterminalCount := by
    have := hwf.tokenCount_lt
    unfold offset nonterminalCount
    rw [hwf.start]
    omega
  refine ((followSets_closed hwf).2 (g.offset g.startSymbol)).1 endSymbol ?_
  simp [hlt]

/-- What comes after nonterminal `X` at position `i` of a production is in its follow
    set: the first terminal that the rest of the right side derives, or, when the rest
    derives nothing, a terminal that follows the production's left side. -/
theorem headD_mem_followOf (hwf : g.WellFormed) {p i X a : Nat} {prod : Production}
    {v : List Nat} (hprod : g.productions[p]? = some prod) (hX : prod.rhs[i]? = some X)
    (hnt : g.tokenCount ≤ X) (hv : g.Derives (prod.rhs.drop (i + 1)) v)
    (ha : a ∈ g.followOf prod.lhs) : v.headD a ∈ g.followOf X := by
  rcases Nat.eq_zero_or_pos p with rfl | hp
  -- the augmented start `S → S` has nothing after its symbol
  · rw [hwf.augmented] at hprod
    cases hprod
    obtain ⟨rfl, rfl⟩ : i = 0 ∧ X = g.tokenCount := by
      rcases i with _ | i <;> simp_all
    simp only [List.drop_succ_cons, List.drop_zero, Derives.nil_iff] at hv
    subst hv
    exact ha
  · have hsat := (followSets_closed hwf).1 p prod hp hprod i X hX
      (by simpa [isTerminal] using hnt)
    have hfirst := mem_firstOfSeq_of_derives hwf (firstSets_closed hwf).1 hv
    cases v with
    | nil => exact hsat.2 (hfirst.1 rfl) a ha
    | cons b v' => exact hsat.1 b (hfirst.2 b v' rfl)

end Grammar

end IncrementalLR
