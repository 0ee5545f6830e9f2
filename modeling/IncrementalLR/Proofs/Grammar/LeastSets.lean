import IncrementalLR.Proofs.Grammar.SlrReference
import IncrementalLR.Proofs.Grammar.FirstFollow

/-!
# The builder's first and follow sets are the least solutions

`Grammar.firstSets_closed` and `Grammar.followSets_closed` show that the passes end on a
solution of the equations, so the sets hold at least the least solution.
-/

namespace IncrementalLR.Grammar

variable {g : Grammar}

/-! ### Reading and writing the arrays of sets -/

/-- A read after writing `a` at `k` sees `a` at `k`, and elsewhere what was there. -/
theorem getD_setIfInBounds_cases {α : Type} (xs : Array α) (k i : Nat) (a d : α) :
    (k = i ∧ ((xs.setIfInBounds k a)[i]?).getD d = a) ∨
      ((xs.setIfInBounds k a)[i]?).getD d = (xs[i]?).getD d := by
  rw [Array.getElem?_setIfInBounds]
  split
  · rename_i hki
    split
    · exact .inl ⟨hki, rfl⟩
    · rename_i hlt
      subst hki
      rw [Array.getElem?_eq_none (Nat.le_of_not_lt hlt)]
      exact .inr rfl
  · exact .inr rfl

/-- A loop of passes keeps what every pass keeps. -/
theorem loop_keeps {σ : Type} (Inv : σ → Prop) (pass : σ → Bool × σ) (loop : Nat → σ → σ)
    (hzero : ∀ s, loop 0 s = s)
    (hsucc : ∀ fuel s, loop (fuel + 1) s = if (pass s).1 then loop fuel (pass s).2 else (pass s).2)
    (hpass : ∀ s, Inv s → Inv (pass s).2) : ∀ fuel s, Inv s → Inv (loop fuel s)
  | 0, s, hs => (hzero s).symm ▸ hs
  | fuel + 1, s, hs => by
    rw [hsucc]
    split
    · exact loop_keeps Inv pass loop hzero hsucc hpass fuel _ (hpass s hs)
    · exact hpass s hs

/-- The passes run over the productions after the augmented start. -/
theorem exists_index_of_mem_drop_one {prod : Production}
    (h : prod ∈ g.productions.toList.drop 1) : ∃ p, 1 ≤ p ∧ g.productions[p]? = some prod := by
  obtain ⟨i, hi⟩ := List.mem_iff_getElem?.1 h
  rw [List.getElem?_drop, Array.getElem?_toList] at hi
  exact ⟨1 + i, Nat.le_add_right 1 i, hi⟩

theorem offset_add {X : Nat} (hX : g.tokenCount ≤ X) : g.offset X + g.tokenCount = X := by
  unfold offset
  omega

/-! ### What the builder knows of one symbol -/

section Symbols

variable {sets : FirstSets}

theorem firstOfSeq_terminal {X : Nat} (hX : X < g.tokenCount) : g.firstOfSeq sets [X] = ([X], false) := by
  rw [firstOfSeq_cons, if_pos (by simpa [isTerminal] using hX)]

theorem firstOfSeq_nonterminal {X : Nat} (hX : g.tokenCount ≤ X) :
    g.firstOfSeq sets [X] =
      ((sets.first[g.offset X]?).getD [], (sets.nullable[g.offset X]?).getD false) := by
  rw [firstOfSeq_cons, if_neg (by simpa [isTerminal] using hX)]
  split
  · rename_i hnull
    simp [firstOfSeq, hnull]
  · rename_i hnull
    simp [hnull]

/-- A string is read symbol by symbol: what its first symbol begins with, then, if that
    symbol is nullable, what the rest begins with. -/
theorem firstOfSeq_cons_split (X : Nat) (β : List Nat) :
    g.firstOfSeq sets (X :: β) =
      ((g.firstOfSeq sets [X]).1 ++
          (if (g.firstOfSeq sets [X]).2 then (g.firstOfSeq sets β).1 else []),
        (g.firstOfSeq sets [X]).2 && (g.firstOfSeq sets β).2) := by
  rcases Nat.lt_or_ge X g.tokenCount with hX | hX
  · rw [firstOfSeq_terminal hX, firstOfSeq_cons, if_pos (by simpa [isTerminal] using hX)]
    simp
  · rw [firstOfSeq_nonterminal hX, firstOfSeq_cons, if_neg (by simpa [isTerminal] using hX)]
    split <;> simp_all

theorem firstOfSeq_snd_eq_true {β : List Nat} :
    (g.firstOfSeq sets β).2 = true ↔ ∀ Y ∈ β, (g.firstOfSeq sets [Y]).2 = true := by
  induction β with
  | nil => simp [firstOfSeq]
  | cons X β ih =>
    rw [firstOfSeq_cons_split, Bool.and_eq_true, ih]
    simp

theorem mem_firstOfSeq_fst {β : List Nat} {a : Nat} :
    a ∈ (g.firstOfSeq sets β).1 ↔ ∃ i Y, (∀ Z ∈ β.take i, (g.firstOfSeq sets [Z]).2 = true) ∧
      β[i]? = some Y ∧ a ∈ (g.firstOfSeq sets [Y]).1 := by
  induction β with
  | nil => simp [firstOfSeq]
  | cons X β ih =>
    rw [firstOfSeq_cons_split, List.mem_append]
    constructor
    · rintro (ha | ha)
      · exact ⟨0, X, by simp, rfl, ha⟩
      · split at ha
        · rename_i hnull
          obtain ⟨i, Y, hpre, hY, hmem⟩ := ih.1 ha
          refine ⟨i + 1, Y, ?_, hY, hmem⟩
          simp only [List.take_succ_cons, List.mem_cons, forall_eq_or_imp]
          exact ⟨hnull, hpre⟩
        · simp at ha
    · rintro ⟨i, Y, hpre, hY, hmem⟩
      cases i with
      | zero =>
        cases hY
        exact .inl hmem
      | succ i =>
        simp only [List.take_succ_cons, List.mem_cons, forall_eq_or_imp] at hpre
        right
        rw [if_pos hpre.1]
        exact ih.2 ⟨i, Y, hpre.2, hY, hmem⟩

end Symbols

/-! ### First sets: nothing beyond the least solution -/

/-- First sets inside the least solution: every raised flag and every terminal of the set
    at offset `k` hold of nonterminal `k + tokenCount`. -/
structure FirstSound (g : Grammar) (sets : FirstSets) : Prop where
  nullable : ∀ k, (sets.nullable[k]?).getD false = true → g.Nullable (k + g.tokenCount)
  first : ∀ k a, a ∈ (sets.first[k]?).getD [] → g.First (k + g.tokenCount) a

theorem FirstSound.symbol {sets : FirstSets} (h : FirstSound g sets) (X : Nat) :
    ((g.firstOfSeq sets [X]).2 = true → g.Nullable X) ∧
      ∀ a ∈ (g.firstOfSeq sets [X]).1, g.First X a := by
  rcases Nat.lt_or_ge X g.tokenCount with hX | hX
  · rw [firstOfSeq_terminal hX]
    refine ⟨fun h => absurd h Bool.false_ne_true, fun a ha => ?_⟩
    rw [List.mem_singleton.1 ha]
    exact .terminal hX
  · rw [firstOfSeq_nonterminal hX]
    exact ⟨fun hn => offset_add hX ▸ h.nullable _ hn, fun a ha => offset_add hX ▸ h.first _ a ha⟩

/-- One production's step of a first pass keeps the sets inside the least solution: the
    terminals it inserts begin the right side, and the flag it raises has a right side of
    nullable symbols. -/
theorem FirstSound.firstStep (hwf : g.WellFormed) {sets : FirstSets} (h : FirstSound g sets)
    {p : Nat} {prod : Production} (hp : 1 ≤ p) (hprod : g.productions[p]? = some prod)
    (c : Bool) : FirstSound g (g.firstStep (c, sets) prod).2 := by
  have hoff : g.offset prod.lhs + g.tokenCount = prod.lhs :=
    offset_add (hwf.lhs_ge prod (Array.mem_of_getElem? hprod))
  have hseq : ∀ a ∈ (g.firstOfSeq sets prod.rhs).1, g.FirstSeq prod.rhs a := by
    intro a ha
    obtain ⟨i, Y, hpre, hY, hmem⟩ := mem_firstOfSeq_fst.1 ha
    exact ⟨i, Y, fun Z hZ => (h.symbol Z).1 (hpre Z hZ), hY, (h.symbol Y).2 a hmem⟩
  -- the set of the left side gets the terminals the right side begins with
  have hfirst : ∀ k a, a ∈ ((sets.first.setIfInBounds (g.offset prod.lhs)
      (insertAll (g.firstOfSeq sets prod.rhs).1 ((sets.first[g.offset prod.lhs]?).getD [])).2)[k]?).getD [] →
      g.First (k + g.tokenCount) a := by
    intro k a ha
    rcases getD_setIfInBounds_cases sets.first (g.offset prod.lhs) k _ [] with ⟨rfl, hset⟩ | hset <;>
      rw [hset] at ha
    · rw [hoff]
      rcases mem_insertAll.1 ha with ha | ha
      · exact First.of_firstSeq hp hprod (hseq a ha)
      · exact hoff ▸ h.first _ a ha
    · exact h.first k a ha
  rw [firstStep_eq]
  split
  · rename_i hcond
    simp only [Bool.and_eq_true, Bool.not_eq_eq_eq_not, Bool.not_true] at hcond
    refine ⟨fun k hk => ?_, hfirst⟩
    rcases getD_setIfInBounds_cases sets.nullable (g.offset prod.lhs) k true false with
      ⟨rfl, -⟩ | hset
    · rw [hoff]
      exact .rule hp hprod fun Y hY => (h.symbol Y).1 (firstOfSeq_snd_eq_true.1 hcond.1 Y hY)
    · rw [hset] at hk
      exact h.nullable k hk
  · exact ⟨h.nullable, hfirst⟩

theorem firstSets_sound (hwf : g.WellFormed) : FirstSound g g.firstSets := by
  refine loop_keeps (FirstSound g) g.firstPass g.firstLoop (fun _ => rfl) (fun _ _ => rfl)
    (fun s hs => ?_) _ _ ⟨fun k hk => ?_, fun k a ha => ?_⟩
  · rw [firstPass_eq]
    refine List.foldlRecOn (motive := fun acc : Bool × FirstSets => FirstSound g acc.2) _ _ hs ?_
    rintro ⟨c, acc⟩ hacc prod hprod
    obtain ⟨p, hp, hp'⟩ := exists_index_of_mem_drop_one hprod
    exact hacc.firstStep hwf hp hp' c
  · simp only [Array.getElem?_replicate] at hk
    split at hk <;> simp at hk
  · simp only [Array.getElem?_replicate] at ha
    split at ha <;> simp at ha

/-! ### First sets: the least solution is in them -/

section Closed

variable {sets : FirstSets} (hwf : g.WellFormed) (hc : g.FirstClosed sets)
include hwf hc

/-- A closed flag array holds every nullable symbol. The induction is on the least
    solution; a production's equation carries the flags of its right side to its left. -/
theorem FirstClosed.nullable {X : Nat} (h : g.Nullable X) : (g.firstOfSeq sets [X]).2 = true := by
  induction h with
  | @rule p prod hp hprod _ ih =>
    have hlhs : g.tokenCount ≤ prod.lhs := hwf.lhs_ge prod (Array.mem_of_getElem? hprod)
    rw [firstOfSeq_nonterminal hlhs]
    exact (hc p prod hp hprod).2 (firstOfSeq_snd_eq_true.2 ih)

theorem FirstClosed.first {X a : Nat} (h : g.First X a) : a ∈ (g.firstOfSeq sets [X]).1 := by
  induction h with
  | terminal ha =>
    rw [firstOfSeq_terminal ha]
    exact List.mem_singleton_self _
  | @rule p i X a prod hp hprod hpre hX _ ih =>
    have hlhs : g.tokenCount ≤ prod.lhs := hwf.lhs_ge prod (Array.mem_of_getElem? hprod)
    rw [firstOfSeq_nonterminal hlhs]
    refine (hc p prod hp hprod).1 a (mem_firstOfSeq_fst.2 ⟨i, X, fun Y hY => ?_, hX, ih⟩)
    exact hc.nullable hwf (hpre Y hY)

end Closed

/-! ### First sets: the builder's are exactly the least solution -/

theorem nullable_iff (hwf : g.WellFormed) {X : Nat} :
    (g.firstOfSeq g.firstSets [X]).2 = true ↔ g.Nullable X :=
  ⟨((firstSets_sound hwf).symbol X).1, FirstClosed.nullable hwf (firstSets_closed hwf).1⟩

theorem first_iff (hwf : g.WellFormed) {X a : Nat} :
    a ∈ (g.firstOfSeq g.firstSets [X]).1 ↔ g.First X a :=
  ⟨((firstSets_sound hwf).symbol X).2 a, FirstClosed.first hwf (firstSets_closed hwf).1⟩

/-- The builder finds a string nullable exactly when all its symbols are nullable. -/
theorem firstOfSeq_snd_iff (hwf : g.WellFormed) {β : List Nat} :
    (g.firstOfSeq g.firstSets β).2 = true ↔ ∀ Y ∈ β, g.Nullable Y := by
  rw [firstOfSeq_snd_eq_true]
  exact forall₂_congr fun Y _ => nullable_iff hwf

/-- The builder finds that a string begins with `a` exactly when it does. -/
theorem mem_firstOfSeq_iff (hwf : g.WellFormed) {β : List Nat} {a : Nat} :
    a ∈ (g.firstOfSeq g.firstSets β).1 ↔ g.FirstSeq β a := by
  rw [mem_firstOfSeq_fst]
  refine exists_congr fun i => exists_congr fun Y => ?_
  rw [first_iff hwf]
  exact and_congr_left fun _ => forall₂_congr fun Z _ => nullable_iff hwf

/-! ### Follow sets -/

theorem exists_of_mem_tails {p : Production} {X : Nat} {after : List Nat}
    (h : (X, after) ∈ p.tails) : ∃ i, p.rhs[i]? = some X ∧ after = p.rhs.drop (i + 1) := by
  obtain ⟨i, -, hi⟩ := List.mem_filterMap.1 h
  obtain ⟨Y, hY, heq⟩ := Option.map_eq_some_iff.1 hi
  obtain ⟨rfl, rfl⟩ := Prod.mk.inj heq
  exact ⟨i, hY, rfl⟩

/-- Follow sets inside the least solution: every terminal of the set at offset `k`
    follows nonterminal `k + tokenCount`. -/
def FollowSound (g : Grammar) (follow : Array (List Nat)) : Prop :=
  ∀ k a, a ∈ (follow[k]?).getD [] → g.Follow (k + g.tokenCount) a

/-- One symbol's step of a follow pass keeps the sets inside the least solution: what it
    inserts begins the rest of the right side, or follows the left side behind a
    nullable rest. -/
theorem FollowSound.followVisit (hwf : g.WellFormed) {f : Array (List Nat)}
    (h : FollowSound g f) {p : Nat} {prod : Production} (hp : 1 ≤ p)
    (hprod : g.productions[p]? = some prod) {e : Nat × List Nat} (he : e ∈ prod.tails)
    (c : Bool) : FollowSound g (g.followVisit g.firstSets (g.offset prod.lhs) (c, f) e).2 := by
  obtain ⟨X, after⟩ := e
  obtain ⟨i, hX, rfl⟩ := exists_of_mem_tails he
  have hlhs : g.offset prod.lhs + g.tokenCount = prod.lhs :=
    offset_add (hwf.lhs_ge prod (Array.mem_of_getElem? hprod))
  rw [followVisit_eq]
  split
  · exact h
  · rename_i hnt
    have hXnt : g.tokenCount ≤ X := by simpa [isTerminal] using hnt
    intro k a ha
    rcases getD_setIfInBounds_cases f (g.offset X) k _ [] with ⟨rfl, hset⟩ | hset <;>
      rw [hset] at ha
    · rw [offset_add hXnt]
      rcases mem_insertAll.1 ha with ha | ha
      · unfold followAdditions at ha
        -- what the rest begins with, or, behind a nullable rest, what follows the left side
        split at ha
        · rename_i hnull
          rcases List.mem_append.1 ha with ha | ha
          · exact .first hp hprod hX hXnt ((mem_firstOfSeq_iff hwf).1 ha)
          · exact .inherit hp hprod hX hXnt ((firstOfSeq_snd_iff hwf).1 hnull)
              (hlhs ▸ h _ a ha)
        · exact .first hp hprod hX hXnt ((mem_firstOfSeq_iff hwf).1 ha)
      · exact offset_add hXnt ▸ h _ a ha
    · exact h k a ha

theorem followSets_sound (hwf : g.WellFormed) : FollowSound g g.followSets := by
  refine loop_keeps (FollowSound g) (g.followPass g.firstSets) (g.followLoop g.firstSets)
    (fun _ => rfl) (fun _ _ => rfl) (fun f hf => ?_) _ _ ?_
  · rw [followPass_eq]
    refine List.foldlRecOn (motive := fun acc : Bool × Array (List Nat) => FollowSound g acc.2) _ _ hf ?_
    rintro ⟨c, acc⟩ hacc prod hprod
    obtain ⟨p, hp, hp'⟩ := exists_index_of_mem_drop_one hprod
    refine List.foldlRecOn (motive := fun acc : Bool × Array (List Nat) => FollowSound g acc.2) _ _ hacc ?_
    rintro ⟨c', acc'⟩ hacc' e he
    exact hacc'.followVisit hwf hp hp' he c'
  -- at the start only the end of the input follows, and it follows the start symbol
  · intro k a ha
    rcases getD_setIfInBounds_cases _ (g.offset g.startSymbol) k [endSymbol] [] with
      ⟨rfl, hset⟩ | hset <;> rw [hset] at ha
    · rw [List.mem_singleton.1 ha, offset_add (hwf.start ▸ Nat.le_refl _)]
      exact .start
    · simp only [Array.getElem?_replicate] at ha
      split at ha <;> simp at ha

/-- A follow set of the builder holds everything that follows its nonterminal. The
    induction is on the least solution; each case is the equation the passes satisfy. -/
theorem mem_followOf_of_follow (hwf : g.WellFormed) {X a : Nat} (h : g.Follow X a) :
    a ∈ g.followOf X := by
  induction h with
  | start => exact end_mem_followOf_start hwf
  | first hp hprod hX hXnt hfirst =>
    have hsat := (followSets_closed hwf).1 _ _ hp hprod _ _ hX (by simpa [isTerminal] using hXnt)
    exact hsat.1 _ ((mem_firstOfSeq_iff hwf).2 hfirst)
  | inherit hp hprod hX hXnt hnull _ ih =>
    have hsat := (followSets_closed hwf).1 _ _ hp hprod _ _ hX (by simpa [isTerminal] using hXnt)
    exact hsat.2 ((firstOfSeq_snd_iff hwf).2 hnull) _ ih

/-- The builder's follow set of a nonterminal is exactly what follows it. -/
theorem mem_followOf_iff (hwf : g.WellFormed) {X a : Nat} (hX : g.tokenCount ≤ X) :
    a ∈ g.followOf X ↔ g.Follow X a :=
  ⟨fun h => offset_add hX ▸ followSets_sound hwf _ a h, mem_followOf_of_follow hwf⟩

end IncrementalLR.Grammar
