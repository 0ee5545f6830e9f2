import IncrementalLR.Proofs.Parse.Repairs

/-!
# The searches of recovery at the end of the input

At the end of the input recovery looks for tokens to assume.
-/

namespace IncrementalLR

/-! ### The first answer of a search in ascending order -/

section Search

variable {β : Type} {f : Nat → Option β}

/-- `firstM` finds its answer at a member that answers, and every member before it gives
    none. -/
theorem firstM_eq_some_first :
    ∀ {l : List Nat} {b : β}, l.firstM f = some b →
      ∃ (i : Nat) (a : Nat), l[i]? = some a ∧ f a = some b ∧
        ∀ (j : Nat) (a' : Nat), j < i → l[j]? = some a' → f a' = none
  | [], b, h => by simp [List.firstM, failure] at h
  | x :: l, b, h => by
    simp only [List.firstM, HOrElse.hOrElse, OrElse.orElse] at h
    cases hx : f x with
    | some b' =>
      rw [hx] at h
      exact ⟨0, x, rfl, hx.trans h, fun j _ hj => absurd hj (Nat.not_lt_zero j)⟩
    | none =>
      rw [hx] at h
      obtain ⟨i, a, hi, ha, hbefore⟩ := firstM_eq_some_first h
      refine ⟨i + 1, a, by simpa using hi, ha, fun j a' hj hj' => ?_⟩
      cases j with
      | zero =>
        simp only [List.getElem?_cons_zero, Option.some.injEq] at hj'
        exact hj' ▸ hx
      | succ j => exact hbefore j a' (by omega) (by simpa using hj')

/-- `firstM` gives none only when every member does. -/
theorem firstM_eq_none : ∀ {l : List Nat}, l.firstM f = none → ∀ a ∈ l, f a = none
  | [], _ => fun _ ha => absurd ha List.not_mem_nil
  | x :: l, h => by
    simp only [List.firstM, HOrElse.hOrElse, OrElse.orElse] at h
    cases hx : f x with
    | some b => rw [hx] at h; cases h
    | none =>
      rw [hx] at h
      intro a ha
      rcases List.mem_cons.1 ha with rfl | ha
      · exact hx
      · exact firstM_eq_none h a ha

/-- Over a list in ascending order, `firstM` answers at the least member that answers. -/
theorem firstM_eq_some_of_sorted {l : List Nat} (hl : l.Pairwise (· < ·)) {b : β}
    (h : l.firstM f = some b) : ∃ a ∈ l, f a = some b ∧ ∀ a' ∈ l, a' < a → f a' = none := by
  obtain ⟨i, a, hi, ha, hbefore⟩ := firstM_eq_some_first h
  refine ⟨a, List.mem_of_getElem? hi, ha, fun a' ha' hlt => ?_⟩
  obtain ⟨j, hj, hj'⟩ := List.getElem_of_mem ha'
  have hij : j < i := by
    obtain ⟨hi', rfl⟩ := List.getElem?_eq_some_iff.1 hi
    by_contra hle
    rcases Nat.lt_or_eq_of_le (Nat.le_of_not_lt hle) with hlt' | rfl
    · exact absurd (List.pairwise_iff_getElem.1 hl i j hi' hj hlt') (by omega)
    · omega
  exact hbefore j a' hij (List.getElem?_eq_some_iff.2 ⟨hj, hj'⟩)

end Search

/-! ### Simulating the end of the input -/

/-- Where no state shifts the end of the input, its simulation never shifts it. -/
theorem simulateToken_end_ne_shifted {t : ParseTable}
    (hend : ∀ T T' e, t.action? T endSymbol ≠ some (.shift T' e)) :
    ∀ (fuel : Nat) (states : List Nat) (extra : Bool) (σ : List Nat),
      simulateToken t endSymbol fuel states ≠ (.shifted extra, σ)
  | 0, _, _, _ => by simp [simulateToken]
  | _ + 1, [], _, _ => by simp [simulateToken]
  | fuel + 1, state :: rest, extra, σ => by
    simp only [simulateToken]
    split
    · next hact => exact absurd hact (hend _ _ _)
    · split
      · simp
      · split
        · simp
        · exact simulateToken_end_ne_shifted hend fuel _ extra σ
    · simp
    · simp

/-- A simulation accepts in a state that accepts the symbol, on top of the states it
    ends with. -/
theorem simulateToken_accepted {t : ParseTable} {symbol : Nat} :
    ∀ {fuel : Nat} {states σ : List Nat}, simulateToken t symbol fuel states = (.accepted, σ) →
      ∃ q rest, σ = q :: rest ∧ t.action? q symbol = some .accept
  | 0, _, _, h => by simp [simulateToken] at h
  | _ + 1, [], _, h => by simp [simulateToken] at h
  | fuel + 1, state :: rest, σ, h => by
    simp only [simulateToken] at h
    split at h
    · simp at h
    · split at h
      · simp at h
      · split at h
        · simp at h
        · exact simulateToken_accepted h
    · next hact =>
      simp only [Prod.mk.injEq, true_and] at h
      exact ⟨state, rest, h.symm, hact⟩
    · simp at h

/-! ### Completions at the end of the input -/

namespace ParseContext

variable {ctx : ParseContext}

/-- A run of assumed tokens that completes the parse from the kept states `states`: each
    token is a candidate of the state it is tried in and the simulation shifts it, not as
    an extra; after the last one the simulation accepts the end of the input. -/
inductive Completes (ctx : ParseContext) : List Nat → List Nat → Prop
  | accept {states σ : List Nat} : ctx.feed states endSymbol = (.accepted, σ) →
      Completes ctx states []
  | insert {state symbol : Nat} {rest next path : List Nat} : symbol ∈ ctx.candidates state →
      ctx.feed (state :: rest) symbol = (.shifted false, next) → Completes ctx next path →
      Completes ctx (state :: rest) (symbol :: path)

/-- Runs of one length in lexicographic order, smaller or equal. -/
def LexLe (u v : List Nat) : Prop := u = v ∨ List.Lex (· < ·) u v

theorem LexLe.cons_cons {a b : Nat} {u v : List Nat} (h : a < b ∨ a = b ∧ LexLe u v) :
    LexLe (a :: u) (b :: v) := by
  rcases h with hlt | ⟨rfl, rfl | hlex⟩
  · exact .inr (.rel hlt)
  · exact .inl rfl
  · exact .inr (.cons hlex)

/-- The search of completions of exactly `depth` tokens finds none only when there is
    none. -/
theorem completion_eq_none : ∀ {depth : Nat} {states : List Nat},
    ctx.completion depth states = none → ∀ v, ctx.Completes states v → v.length ≠ depth
  | 0, states, h, v, hv, hlen => by
    cases hv with
    | accept hacc =>
      simp only [completion, hacc] at h
      cases h
    | insert => simp at hlen
  | depth + 1, states, h, v, hv, hlen => by
    cases hv with
    | accept => simp at hlen
    | @insert state symbol rest next path hmem hfeed hpath =>
      simp only [completion] at h
      have hsym := firstM_eq_none h symbol hmem
      simp only [hfeed, Option.map_eq_none_iff] at hsym
      exact completion_eq_none hsym path hpath (by simpa using hlen)

/-- The search of completions of exactly `depth` tokens finds the least one in
    lexicographic order. The search tries the candidates of the top state in ascending
    order, so the first that leads to a completion is the least first token of one. -/
theorem completion_eq_some : ∀ {depth : Nat} {states u : List Nat},
    ctx.completion depth states = some u →
      ctx.Completes states u ∧ u.length = depth ∧
        ∀ v, ctx.Completes states v → v.length = depth → LexLe u v
  | 0, states, u, h => by
    simp only [completion] at h
    split at h
    · rename_i σ hacc
      cases h
      refine ⟨.accept hacc, rfl, fun v _ hv => ?_⟩
      rw [List.length_eq_zero_iff.1 hv]
      exact .inl rfl
    · cases h
  | depth + 1, states, u, h => by
    simp only [completion] at h
    split at h
    · cases h
    · rename_i state rest
      have hsorted : (ctx.candidates state).Pairwise (· < ·) :=
        List.Pairwise.filter _ List.pairwise_lt_range'
      obtain ⟨symbol, hmem, hsym, hbefore⟩ := firstM_eq_some_of_sorted hsorted h
      split at hsym
      · rename_i next hfeed
        obtain ⟨path, hpath, rfl⟩ := Option.map_eq_some_iff.1 hsym
        obtain ⟨hcompl, hlen, hleast⟩ := completion_eq_some hpath
        refine ⟨.insert hmem hfeed hcompl, by simp [hlen], fun v hv hvlen => ?_⟩
        -- another completion starts with a later candidate, or with this one and then
        -- a completion from the same states
        cases hv with
        | accept => simp at hvlen
        | @insert _ symbol' _ next' path' hmem' hfeed' hpath' =>
          simp only [List.length_cons, Nat.add_right_cancel_iff] at hvlen
          rcases Nat.lt_trichotomy symbol' symbol with hlt | rfl | hgt
          · have hnone := hbefore symbol' hmem' hlt
            simp only [hfeed', Option.map_eq_none_iff] at hnone
            exact absurd hvlen (completion_eq_none hnone path' hpath')
          · rw [hfeed] at hfeed'
            cases hfeed'
            exact LexLe.cons_cons (.inr ⟨rfl, hleast path' hpath' hvlen⟩)
          · exact LexLe.cons_cons (.inl hgt)
      · cases hsym
/-- The completion recovery looks for within `window` tokens: one of at least one token
    and at most `window`, shorter than every other, and among those of its length the
    least in lexicographic order. -/
structure FirstCompletion (ctx : ParseContext) (states : List Nat) (window : Nat)
    (u : List Nat) : Prop where
  completes : ctx.Completes states u
  pos : 1 ≤ u.length
  le : u.length ≤ window
  first : ∀ v, ctx.Completes states v → 1 ≤ v.length → v.length ≤ window →
    u.length < v.length ∨ (u.length = v.length ∧ LexLe u v)

/-- Iterative deepening over the lengths from 1 to the window finds the first
    completion. -/
theorem shortestCompletion_eq_some {states u : List Nat} {window : Nat}
    (h : ctx.shortestCompletion states window = some u) : ctx.FirstCompletion states window u := by
  obtain ⟨depth, hmem, hdepth, hbefore⟩ :=
    firstM_eq_some_of_sorted List.pairwise_lt_range' h
  obtain ⟨hd1, hdw⟩ := List.mem_range'_1.1 hmem
  obtain ⟨hcompl, hlen, hleast⟩ := completion_eq_some hdepth
  refine ⟨hcompl, by omega, by omega, fun v hv hv1 hvw => ?_⟩
  -- a shorter completion would have been found at its own length first
  rcases Nat.lt_trichotomy v.length depth with hlt | heq | hgt
  · exact absurd rfl (completion_eq_none (hbefore v.length (List.mem_range'_1.2 ⟨hv1, by omega⟩)
      hlt) v hv)
  · exact .inr ⟨by omega, hleast v hv heq⟩
  · exact .inl (by omega)

/-- Iterative deepening finds nothing only when no completion fits the window. -/
theorem shortestCompletion_eq_none {states : List Nat} {window : Nat}
    (h : ctx.shortestCompletion states window = none) :
    ∀ v, ctx.Completes states v → 1 ≤ v.length → v.length ≤ window → False :=
  fun v hv hv1 hvw => completion_eq_none
    (firstM_eq_none h v.length (List.mem_range'_1.2 ⟨hv1, by omega⟩)) v hv rfl

theorem LexLe.antisymm {u v : List Nat} (h₁ : LexLe u v) (h₂ : LexLe v u) : u = v := by
  rcases h₁ with h₁ | h₁
  · exact h₁
  rcases h₂ with h₂ | h₂
  · exact h₂.symm
  · exact absurd h₂ (List.lex_asymm Nat.lt_asymm h₁)

/-- The first completion is the one iterative deepening finds. -/
theorem FirstCompletion.shortestCompletion {states u : List Nat} {window : Nat}
    (h : ctx.FirstCompletion states window u) : ctx.shortestCompletion states window = some u := by
  cases hs : ctx.shortestCompletion states window with
  | none => exact (shortestCompletion_eq_none hs u h.completes h.pos h.le).elim
  | some u' =>
    have h' := shortestCompletion_eq_some hs
    rcases h.first u' h'.completes h'.pos h'.le with hlt | ⟨heq, hle⟩
    · rcases h'.first u h.completes h.pos h.le with hlt' | ⟨heq', -⟩
      · exact (Nat.lt_asymm hlt hlt').elim
      · exact absurd heq' (Nat.ne_of_gt hlt)
    · rcases h'.first u h.completes h.pos h.le with hlt' | ⟨-, hle'⟩
      · exact absurd heq (Nat.ne_of_gt hlt')
      · rw [LexLe.antisymm hle hle']

/-! ### Completing with one token -/

/-- Whether assuming `symbol` alone completes the parse: it is shifted, not as an extra,
    and the end of the input is then accepted. -/
def completesWith (ctx : ParseContext) (states : List Nat) (symbol : Nat) : Bool :=
  match ctx.feed states symbol with
  | (.shifted false, next) =>
    match ctx.feed next endSymbol with
    | (.accepted, _) => true
    | _ => false
  | _ => false

theorem completesWith_iff {state symbol : Nat} {rest : List Nat}
    (hmem : symbol ∈ ctx.candidates state) :
    ctx.completesWith (state :: rest) symbol = true ↔ ctx.Completes (state :: rest) [symbol] := by
  constructor
  · intro h
    simp only [completesWith] at h
    split at h
    · next next hfeed =>
      split at h
      · next σ hacc => exact .insert hmem hfeed (.accept hacc)
      · cases h
    · cases h
  · intro h
    cases h with
    | insert _ hfeed hpath =>
      cases hpath with
      | accept hacc => simp [completesWith, hfeed, hacc]

/-- A trial of assuming one token before the end of the input, where nothing shifts the
    end: it consumes nothing, and is accepted exactly when the token completes the
    parse. -/
theorem simulate_end (hend : ∀ T T' e, ctx.table.action? T endSymbol ≠ some (.shift T' e))
    (scanner : List UInt8) (states : List Nat) (symbol : Nat) (resume : Length) (window : Nat) :
    ctx.simulate scanner states (some symbol) endSymbol resume window =
      some ⟨ctx.completesWith states symbol, 0, 0⟩ := by
  rcases hfeed : ctx.feed states symbol with ⟨(_ | _) | _ | _, next⟩
  · -- the token is shifted; what follows is the end alone
    rcases hfin : ctx.feed next endSymbol with ⟨_ | _ | _, σ⟩
    · exact absurd hfin (simulateToken_end_ne_shifted hend _ _ _ _)
    · simp [simulate, completesWith, hfeed, hfin, Trial.failed]
    · simp [simulate, completesWith, hfeed, hfin, Trial.failed]
  all_goals simp [simulate, completesWith, hfeed, Trial.failed]

/-- The first completion is unique. -/
theorem FirstCompletion.unique {states u v : List Nat} {window : Nat}
    (hu : ctx.FirstCompletion states window u) (hv : ctx.FirstCompletion states window v) :
    u = v :=
  Option.some.inj (hu.shortestCompletion.symm.trans hv.shortestCompletion)

/-- The first candidate that completes the parse alone is the first completion: none is
    shorter, and none of one token is less. The candidates go up, so a lesser one that
    completed alone would have been found first. -/
theorem firstCompletion_of_find {state symbol : Nat} {rest : List Nat} {window : Nat}
    (hwindow : 1 ≤ window)
    (h : (ctx.candidates state).find? (ctx.completesWith (state :: rest)) = some symbol) :
    ctx.FirstCompletion (state :: rest) window [symbol] := by
  obtain ⟨hp, before, after, hsplit, hbefore⟩ := List.find?_eq_some_iff_append.1 h
  have hsorted : (ctx.candidates state).Pairwise (· < ·) :=
    List.Pairwise.filter _ List.pairwise_lt_range'
  have hmem : symbol ∈ ctx.candidates state := by simp [hsplit]
  refine ⟨(completesWith_iff hmem).1 hp, Nat.le_refl _, hwindow, fun v hv hv1 _ => ?_⟩
  rcases Nat.lt_or_ge 1 v.length with hlt | hle
  · exact .inl hlt
  obtain ⟨symbol', rfl⟩ := List.length_eq_one_iff.1 (Nat.le_antisymm hle hv1)
  refine .inr ⟨rfl, ?_⟩
  have hmem' : symbol' ∈ ctx.candidates state := by
    cases hv with
    | insert hmem' _ _ => exact hmem'
  have hp' := (completesWith_iff hmem').2 hv
  rcases Nat.lt_trichotomy symbol' symbol with hlt | rfl | hgt
  · -- a lesser candidate lies before the one found, and did not complete alone
    rw [hsplit] at hsorted hmem'
    rcases List.mem_append.1 hmem' with hin | hin
    · simpa [hp'] using hbefore symbol' hin
    · have hge : symbol ≤ symbol' := by
        rcases List.mem_cons.1 hin with rfl | hin
        · exact Nat.le_refl _
        · exact Nat.le_of_lt ((List.pairwise_cons.1 (List.pairwise_append.1 hsorted).2.1).1 _ hin)
      exact absurd hlt (Nat.not_lt.2 hge)
  · exact .inl rfl
  · exact .inr (.rel hgt)

end ParseContext

/-! ### The ranking of single insertions at the end -/

section Ranking

variable {f : Option (Repair × Trial × Nat) × Nat → Repair × Trial × Nat →
    Option (Repair × Trial × Nat) × Nat}

/-- Once a trial that was accepted at once leads, no later trial of the same cost that
    consumed nothing beats it. -/
theorem foldl_keeps_accepted
    (hf : ∀ acc entry, (f acc entry).1 =
      if entry.2.1.beats entry.2.2 acc.1 then some entry else acc.1)
    (ok : Nat → Bool) (best : Repair) :
    ∀ (l : List Nat) (acc : Option (Repair × Trial × Nat) × Nat),
      acc.1 = some (best, ⟨true, 0, 0⟩, costPerMissing) →
      ((l.map fun symbol => (Repair.insert symbol, (⟨ok symbol, 0, 0⟩ : Trial),
        costPerMissing)).foldl f acc).1 = some (best, ⟨true, 0, 0⟩, costPerMissing)
  | [], _, hacc => hacc
  | x :: l, acc, hacc => by
    refine foldl_keeps_accepted hf ok best l _ ?_
    rw [hf, hacc]
    simp [Trial.beats]

/-- Ranking trials that consumed nothing, from no trial or one that got nowhere, chooses
    at the end the first that was accepted, and nothing when none was. -/
theorem chooseRepair_foldl_end
    (hf : ∀ acc entry, (f acc entry).1 =
      if entry.2.1.beats entry.2.2 acc.1 then some entry else acc.1)
    (ok : Nat → Bool) {window : Nat} (hwindow : 0 < window) :
    ∀ (l : List Nat) (acc : Option (Repair × Trial × Nat) × Nat),
      (acc.1 = none ∨ ∃ a, acc.1 = some (.insert a, Trial.failed, costPerMissing)) →
      chooseRepair ((l.map fun symbol => (Repair.insert symbol, (⟨ok symbol, 0, 0⟩ : Trial),
        costPerMissing)).foldl f acc).1 window true = (l.find? ok).map .insert
  | [], acc, hacc => by
    rcases hacc with h | ⟨a, h⟩
    · simp [h, chooseRepair]
    · simp [h, chooseRepair, Trial.failed, Nat.ne_of_gt hwindow]
  | x :: l, acc, hacc => by
    simp only [List.map_cons, List.foldl_cons, List.find?_cons]
    cases hx : ok x with
    | true =>
      -- the first accepted trial beats what came before and stays ahead
      have hbest : (f acc (.insert x, ⟨true, 0, 0⟩, costPerMissing)).1 =
          some (.insert x, ⟨true, 0, 0⟩, costPerMissing) := by
        rw [hf]
        rcases hacc with h | ⟨a, h⟩ <;> simp [h, Trial.beats, Trial.failed]
      rw [foldl_keeps_accepted hf ok _ l _ hbest]
      simp [chooseRepair]
    | false =>
      dsimp only
      refine chooseRepair_foldl_end hf ok hwindow l _ ?_
      rw [hf]
      rcases hacc with h | ⟨a, h⟩
      · exact .inr ⟨x, by simp [h, Trial.beats, Trial.failed]⟩
      · exact .inr ⟨a, by simp [h, Trial.beats, Trial.failed]⟩

end Ranking

namespace ParseM

variable {ctx : ParseContext}

/-- At the end of the input, where nothing shifts the end, recovery assumes the first
    candidate of the top state that completes the parse alone, and nothing when there is
    none. -/
theorem chooseFor_end (hend : ∀ T T' e, ctx.table.action? T endSymbol ≠ some (.shift T' e))
    {la : Subtree} (hla : la.isEnd = true) {window : Nat} (hwindow : 0 < window)
    {s : RunState} {res : Option (Except ParseError ((Option Repair × Nat) × RunState))}
    (h : (chooseFor la window).exec ctx s = res) :
    ∃ examined, res = some (.ok
      ((((ctx.candidates s.stack.state).find? (ctx.completesWith s.stack.states)).map .insert,
        examined), s)) := by
  subst h
  have hsym : la.symbol = endSymbol := by simpa [Subtree.isEnd] using hla
  have hinserts : ((ctx.candidates s.stack.state).mapM fun symbol =>
      (ctx.simulate s.scannerState s.stack.states (some symbol) la.symbol
        (s.stack.position.add la.totalSize) window).map
        fun trial => (Repair.insert symbol, trial, costPerMissing)) =
      some ((ctx.candidates s.stack.state).map fun symbol =>
        (Repair.insert symbol, (⟨ctx.completesWith s.stack.states symbol, 0, 0⟩ : Trial),
          costPerMissing)) := by
    rw [hsym]
    simp only [ParseContext.simulate_end hend, Option.map_some]
    exact List.mapM_pure
  unfold chooseFor
  simp only [exec_bind, exec_read, exec_get, exec_lift, hinserts, Option.map_some, hla,
    if_true, exec_pure, List.append_nil]
  exact ⟨_, by rw [chooseRepair_foldl_end (fun _ _ => rfl) _ hwindow _ _ (.inl rfl)]⟩

end ParseM

end IncrementalLR
