import IncrementalLR.Proofs.Parse.TiledRuns

/-!
# Properties that every step of a fresh parse keeps

A fresh parse changes its stack in three ways only: it shifts a fresh leaf, it reduces the
top of the stack to a node, and it skips a token into an error subtree.
-/

namespace IncrementalLR

open ParseM

/-- A property `I` of the run states of a fresh parse that the steps changing the stack
    keep, next to the tiling, and a property `R` that every root made from a stack in `I`
    has. -/
structure FreshSteps (ctx : ParseContext) (I : RunState → Prop) (R : Subtree → Prop) : Prop where
  same : ∀ {s s' : RunState}, I s → s'.stack = s.stack → s'.errorRun = s.errorRun → I s'
  shiftLeaf : ∀ {s s' : RunState} {la : Lookahead} {next : Nat} {extra : Bool},
    (shift (if extra then s.stack.state else next) la extra).exec ctx s = some (.ok ((), s')) →
    TileInv ctx s → I s → FreshAt ctx s.stack.position la →
    ctx.table.action? s.stack.state la.tree.leafSymbol = some (.shift next extra) → I s'
  reduce : ∀ {s s' : RunState} {symbol count production : Nat} {la : Subtree} {u : Unit},
    (ParseM.reduce symbol count production la).exec ctx s = some (.ok (u, s')) →
    TileInv ctx s → I s → I s'
  skipToken : ∀ {s s' : RunState} {la : Lookahead} {u : Unit},
    (ParseM.skipToken la.tree).exec ctx s = some (.ok (u, s')) →
    TileInv ctx s → I s → FreshAt ctx s.stack.position la → I s'
  accept : ∀ {s s' : RunState} {la : Lookahead} {root : Subtree},
    ParseM.accept.exec ctx s = some (.ok (root, s')) → TileInv ctx s → I s →
    FreshAt ctx s.stack.position la →
    ctx.table.action? s.stack.state la.tree.leafSymbol = some .accept → R root
  giveUp : ∀ {s : RunState} (id : Nat), TileInv ctx s → I s →
    R (Subtree.root ctx.table id errorSymbol 0 s.stack.popAll.1 ctx.total)

/-- The stack a parse starts with holds no subtree. -/
theorem entriesHold_initial (P : Subtree → Prop) (options : ParseOptions) (logging : Bool)
    (old : Option Subtree) (next : Nat) :
    EntriesHold P (RunState.initial options logging old next).stack.entries := by
  intro e he x hx
  simp only [RunState.initial, Stack.new, List.mem_singleton] at he
  rw [he] at hx
  cases hx

/-- The children of a root that accepting makes are subtrees the stack held, or children of
    one of them, so a property that the stack's subtrees have and children inherit holds of
    them. -/
theorem children_of_accept {ctx : ParseContext} {P : Subtree → Prop} {s s' : RunState}
    {root : Subtree} (hacc : ParseM.accept.exec ctx s = some (.ok (root, s')))
    (hpopped : ∀ x ∈ s.stack.popAll.1, P x) (hchild : ∀ x, P x → ∀ c ∈ x.children, P c) :
    ∀ c ∈ root.children, P c := by
  obtain ⟨-, -, id, hroot⟩ := exec_accept hacc
  rcases hroot with rfl | ⟨i, t, hi, -, -, -, -, rfl⟩
  · simpa using hpopped
  · intro c hc
    simp only [Subtree.root_children, List.mem_append] at hc
    rcases hc with (hc | hc) | hc
    · exact hpopped c (List.mem_of_mem_take hc)
    · exact hchild t (hpopped t (List.mem_of_getElem? hi)) c hc
    · exact hpopped c (List.mem_of_mem_drop hc)

namespace FreshSteps

variable {ctx : ParseContext} {I : RunState → Prop} {R : Subtree → Prop}

theorem withLog (hk : FreshSteps ctx I R) {s : RunState} (h : I s) (l : Array LogLine) :
    I { s with log := l } :=
  hk.same h rfl rfl

/-- Lexing or reusing the next lookahead leaves the stack and the error run alone. -/
theorem nextLookahead (hk : FreshSteps ctx I R) {s s' : RunState} {la : Lookahead} (h : I s)
    (hla : nextLookahead.exec ctx s = some (.ok (la, s'))) : I s' := by
  obtain ⟨hstack, hcases⟩ := exec_nextLookahead hla
  have hrun : s'.errorRun = s.errorRun := by
    rcases hcases with ⟨-, -, -, -, hrun⟩ | ⟨-, -, -, hrun, -⟩ <;> exact hrun
  exact hk.same h hstack hrun

/-- Assuming a missing token leaves the stack and the error run alone. -/
theorem missing (hk : FreshSteps ctx I R) {s s' : RunState} {symbol examinedEnd : Nat}
    {m : Lookahead} (h : I s) (hm : (missing symbol examinedEnd).exec ctx s = some (.ok (m, s'))) :
    I s' := by
  obtain ⟨hstack, -, -, -, hrun, -⟩ := exec_missing hm
  exact hk.same h hstack hrun

mutual

/-- Feeding a lookahead of a fresh parse keeps `I` when it makes no root, and a root it
    makes has `R`. The induction follows the run, next to the tiling's, which gives the
    positions the later lookaheads are fresh at. -/
theorem advance (hk : FreshSteps ctx I R) :
    ∀ {la : Lookahead} {s s' : RunState} {r : Option Subtree}, AdvanceRun ctx la s r s' →
      TileInv ctx s → I s → FreshAt ctx s.stack.position la →
      (r = none → I s') ∧ ∀ root, r = some root → R root
  | _, _, _, _, .shiftNode _ hcount .., _, _, hla => absurd hcount (by rw [hla.childCount]; omega)
  | _, _, _, _, .breakdownTree _ hcount .., _, _, hla =>
    absurd hcount (by rw [hla.childCount]; omega)
  | _, _, _, _, .breakdownRelex _ hcount .., _, _, hla =>
    absurd hcount (by rw [hla.childCount]; omega)
  | _, _, _, _, .shiftLeaf hact _ hshift, ht, hi, hla =>
    ⟨fun _ => hk.shiftLeaf hshift ht hi hla hact, fun _ h => nomatch h⟩
  | _, _, _, _, .reduce _ hred hrun, ht, hi, hla => by
    obtain ⟨ht₁, hpos₁⟩ := ht.reduce hred
    exact advance hk hrun ht₁ (hk.reduce hred ht hi) (hpos₁ ▸ hla)
  | _, _, _, _, .accept hact hacc, ht, hi, hla =>
    ⟨(fun h => nomatch h), fun _ h => Option.some.inj h ▸ hk.accept hacc ht hi hla hact⟩
  | _, _, _, _, .relexReused _ hreused .., _, _, hla => absurd hreused (by rw [hla.reused]; simp)
  | _, _, _, _, .skipError _ _ _ hskip, ht, hi, hla =>
    ⟨fun _ => hk.skipToken hskip ht.withLog (hk.withLog hi _) hla, fun _ h => nomatch h⟩
  | _, _, _, _, .insert _ _ _ hchoose hmissing hrun₁ hrun₂, ht, hi, hla => by
    obtain ⟨rfl, hcand, σ, hfeed⟩ := chooseFor_insert
      (Nat.lt_of_lt_of_le Nat.one_pos (Nat.le_max_right _ _)) hchoose
    obtain ⟨ht₃, hstack₃, hm, hsym, hsize⟩ :=
      ht.withLog.missing (ctx.pos_of_mem_candidates hcand) hmissing
    -- the assumed token is shifted, as the simulation that chose it says
    obtain ⟨hnone, -, -⟩ := AdvanceRun.of_shifted _ hrun₁ hm.childCount hm.reused
      ht₃.stack.keep (by rw [hsym, hstack₃]; exact hfeed)
    obtain ⟨ht₄, hpos₄⟩ := (hrun₁.tileInv ht₃ hm).1 hnone
    rw [hsize, Length.add_zero, hstack₃] at hpos₄
    have hi₄ := (advance hk hrun₁ ht₃ (hk.missing (hk.withLog hi _) hmissing) hm).1 hnone
    exact advance hk hrun₂ (ht₄.of_eq rfl rfl (Nat.le_refl _) rfl) (hk.same hi₄ rfl rfl)
      (by rw [hpos₄]; exact hla.refresh)
  | _, _, _, _, .delete _ _ _ hchoose hskip, ht, hi, hla => by
    obtain rfl := exec_chooseFor hchoose
    exact ⟨fun _ => hk.skipToken hskip ht.withLog (hk.withLog hi _) hla, fun _ h => nomatch h⟩
  | _, _, _, _, .complete _ _ _ hchoose hpath hinserts hrun, ht, hi, hla => by
    have hs₂ := exec_chooseFor hchoose
    have ht₂ : TileInv ctx _ := hs₂.symm ▸ ht.withLog
    have hi₂ : I _ := hs₂.symm ▸ hk.withLog hi _
    obtain ⟨ht₃, hpos₃⟩ := InsertsRun.tileInv hinserts ht₂
      (hs₂ ▸ ParseContext.shortestCompletion_assumable hpath)
    exact advance hk hrun ht₃
      (inserts hk hinserts ht₂ hi₂ (hs₂ ▸ ParseContext.shortestCompletion_assumable hpath))
      (by rw [hpos₃, hs₂]; exact hla.refresh)
  | _, _, _, _, .recoverEof _ _ _ hchoose _, ht, hi, _ => by
    obtain rfl := exec_chooseFor hchoose
    refine ⟨(fun h => nomatch h), fun _ h => ?_⟩
    cases h
    exact hk.giveUp _ ht.withLog (hk.withLog hi _)

/-- Feeding assumed tokens that the simulation shifts one after another keeps `I`. -/
theorem inserts (hk : FreshSteps ctx I R) :
    ∀ {examinedEnd : Nat} {path : List Nat} {s s' : RunState},
      InsertsRun ctx examinedEnd path s s' → TileInv ctx s → I s →
      Assumable ctx s.stack.states path → I s'
  | _, _, _, _, .nil, _, hi, _ => hi
  | _, _, _, _, .cons hmissing hrun hrest, ht, hi, .cons hpos hfeed hnext => by
    obtain ⟨ht₁, hstack₁, hm, hsym, -⟩ := ht.missing hpos hmissing
    obtain ⟨hnone, -, hstates⟩ := AdvanceRun.of_shifted _ hrun hm.childCount hm.reused
      ht₁.stack.keep (by rw [hsym, hstack₁]; exact hfeed)
    have ht₂ := ((hrun.tileInv ht₁ hm).1 hnone).1
    have hi₂ := (advance hk hrun ht₁ (hk.missing hi hmissing) hm).1 hnone
    exact inserts hk hrest (ht₂.of_eq rfl rfl (Nat.le_refl _) rfl) (hk.same hi₂ rfl rfl)
      (by rw [hstates]; exact hnext)

end

/-- Every finished parse loop from a state with `I` and the tiling returns a root with
    `R`. -/
theorem loop (hk : FreshSteps ctx I R) {s s' : RunState} {root : Subtree}
    (h : LoopRun ctx s root s') (ht : TileInv ctx s) (hi : I s) : R root := by
  induction h with
  | last hround =>
    obtain ⟨la, s₁, hla, hrun⟩ := round_run hround
    obtain ⟨ht₁, hfresh⟩ := ht.nextLookahead hla
    exact (hk.advance hrun ht₁ (hk.nextLookahead hi hla) hfresh).2 _ rfl
  | next hround _ ih =>
    obtain ⟨la, s₁, hla, hrun⟩ := round_run hround
    obtain ⟨ht₁, hfresh⟩ := ht.nextLookahead hla
    exact ih ((hrun.tileInv ht₁ hfresh).1 rfl).1
      ((hk.advance hrun ht₁ (hk.nextLookahead hi hla) hfresh).1 rfl)

end FreshSteps

/-- The tree of every fresh parse has the property of roots, when the steps keep a
    property that the state it starts in has. -/
theorem FreshSteps.of_parseText {I : RunState → Prop} {R : Subtree → Prop} {t : ParseTable}
    {options : ParseOptions} {logging : Bool} {input : ByteArray} {next next' : Nat}
    {root : Subtree} {log : Array LogLine}
    (hk : FreshSteps ⟨t, options, input, Length.of input.toList, logging, false⟩ I R)
    (hinit : I (RunState.initial options logging none next))
    (h : parseText t options logging input none next = some (.ok (root, log, next'))) : R root := by
  obtain ⟨s', hrun⟩ := LoopRun.of_parseText h
  exact hk.loop hrun (TileInv.initial _ options logging next) hinit

end IncrementalLR
