import IncrementalLR.Proofs.Parse.ReusedRuns
import IncrementalLR.Proofs.Parse.FreshSteps
import IncrementalLR.Proofs.Parse.Language

/-!
# The trees a parser hands out

A parser hands out the tree of a parse, with any table, of any text and reusing a tree it
handed out before, and such a tree after edits. Every node of these trees is marked: an
extra with children is an error node, and a subtree that counts no error has no error below
it. Edits change only the geometry, change marks and identities of nodes, so they keep what
a parse made.
-/

namespace IncrementalLR

open ParseM Subtree

/-! ### The error costs of summaries -/

namespace ChildSummary

/-- Adding children adds each child's error cost, so the cost only grows. -/
theorem errorCost_le_foldl (isError : Bool) : ∀ (cs : List Subtree) (acc : ChildSummary),
    acc.errorCost ≤ (cs.foldl (add isError) acc).errorCost ∧
      ∀ c ∈ cs, c.errorCost ≤ (cs.foldl (add isError) acc).errorCost
  | [], _ => ⟨Nat.le_refl _, fun _ h => nomatch h⟩
  | c :: cs, acc => by
    obtain ⟨hacc, hcs⟩ := errorCost_le_foldl isError cs (acc.add isError c)
    have hc : acc.errorCost + c.errorCost ≤ (acc.add isError c).errorCost :=
      Nat.le_add_right _ _
    rw [List.foldl_cons]
    refine ⟨by omega, fun d hd => ?_⟩
    rcases List.mem_cons.1 hd with rfl | hd
    · omega
    · exact hcs d hd

/-- A summary that counts no error is of children that count none. -/
theorem errorCost_ofChildren_eq_zero {isError : Bool} {cs : List Subtree}
    (h : (ofChildren isError cs).errorCost = 0) : ∀ c ∈ cs, c.errorCost = 0 :=
  fun c hc => Nat.eq_zero_of_le_zero (h ▸ (errorCost_le_foldl isError cs empty).2 c hc)

end ChildSummary

/-! ### Marked nodes -/

namespace Subtree.Marked

variable {x y : Subtree}

/-- Marks are read off the extra flag, the symbol, the error costs and the number of
    children. -/
theorem congr (h : x.Marked) (hcs : y.children.map (·.errorCost) = x.children.map (·.errorCost))
    (hextra : y.isExtra = x.isExtra) (herror : y.isError = x.isError)
    (hcost : y.errorCost = x.errorCost) : y.Marked where
  extra hne hx := by
    have hne' : x.children ≠ [] := fun hnil => hne (by simpa [hnil] using hcs)
    rw [herror]
    exact h.extra hne' (hextra ▸ hx)
  clean h0 := by
    obtain ⟨herr, hzero⟩ := h.clean (hcost ▸ h0)
    refine ⟨herror ▸ herr, fun c hc => ?_⟩
    have hmem : c.errorCost ∈ x.children.map (·.errorCost) := hcs ▸ List.mem_map_of_mem hc
    obtain ⟨d, hd, hdc⟩ := List.mem_map.1 hmem
    exact hdc ▸ hzero d hd

/-- A leaf that counts no error only when it is no error token. -/
theorem leaf {i : NodeInfo} (h : i.errorCost = 0 → i.symbol ≠ errorSymbol) :
    (Subtree.mk i []).Marked where
  extra hne := absurd rfl hne
  clean h0 := ⟨beq_eq_false_iff_ne.2 (h h0), fun _ h => nomatch h⟩

theorem ofToken (table : ParseTable) (id : Nat) (token : Token) (parseState : Nat) :
    (Subtree.ofToken table id token parseState).Marked :=
  leaf fun h0 hsym => by
    change token.symbol = errorSymbol at hsym
    simp [hsym, costPerRecovery] at h0

theorem missingLeaf (table : ParseTable) (id symbol parseState : Nat) :
    (Subtree.missingLeaf table id symbol parseState).Marked :=
  leaf fun h0 => by simp [costPerMissing] at h0

theorem withExtra (h : x.Marked) (hleaf : x.children = []) (extra : Bool) (id : Nat) :
    (x.withExtra extra id).Marked := by
  unfold Subtree.withExtra
  split
  · exact h
  · exact ⟨fun hne => absurd hleaf hne, fun h0 => h.clean h0⟩

theorem extendLookahead (h : x.Marked) (n : Nat) : (x.extendLookahead n).Marked := by
  unfold Subtree.extendLookahead
  split
  · exact ⟨h.extra, h.clean⟩
  · exact h

/-- A record summed up from its children is marked when an extra with children would be an
    error node and, for a symbol that is no error, the summary counts no error only over
    children that count none. -/
theorem withSummary {i : NodeInfo} {s : ChildSummary} {cs : List Subtree} (first : Option Subtree)
    (hextra : cs ≠ [] → i.extra = true → i.symbol = errorSymbol)
    (hcs : i.symbol ≠ errorSymbol → s.errorCost = 0 → ∀ c ∈ cs, c.errorCost = 0) :
    (Subtree.mk (i.withSummary s first) cs).Marked where
  extra hne hx := beq_iff_eq.2 (hextra hne hx)
  clean h0 := by
    by_cases hsym : i.symbol = errorSymbol
    · -- an error node pays for its recovery
      simp [errorCost, NodeInfo.withSummary, hsym, costPerRecovery] at h0
    · have hs : s.errorCost = 0 := by
        simpa [errorCost, NodeInfo.withSummary, hsym] using h0
      exact ⟨beq_eq_false_iff_ne.2 hsym, hcs hsym hs⟩

theorem node (table : ParseTable) (id symbol : Nat) (cs : List Subtree) (production parseState : Nat) :
    (Subtree.node table id symbol cs production parseState).Marked :=
  withSummary _ (fun _ hx => by simp [NodeInfo.blank] at hx)
    fun _ hs => ChildSummary.errorCost_ofChildren_eq_zero hs

theorem errorNodeWith (table : ParseTable) (id : Nat) (cs : List Subtree) (summary : ChildSummary)
    (extra : Bool) (parseState : Nat) :
    (Subtree.errorNodeWith table id cs summary extra parseState).Marked :=
  withSummary _ (fun _ _ => rfl) fun hsym => absurd rfl hsym

theorem root (table : ParseTable) (id symbol production : Nat) (cs : List Subtree)
    (total : Length) : (Subtree.root table id symbol production cs total).Marked := by
  -- the root is the node summed up from its children, spread over the whole text
  have h : (Subtree.mk ({ NodeInfo.blank table id symbol Length.zero Length.zero with
      production }.summarize cs) cs).Marked :=
    withSummary _ (fun _ hx => by simp [NodeInfo.blank] at hx)
      fun _ hs => ChildSummary.errorCost_ofChildren_eq_zero hs
  exact h.congr rfl rfl rfl rfl

end Subtree.Marked

/-! ### Parses keep every node marked -/

namespace Subtree.AllMarked

variable {ctx : ParseContext} {s s' : RunState}

theorem leaf {x : Subtree} (hx : x.Marked) (hleaf : x.children = []) : x.AllMarked :=
  of_children hx fun c hc => by rw [hleaf] at hc; cases hc

/-- A fed lookahead is marked throughout: a fresh one is a marked leaf, and a reused one is a
    subtree of a tree of the family. -/
theorem fed (hb : RunBase AllMarked s) {la : Lookahead} (hla : Lookahead.Fed ctx s.reuse la) :
    la.tree.AllMarked := by
  cases hla with
  | lexed => exact leaf (.ofToken ..) rfl
  | assumed => exact leaf (.missingLeaf ..) rfl
  | reused hpath _ => exact hb.cursor.head hpath

theorem shift (hb : RunBase AllMarked s) (h : EntriesHold AllMarked s.stack.entries)
    {la : Lookahead} {state : Nat} {extra : Bool}
    (hshift : (ParseM.shift state la extra).exec ctx s = some (.ok ((), s')))
    (hla : Lookahead.Fed ctx s.reuse la) : EntriesHold AllMarked s'.stack.entries := by
  obtain ⟨hstack, -⟩ := exec_shift hshift
  have hfed := fed hb hla
  rw [hstack]
  refine h.pushed _ ?_
  split
  · -- a leaf is shifted with its extra flag set as the action says
    rename_i hcount
    have hleaf : la.tree.children = [] := List.eq_nil_of_length_eq_zero hcount
    exact leaf (hfed.here.withExtra hleaf _ _) (by simp [hleaf])
  · exact hfed

theorem reduce (h : EntriesHold AllMarked s.stack.entries) {symbol count production : Nat}
    {la : Subtree} {u : Unit}
    (hred : (ParseM.reduce symbol count production la).exec ctx s = some (.ok (u, s'))) :
    EntriesHold AllMarked s'.stack.entries := by
  obtain ⟨-, -, -, k, hstack⟩ := exec_reduce hred
  have hpopped : ∀ x ∈ (s.stack.popCount count).1, x.AllMarked := h.popFrom count
  have hsplit := splitTrailingExtras_append (s.stack.popCount count).1
  rw [hstack]
  refine ((h.popFrom_rest count).pushed _ (of_children ((Marked.node ..).extendLookahead k)
    fun c hc => hpopped c (hsplit ▸ List.mem_append_left _ (by simpa using hc)))).pushAll _
    fun x hx => hpopped x (hsplit ▸ List.mem_append_right _ hx)

theorem skipToken (hb : RunBase AllMarked s) (h : EntriesHold AllMarked s.stack.entries)
    {la : Lookahead} {u : Unit} (hskip : (ParseM.skipToken la.tree).exec ctx s = some (.ok (u, s')))
    (hla : Lookahead.Fed ctx s.reuse la) (hfresh : la.reused = false) :
    EntriesHold AllMarked s'.stack.entries := by
  have htoken := fed hb hla
  have hleaf := (hla.fresh hfresh).1
  obtain ⟨-, hcases⟩ := exec_skipToken_eq hskip
  rcases hcases with ⟨top, htop, -, -, -, hstack, -⟩ |
    ⟨-, -, ⟨-, hstack, -⟩ | ⟨-, hstack, -⟩⟩
  · -- the error node on top is popped, and a new one holds its children and the token
    obtain ⟨hpop, -, e, hes, he⟩ := hb.keep.pop htop
    have htop' : top.AllMarked := h e (by rw [hes]; exact List.mem_cons_self) top he
    rw [hstack]
    refine h.pop.pushed _ (of_children (.errorNodeWith ..) fun c hc => ?_)
    rw [errorNodeWith_children] at hc
    rcases (mem_mergeSkipped (fun x hx => Option.some.inj (hx.symm.trans hpop)) _ _ _).2 c hc with
      rfl | hc | ⟨hnil, cid, rfl⟩
    · exact htoken
    · exact htop'.child hc
    · exact leaf (htop'.here.withExtra hnil _ _) (by simp [hnil])
  · rw [hstack]
    exact h.pushed _ (leaf (htoken.here.withExtra hleaf _ _) (by simp [hleaf]))
  · rw [hstack]
    refine h.pushed _ (of_children (.errorNodeWith ..) fun c hc => ?_)
    rw [errorNodeWith_children, List.mem_singleton] at hc
    exact hc ▸ htoken

theorem accept (h : EntriesHold AllMarked s.stack.entries) {root : Subtree}
    (hacc : ParseM.accept.exec ctx s = some (.ok (root, s'))) : root.AllMarked := by
  have hcs := children_of_accept hacc h.popAll fun _ hx _ hc => hx.child hc
  obtain ⟨-, -, id, hroot⟩ := exec_accept hacc
  rcases hroot with rfl | ⟨i, t, -, -, -, -, -, rfl⟩ <;> exact of_children (.root ..) hcs

/-- Every step of a parse reusing trees that are marked throughout keeps the stack's
    subtrees marked throughout, and so is every root it makes. -/
theorem runSteps (ctx : ParseContext) :
    RunSteps ctx AllMarked (fun s => EntriesHold AllMarked s.stack.entries) AllMarked where
  same h hstack _ _ := hstack ▸ h
  shift hshift hb h hla _ _ := shift hb h hshift hla
  reduce hred _ h := reduce h hred
  skipToken hskip hb h hla hfresh := skipToken hb h hskip hla hfresh
  accept hacc _ h := accept h hacc
  giveUp _ h := of_children (.root ..) (by simpa using h.popAll)

end Subtree.AllMarked

/-- The tree of every parse that reuses a tree marked throughout, or none, is marked
    throughout. -/
theorem parseText_allMarked {t : ParseTable} {options : ParseOptions} {logging : Bool}
    {input : ByteArray} {old : Option Subtree} {next next' : Nat} {root : Subtree}
    {log : Array LogLine} (hold : ∀ o ∈ old, o.AllMarked)
    (h : parseText t options logging input old next = some (.ok (root, log, next'))) :
    root.AllMarked :=
  (AllMarked.runSteps _).of_parseText ReuseFamily.allMarked hold
    (entriesHold_initial _ options logging old next) h

/-! ### Edits restamp nodes -/

/-- A record without what an edit changes: its geometry, change mark and identity. -/
def NodeInfo.unstamped (i : NodeInfo) : NodeInfo :=
  { i with padding := Length.zero, size := Length.zero, hasChanges := false, id := 0 }

namespace Subtree

mutual

/-- The subtree with every record unstamped. -/
def unstamped : Subtree → Subtree
  | .mk i cs => .mk i.unstamped (unstampedList cs)

/-- The subtrees of a list, unstamped. -/
def unstampedList : List Subtree → List Subtree
  | [] => []
  | c :: cs => c.unstamped :: unstampedList cs

end

theorem errorCosts_of_unstamped :
    ∀ {cs ds : List Subtree}, unstampedList cs = unstampedList ds →
      cs.map (·.errorCost) = ds.map (·.errorCost)
  | [], [], _ => rfl
  | [], _ :: _, h => by simp [unstampedList] at h
  | _ :: _, [], h => by simp [unstampedList] at h
  | .mk i cs :: rest, .mk j ds :: rest', h => by
    simp only [unstampedList, unstamped, List.cons.injEq, Subtree.mk.injEq] at h
    simp only [List.map_cons, List.cons.injEq]
    exact ⟨(congrArg NodeInfo.errorCost h.1.1 : i.unstamped.errorCost = j.unstamped.errorCost),
      errorCosts_of_unstamped h.2⟩

/-- Marks depend on nothing an edit changes. -/
theorem Marked.of_unstamped {x y : Subtree} (h : x.Marked) (hu : y.unstamped = x.unstamped) :
    y.Marked := by
  obtain ⟨i, cs⟩ := x
  obtain ⟨j, ds⟩ := y
  simp only [unstamped, Subtree.mk.injEq] at hu
  exact h.congr (errorCosts_of_unstamped hu.2)
    (congrArg NodeInfo.extra hu.1 : j.unstamped.extra = i.unstamped.extra)
    (congrArg (fun i : NodeInfo => i.symbol == errorSymbol) hu.1 :
      (j.unstamped.symbol == errorSymbol) = (i.unstamped.symbol == errorSymbol))
    (congrArg NodeInfo.errorCost hu.1 : j.unstamped.errorCost = i.unstamped.errorCost)

mutual

/-- Every subtree of a tree with the same unstamped form has one in the other. -/
theorem exists_of_unstamped : ∀ (y x : Subtree), y.unstamped = x.unstamped →
    ∀ u ∈ y.subtrees, ∃ v ∈ x.subtrees, u.unstamped = v.unstamped
  | .mk i cs, .mk j ds, h, u, hu => by
    rw [subtrees] at hu
    rcases List.mem_cons.1 hu with rfl | hu
    · exact ⟨_, mem_subtrees_self _, h⟩
    · simp only [unstamped, Subtree.mk.injEq] at h
      obtain ⟨v, hv, huv⟩ := exists_of_unstampedList cs ds h.2 u hu
      exact ⟨v, by rw [subtrees]; exact List.mem_cons_of_mem _ hv, huv⟩

theorem exists_of_unstampedList : ∀ (cs ds : List Subtree), unstampedList cs = unstampedList ds →
    ∀ u ∈ subtreesOf cs, ∃ v ∈ subtreesOf ds, u.unstamped = v.unstamped
  | [], _, _, u, hu => by simp [subtreesOf] at hu
  | _ :: _, [], h, _, _ => by simp [unstampedList] at h
  | c :: cs, d :: ds, h, u, hu => by
    simp only [unstampedList, List.cons.injEq] at h
    rw [subtreesOf, List.mem_append] at hu
    rcases hu with hu | hu
    · obtain ⟨v, hv, huv⟩ := exists_of_unstamped c d h.1 u hu
      exact ⟨v, by rw [subtreesOf]; exact List.mem_append_left _ hv, huv⟩
    · obtain ⟨v, hv, huv⟩ := exists_of_unstampedList cs ds h.2 u hu
      exact ⟨v, by rw [subtreesOf]; exact List.mem_append_right _ hv, huv⟩

end

theorem AllMarked.of_unstamped {x y : Subtree} (h : x.AllMarked) (hu : y.unstamped = x.unstamped) :
    y.AllMarked := fun u hu' =>
  let ⟨v, hv, huv⟩ := exists_of_unstamped y x hu u hu'
  (h v hv).of_unstamped huv

mutual

/-- An edit changes nothing but the geometry, change marks and identities of nodes. -/
theorem unstamped_editLocal : ∀ (x : Subtree) (e : LocalEdit) (next : Nat),
    (x.editLocal e next).1.unstamped = x.unstamped
  | .mk i cs, e, next => by
    unfold editLocal
    dsimp only
    split
    · rfl
    · simp only [unstamped, unstampedList_editChildren]
      rfl

theorem unstampedList_editChildren : ∀ (cs : List Subtree) (f : Bool) (padding : Length)
    (ins : Bool) (e : LocalEdit) (left : Length) (index next : Nat),
    unstampedList (editChildren f padding ins cs e left index next).1 = unstampedList cs
  | [], _, _, _, _, _, _, _ => by simp [editChildren]
  | c :: rest, f, padding, ins, e, left, index, next => by
    unfold editChildren
    dsimp only
    -- the child is before the edit, after it, or touched by it
    split
    · simp only [unstampedList, unstampedList_editChildren rest]
    · split
      · rfl
      · simp only [unstampedList, unstamped_editLocal c, unstampedList_editChildren rest]

end

theorem unstamped_intoRoot (x : Subtree) (id : Nat) : (x.intoRoot id).unstamped = x.unstamped := by
  obtain ⟨i, cs⟩ := x
  unfold intoRoot
  split
  · rfl
  · rfl

end Subtree

theorem SyntaxTree.unstamped_edit (t : SyntaxTree) (e : Edit) (next : Nat) :
    (t.edit e next).1.root.unstamped = t.root.unstamped := by
  unfold SyntaxTree.edit
  dsimp only
  rw [unstamped_intoRoot, unstamped_editLocal]

/-! ### The trees a parser hands out -/

/-- The trees a parser hands out: the tree of a parse, with any table and of any text,
    reusing a tree it handed out before or none, and such a tree edited. -/
inductive Subtree.Yielded : Subtree → Prop
  | parsed {t : ParseTable} {options : ParseOptions} {logging : Bool} {input : ByteArray}
      {old : Option Subtree} {next next' : Nat} {root : Subtree} {log : Array LogLine} :
      (∀ o ∈ old, Yielded o) →
      parseText t options logging input old next = some (.ok (root, log, next')) → Yielded root
  | edited {root : Subtree} {language : Language} {e : Edit} {next : Nat} :
      Yielded root → Yielded (SyntaxTree.edit ⟨root, language⟩ e next).1.root

/-- Every tree a parser hands out is marked throughout. -/
theorem Subtree.Yielded.allMarked {x : Subtree} (h : x.Yielded) : x.AllMarked := by
  induction h with
  | parsed _ hparse ih => exact parseText_allMarked ih hparse
  | edited _ ih => exact ih.of_unstamped (SyntaxTree.unstamped_edit _ _ _)

/-! ### The states a parse reaches -/

/-- The extras on the stack keep the state below them in every state that a parse reaches,
    with any table, reusing a tree the parser handed out or none. -/
theorem ExtrasKeepState.of_reached {ctx : ParseContext} {old : Option Subtree}
    (hold : ∀ o ∈ old, o.Yielded) {next : Nat} {s : RunState}
    (hs : Relation.ReflTransGen (ParseStep ctx) (RunState.initial ctx.options ctx.logging old next) s) :
    ExtrasKeepState s.stack.entries :=
  ((RunBase.initial (fun o ho => (hold o ho).allMarked) ctx.options ctx.logging next).reaches
    ReuseFamily.allMarked hs).keep

namespace ParseM

/-- In every state that a parse reaches, with any table and reusing a tree the parser
    handed out or none, the extras on the stack keep the state below them, and feeding a
    leaf follows the simulation of its symbol on the stack's states. Where the simulation
    shifts, feeding makes the simulated reductions and shifts the leaf into the state the
    simulation pushes, or in place as an extra when it says so; unless it runs out of room,
    it returns nothing, with the simulated states kept and the leaf on top. Where the
    simulation accepts, feeding makes the simulated reductions and accepts from the simulated
    states, unless it runs out of room. -/
theorem reached_advance_follows_simulation {ctx : ParseContext} {old : Option Subtree}
    (hold : ∀ o ∈ old, o.Yielded) {next : Nat} {s : RunState}
    (hs : Relation.ReflTransGen (ParseStep ctx) (RunState.initial ctx.options ctx.logging old next) s)
    {la : Lookahead} :
    ExtrasKeepState s.stack.entries ∧
    (∀ (extra : Bool) (σ' : List Nat), la.tree.childCount = 0 →
      ctx.feed s.stack.states la.tree.leafSymbol = (.shifted extra, σ') →
      advance la ctx s = (do
          reduceAll la.tree (simulatedReductions ctx.table la.tree.leafSymbol
            (ctx.options.maxStackDepth + 1) s.stack.states)
          shift (σ'.headD 0) la extra
          pure none).exec ctx s ∧
        ((∃ m, advance la ctx s = some (.error (.resourceExhausted m))) ∨
          ∃ r s', advance la ctx s = some (.ok (r, s')) ∧ r = none ∧
            ExtrasKeepState s'.stack.entries ∧ s'.stack.states = σ' ∧
            ∃ id, s'.stack.topSubtree = some (la.tree.withExtra extra id))) ∧
    ∀ σ' : List Nat, ctx.feed s.stack.states la.tree.leafSymbol = (.accepted, σ') →
      advance la ctx s = (do
          reduceAll la.tree (simulatedReductions ctx.table la.tree.leafSymbol
            (ctx.options.maxStackDepth + 1) s.stack.states)
          some <$> accept).exec ctx s ∧
        ((∃ m, advance la ctx s = some (.error (.resourceExhausted m))) ∨
          ∃ r s', advance la ctx s = some (.ok (r, s')) ∧
            ∃ root s₁, r = some root ∧ s₁.stack.states = σ' ∧
              accept.exec ctx s₁ = some (.ok (root, s'))) :=
  have hkeep := ExtrasKeepState.of_reached hold hs
  ⟨hkeep, advance_follows_simulation hkeep⟩

/-- The sample's reparse of ` a ab c c`, reusing its own tree, reads the whole old tree, a
    node with two children, as its first lookahead. In the state it reaches then, the
    simulation shifts an `a` into the states `[2, 1]`, and feeding an assumed `a` does the
    same. -/
theorem reached_advance_follows_simulation_sample :
    let ctx : ParseContext := ⟨ParseTable.sample, ParseOptions.standard, sampleText,
      Length.of sampleText.toList, false, true⟩
    ∃ root log next la s,
      parseText ParseTable.sample ParseOptions.standard false sampleText none 0 =
        some (.ok (root, log, next)) ∧
      nextLookahead.exec ctx (RunState.initial ParseOptions.standard false (some root) next) =
        some (.ok (la, s)) ∧
      la.reused = true ∧ la.tree.childCount = 2 ∧ ExtrasKeepState s.stack.entries ∧
      ((∃ m, advance ⟨missingLeaf ParseTable.sample s.nextId 2 1, false⟩ ctx s =
          some (.error (.resourceExhausted m))) ∨
        ∃ r s', advance ⟨missingLeaf ParseTable.sample s.nextId 2 1, false⟩ ctx s =
            some (.ok (r, s')) ∧ r = none ∧ ExtrasKeepState s'.stack.entries ∧
          s'.stack.states = [2, 1] ∧
          ∃ id, s'.stack.topSubtree = some ((missingLeaf ParseTable.sample s.nextId 2 1).withExtra false id)) := by
  intro ctx
  have hrun : (parseText ParseTable.sample ParseOptions.standard false sampleText none 0).any
      (returnsWith fun r : Subtree × Array LogLine × Nat =>
        (nextLookahead.exec ctx (RunState.initial ParseOptions.standard false (some r.1) r.2.2)).any
          (returnsWith fun q : Lookahead × RunState => q.1.reused && q.1.tree.childCount == 2 &&
            ctx.feed q.2.stack.states 2 == (.shifted false, [2, 1]))) = true := by
    decide +kernel
  obtain ⟨⟨root, log, next⟩, hparse, hrest⟩ := exists_of_any_returnsWith hrun
  obtain ⟨⟨la, s⟩, hla, hfacts⟩ := exists_of_any_returnsWith hrest
  simp only [Bool.and_eq_true, beq_iff_eq] at hfacts
  obtain ⟨⟨hreused, hcount⟩, hfeed⟩ := hfacts
  have hold : ∀ o ∈ some root, o.Yielded := by
    intro o ho
    rw [Option.mem_def, Option.some.injEq] at ho
    exact ho ▸ .parsed (fun _ h => absurd h (Option.not_mem_none _)) hparse
  obtain ⟨hkeep, hshift, -⟩ := @reached_advance_follows_simulation ctx (some root) hold next s
    (.single (.lookahead hla)) ⟨missingLeaf ParseTable.sample s.nextId 2 1, false⟩
  exact ⟨root, log, next, la, s, hparse, hla, hreused, hcount, hkeep, (hshift false [2, 1] rfl hfeed).2⟩

end ParseM

end IncrementalLR
