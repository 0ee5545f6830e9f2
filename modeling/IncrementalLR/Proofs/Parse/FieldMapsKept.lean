import IncrementalLR.Proofs.Parse.Tiling
import IncrementalLR.Proofs.Grammar.FieldMaps

/-!
# Parse trees keep the field maps of their productions

A node that the parser makes by a reduction carries the field map of the production it
reduces by, and a root takes the field map of the node of the start symbol whose children it
takes.
-/

namespace IncrementalLR

open Subtree

variable {g : Grammar}

/-- A node keeps the field map of a production it spells: unless it is an error, when
    it has a child that is not an extra, those children spell the right side of a
    production of its symbol, and the node carries that production's field map. -/
def Subtree.KeepsMap (g : Grammar) (x : Subtree) : Prop :=
  x.symbol ≠ errorSymbol → (∃ c ∈ x.children, c.isExtra = false) →
    ∃ p prod, 1 ≤ p ∧ g.productions[p]? = some prod ∧ prod.lhs = x.symbol ∧
      (x.children.filter fun c => !c.isExtra).map Subtree.symbol = prod.rhs ∧
      x.production = g.fieldMapId p

/-- Every node of a subtree keeps the field map of the production it spells. -/
inductive Subtree.Fielded (g : Grammar) : Subtree → Prop
  | mk {i : NodeInfo} {cs : List Subtree} :
      (Subtree.mk i cs).KeepsMap g → (∀ c ∈ cs, Fielded g c) → Fielded g (.mk i cs)

namespace Subtree

variable {x y : Subtree}

theorem KeepsMap.of_leaf (hx : x.children = []) : x.KeepsMap g := by
  rintro - ⟨c, hc, -⟩
  rw [hx] at hc
  cases hc

theorem KeepsMap.of_error (hsym : x.symbol = errorSymbol) : x.KeepsMap g :=
  fun h => absurd hsym h

/-- What a node keeps depends only on its symbol, children and field map. -/
theorem KeepsMap.congr (h : x.KeepsMap g) (hsym : y.symbol = x.symbol)
    (hchildren : y.children = x.children) (hprod : y.production = x.production) :
    y.KeepsMap g := by
  intro herr hchild
  rw [hsym] at herr ⊢
  rw [hchildren] at hchild ⊢
  rw [hprod]
  exact h herr hchild

namespace Fielded

theorem intro (hkeeps : x.KeepsMap g) (hchildren : ∀ c ∈ x.children, c.Fielded g) :
    x.Fielded g := by
  cases x
  exact .mk hkeeps hchildren

theorem keeps (h : x.Fielded g) : x.KeepsMap g := by
  cases h with
  | mk hkeeps _ => exact hkeeps

theorem child (h : x.Fielded g) {c : Subtree} (hc : c ∈ x.children) : c.Fielded g := by
  cases h with
  | mk _ hchildren => exact hchildren c hc

theorem of_leaf (hx : x.children = []) : x.Fielded g :=
  intro (.of_leaf hx) fun c hc => by
    rw [hx] at hc
    cases hc

theorem of_error (hsym : x.symbol = errorSymbol) (hchildren : ∀ c ∈ x.children, c.Fielded g) :
    x.Fielded g :=
  intro (.of_error hsym) hchildren

theorem withExtra (h : x.Fielded g) (extra : Bool) (id : Nat) : (x.withExtra extra id).Fielded g :=
  intro (h.keeps.congr (by simp) (by simp) (by simp)) fun c hc => h.child (by simpa using hc)

theorem extendLookahead (h : x.Fielded g) (n : Nat) : (x.extendLookahead n).Fielded g :=
  intro (h.keeps.congr (by simp) (by simp) (by simp)) fun c hc => h.child (by simpa using hc)

/-- The root that takes the children of a node between extras keeps the node's field
    map: the extras are no part of the production the node spells. -/
theorem splice {table : ParseTable} {id : Nat} {total : Length} {pre xs : List Subtree}
    (hpre : ∀ y ∈ pre, y.isExtra = true) (hxs : ∀ y ∈ xs, y.isExtra = true)
    (hfielded : ∀ y ∈ pre ++ x :: xs, y.Fielded g) :
    (Subtree.root table id x.symbol x.production (pre ++ x.children ++ xs) total).Fielded g := by
  have hx : x.Fielded g := hfielded x (List.mem_append_right _ List.mem_cons_self)
  have hnil : ∀ l : List Subtree, (∀ y ∈ l, y.isExtra = true) →
      l.filter (fun c => !c.isExtra) = [] :=
    fun l hl => List.filter_eq_nil_iff.2 fun y hy => by simp [hl y hy]
  have hfilter : (pre ++ x.children ++ xs).filter (fun c => !c.isExtra) =
      x.children.filter fun c => !c.isExtra := by
    rw [List.filter_append, List.filter_append, hnil pre hpre, hnil xs hxs, List.nil_append,
      List.append_nil]
  refine intro ?_ fun c hc => ?_
  · rintro herr ⟨c, hc, hcx⟩
    -- the child that is not an extra is one of the node's
    have hcx' : c ∈ x.children := by
      have hmem : c ∈ (pre ++ x.children ++ xs).filter (fun c => !c.isExtra) :=
        List.mem_filter.2 ⟨by simpa using hc, by simp [hcx]⟩
      rw [hfilter] at hmem
      exact (List.mem_filter.1 hmem).1
    obtain ⟨p, prod, hp, hprod, hlhs, hspell, hf⟩ := hx.keeps (by simpa using herr) ⟨c, hcx', hcx⟩
    refine ⟨p, prod, hp, hprod, by rw [root_symbol, hlhs], ?_, by rw [root_production, hf]⟩
    rw [root_children, hfilter, hspell]
  · simp only [root_children, List.mem_append] at hc
    rcases hc with (hc | hc) | hc
    · exact hfielded c (List.mem_append_left _ hc)
    · exact hx.child hc
    · exact hfielded c (List.mem_append_right _ (List.mem_cons_of_mem _ hc))

end Fielded

/-- Trees that keep their field maps break down into trees that keep them. -/
theorem fielded_moves : ReuseCursor.Moves (Fielded g) (Fielded g) :=
  ⟨fun _ h => h, fun _ h _ hc => h.child hc⟩

end Subtree

/-! ### The invariant -/

/-- Every subtree on the stack, and every tree the reuse cursor can offer, keeps the
    field maps of its productions. -/
structure FieldInv (g : Grammar) (s : RunState) : Prop where
  stack : EntriesHold (Subtree.Fielded g) s.stack.entries
  cursor : s.reuse.Holds (Subtree.Fielded g) (Subtree.Fielded g)

variable {s s' : RunState}

theorem FieldInv.of_eq (h : FieldInv g s) (hstack : s'.stack = s.stack) (hreuse : s'.reuse = s.reuse) :
    FieldInv g s' :=
  ⟨hstack ▸ h.stack, hreuse ▸ h.cursor⟩

theorem FieldInv.withLog (h : FieldInv g s) {l : Array LogLine} : FieldInv g { s with log := l } :=
  h.of_eq rfl rfl

/-- A parse starts in the invariant when the old tree it reuses keeps its field maps. -/
theorem FieldInv.initial {options : ParseOptions} {logging : Bool} {old : Option Subtree}
    {next : Nat} (hold : ∀ o ∈ old, o.Fielded g) :
    FieldInv g (RunState.initial options logging old next) := by
  refine ⟨?_, ?_⟩
  · intro e he x hx
    simp only [RunState.initial, Stack.new, List.mem_singleton] at he
    rw [he] at hx
    cases hx
  · cases old with
    | none => exact ReuseCursor.holds_empty
    | some o => exact ReuseCursor.holds_start (hold o rfl)

section Steps

open ParseM

variable {ctx : ParseContext} {sets : ItemSets} {la : Lookahead}

/-- Shifting pushes the lookahead, with its extra flag set as asked when it is a leaf. -/
theorem FieldInv.shift (hinv : FieldInv g s) (hla : la.tree.Fielded g) {state : Nat} {extra : Bool}
    (h : (shift state la extra).exec ctx s = some (.ok ((), s'))) : FieldInv g s' := by
  obtain ⟨hstack, hreuse, -, -⟩ := exec_shift h
  refine ⟨?_, ?_⟩
  · rw [hstack]
    refine hinv.stack.pushed _ ?_
    split
    · exact hla.withExtra extra s.nextId
    · exact hla
  · rw [hreuse]
    split
    · exact hinv.cursor.advance fielded_moves
    · exact hinv.cursor

/-- A reduction the table asks for wraps the popped subtrees in a node with the field
    map of the production whose item the state holds, and that production is the one
    the popped subtrees spell. -/
theorem FieldInv.reduce (hb : ctx.table.Built g sets) (hrun : RunInv g ctx.table s)
    (hinv : FieldInv g s) {a A n f : Nat}
    (hact : ctx.table.action? s.stack.state a = some (.reduce A n f))
    (h : (ParseM.reduce A n f la.tree).exec ctx s = some (.ok ((), s'))) : FieldInv g s' := by
  obtain ⟨hreuse, -, -, k, hstack⟩ := exec_reduce h
  obtain ⟨p, prod, items, hp1, hprod, hlhs, hlen, hitems, hit, hf⟩ := hb.reduce_fieldMapId hact
  rw [Stack.state_eq_topState] at hitems
  have hpop := hrun.path.popFrom_item hb hitems hit hprod
  have hsplit := splitTrailingExtras_append (Stack.popFrom n [] s.stack.entries).1
  have hkids : ∀ c ∈ (splitTrailingExtras (Stack.popFrom n [] s.stack.entries).1).1, c.Fielded g :=
    fun c hc => hinv.stack.popFrom n c (hsplit ▸ List.mem_append_left _ hc)
  have hextras : ∀ c ∈ (splitTrailingExtras (Stack.popFrom n [] s.stack.entries).1).2, c.Fielded g :=
    fun c hc => hinv.stack.popFrom n c (hsplit ▸ List.mem_append_right _ hc)
  -- the trailing extras left out of the node are no part of the production
  have hkeeps : (Subtree.node ctx.table s.nextId A
      (splitTrailingExtras (Stack.popFrom n [] s.stack.entries).1).1 f
      (topState (Stack.popFrom n [] s.stack.entries).2)).KeepsMap g := by
    intro _ _
    refine ⟨p, prod, hp1, hprod, by rw [node_symbol, hlhs], ?_, by rw [node_production, hf]⟩
    rw [node_children, splitTrailingExtras_filter, hpop.symbols, ← hlen, List.take_length]
  have hnode := (Fielded.intro hkeeps (by simpa using hkids)).extendLookahead k
  refine ⟨?_, hreuse ▸ hinv.cursor⟩
  rw [hstack]
  simp only [Stack.popCount_eq, Stack.state_eq_topState]
  exact ((hinv.stack.popFrom_rest n).pushed _ hnode).pushAll _ hextras

/-- Skipping pushes an error node over the token, or over it and what the error node
    on top held. -/
theorem FieldInv.skipToken (hinv : FieldInv g s) {token : Subtree} (htoken : token.Fielded g)
    (h : (skipToken token).exec ctx s = some (.ok ((), s'))) : FieldInv g s' := by
  obtain ⟨hreuse, error, pos, height, base, hentries, -, hsym, hcases⟩ := exec_skipToken h
  have herror : error.Fielded g ∧ EntriesHold (Subtree.Fielded g) base := by
    rcases hcases with ⟨rfl, hwrap⟩ | ⟨top, htop, -, -, hbase, -, hchildren⟩
    · refine ⟨?_, hinv.stack⟩
      rcases hwrap with ⟨-, id, rfl⟩ | hc
      · exact htoken.withExtra true id
      · refine .of_error hsym fun c hc' => ?_
        rw [hc, List.mem_singleton] at hc'
        exact hc' ▸ htoken
    -- the error node on top is popped, and its children join the token
    · obtain ⟨e, rest, hes, hesub⟩ :
          ∃ e rest, s.stack.entries = e :: rest ∧ e.subtree = some top := by
        unfold Stack.topSubtree at htop
        cases hes : s.stack.entries with
        | nil => simp [hes] at htop
        | cons e rest => exact ⟨e, rest, rfl, by simpa [hes] using htop⟩
      have htopf : top.Fielded g := hinv.stack e (by rw [hes]; exact List.mem_cons_self) top hesub
      refine ⟨.of_error hsym fun c hc => ?_, hbase ▸ hinv.stack.pop⟩
      rcases hchildren c hc with rfl | hc | ⟨hempty, cid, rfl⟩
      · exact htoken
      · exact htopf.child hc
      · exact .of_leaf (by rw [withExtra_children, hempty])
  refine ⟨?_, hreuse ▸ hinv.cursor⟩
  rw [hentries]
  intro e he x hx
  rcases List.mem_cons.1 he with rfl | he
  · cases hx
    exact herror.1
  · exact herror.2 e he x hx

/-- A state whose stack was emptied keeps the invariant. -/
theorem FieldInv.emptied (hinv : FieldInv g s) (hentries : s'.stack.entries = s.stack.popAll.2.entries)
    (hreuse : s'.reuse = s.reuse) : FieldInv g s' :=
  ⟨hentries ▸ hinv.stack.popAll_rest, hreuse ▸ hinv.cursor⟩

/-- The error root over everything the stack holds keeps the field maps. -/
theorem FieldInv.errorRoot (hinv : FieldInv g s) (table : ParseTable) (id : Nat) (total : Length) :
    (Subtree.root table id errorSymbol 0 s.stack.popAll.1 total).Fielded g :=
  .of_error (root_symbol ..) fun c hc => hinv.stack.popAll c (by simpa using hc)

/-- Accepting empties the stack into a root that keeps the field maps. -/
theorem FieldInv.accept (hb : ctx.table.Built g sets) (hrun : RunInv g ctx.table s)
    (hinv : FieldInv g s) {a : Nat} {root : Subtree}
    (hact : ctx.table.action? s.stack.state a = some .accept)
    (h : ParseM.accept.exec ctx s = some (.ok (root, s'))) :
    FieldInv g s' ∧ root.Fielded g := by
  obtain ⟨hentries, hreuse, -⟩ := exec_accept h
  refine ⟨hinv.emptied hentries hreuse, ?_⟩
  obtain ⟨id, rfl | ⟨pre, x, xs, hall, hpre, hxs, -, -, -, rfl⟩⟩ := hrun.accept_root hb hact h
  · exact hinv.errorRoot _ _ _
  · exact Fielded.splice hpre hxs (hall ▸ hinv.stack.popAll)

/-- Breaking the reuse cursor's tree down finds a part that keeps its field maps. -/
theorem FieldInv.breakdown (hinv : FieldInv g s) {state : Nat} {found : Option Subtree}
    (h : (breakdown state).exec ctx s = some (.ok (found, s'))) :
    FieldInv g s' ∧ ∀ x ∈ found, x.Fielded g := by
  obtain ⟨hstack, hfound, hreuse⟩ := exec_breakdown h
  have hwalk := ReuseCursor.holds_breakdownWalk fielded_moves ctx state hinv.cursor
  exact ⟨⟨hstack ▸ hinv.stack, hreuse ▸ hwalk.1⟩, hfound ▸ hwalk.2⟩

theorem FieldInv.relex (hinv : FieldInv g s) {state : Nat}
    (h : (relex state).exec ctx s = some (.ok (la, s'))) : FieldInv g s' ∧ la.tree.Fielded g := by
  obtain ⟨hstack, hreuse, -, -, -, htree⟩ := exec_relex h
  exact ⟨hinv.of_eq hstack hreuse, .of_leaf (by rw [htree]; rfl)⟩

theorem FieldInv.missing (hinv : FieldInv g s) {symbol examined : Nat}
    (h : (missing symbol examined).exec ctx s = some (.ok (la, s'))) :
    FieldInv g s' ∧ la.tree.Fielded g := by
  obtain ⟨hstack, hreuse, -, -, -, htree⟩ := exec_missing h
  exact ⟨hinv.of_eq hstack hreuse, .of_leaf (by rw [htree]; rfl)⟩

/-- The next lookahead keeps its field maps: a tree the reuse walk found, or a leaf. -/
theorem FieldInv.nextLookahead (hinv : FieldInv g s)
    (h : nextLookahead.exec ctx s = some (.ok (la, s'))) : FieldInv g s' ∧ la.tree.Fielded g := by
  obtain ⟨hstack, hcases⟩ := exec_nextLookahead h
  have hwalk := ReuseCursor.holds_reuseWalk fielded_moves ctx s.stack.state s.stack.position
    s.scannerState hinv.cursor
  rcases hcases with ⟨-, hfound, hreuse, -, -⟩ | ⟨-, hreuse, -, -, htree⟩
  · exact ⟨⟨hstack ▸ hinv.stack, hreuse ▸ hwalk.1⟩, hwalk.2 _ hfound⟩
  · exact ⟨⟨hstack ▸ hinv.stack, hreuse ▸ hwalk.1⟩, .of_leaf (by rw [htree]; rfl)⟩

end Steps

/-! ### Runs -/

section Runs

open ParseM

variable {ctx : ParseContext} {sets : ItemSets}

mutual

/-- Every finished run of feeding a sound lookahead that keeps its field maps keeps the
    invariant, and a root it returns keeps its field maps. The induction follows the
    run, with `RunInv` carried alongside for the reductions and the accept. -/
theorem AdvanceRun.fieldInv (hb : ctx.table.Built g sets) :
    ∀ {la : Lookahead} {s s' : RunState} {r : Option Subtree}, AdvanceRun ctx la s r s' →
      RunInv g ctx.table s → FieldInv g s → la.Sound g → la.tree.Fielded g →
      FieldInv g s' ∧ ∀ root, r = some root → root.Fielded g
  | _, _, _, _, .shiftNode _ _ _ _ hshift, _, hinv, _, hla =>
    ⟨hinv.shift hla hshift, fun _ h => nomatch h⟩
  | _, _, _, _, .breakdownTree _ hcount _ hbreak hrun, hrinv, hinv, hsound, _ => by
    obtain ⟨hrinv₁, hreusable⟩ := hrinv.breakdown hbreak
    obtain ⟨hinv₁, hfound⟩ := hinv.breakdown hbreak
    exact AdvanceRun.fieldInv hb hrun hrinv₁ hinv₁ (hsound.part hcount (hreusable _ rfl))
      (hfound _ rfl)
  | _, _, _, _, .breakdownRelex _ _ _ hbreak hrelex hrun, hrinv, hinv, _, _ => by
    obtain ⟨hrinv₂, hsound⟩ := (hrinv.breakdown hbreak).1.relex hrelex
    obtain ⟨hinv₂, hla⟩ := (hinv.breakdown hbreak).1.relex hrelex
    exact AdvanceRun.fieldInv hb hrun hrinv₂ hinv₂ hsound hla
  | _, _, _, _, .shiftLeaf _ _ hshift, _, hinv, _, hla =>
    ⟨hinv.shift hla hshift, fun _ h => nomatch h⟩
  | _, _, _, _, .reduce hact hreduce hrun, hrinv, hinv, hsound, hla =>
    AdvanceRun.fieldInv hb hrun (hrinv.reduce hb hact hreduce) (hinv.reduce hb hrinv hact hreduce)
      hsound hla
  | _, _, _, _, .accept hact haccept, hrinv, hinv, _, _ => by
    obtain ⟨hinv', hroot⟩ := hinv.accept hb hrinv hact haccept
    exact ⟨hinv', fun _ h => Option.some.inj h ▸ hroot⟩
  | _, _, _, _, .relexReused _ _ hrelex hrun, hrinv, hinv, _, _ => by
    obtain ⟨hrinv₁, hsound⟩ := hrinv.relex hrelex
    obtain ⟨hinv₁, hla⟩ := hinv.relex hrelex
    exact AdvanceRun.fieldInv hb hrun hrinv₁ hinv₁ hsound hla
  | _, _, _, _, .skipError _ _ _ hskip, _, hinv, _, hla =>
    ⟨hinv.withLog.skipToken hla hskip, fun _ h => nomatch h⟩
  | _, _, _, _, .insert _ hreused _ hchoose hmissing hrun₁ hrun₂, hrinv, hinv, hsound, hla => by
    -- choosing a repair changes nothing but the log
    have hs₂ := exec_chooseFor hchoose
    have hrinv₂ : RunInv g ctx.table _ := hs₂.symm ▸ hrinv.withLog
    have hinv₂ : FieldInv g _ := hs₂.symm ▸ hinv.withLog
    obtain ⟨hrinv₃, hm⟩ := hrinv₂.missing hmissing
    obtain ⟨hinv₃, hmf⟩ := hinv₂.missing hmissing
    have hrinv₄ := (hrun₁.runInv hb hrinv₃ hm).1
    have hinv₄ := (AdvanceRun.fieldInv hb hrun₁ hrinv₃ hinv₃ hm hmf).1
    have hleaf := hsound.2 hreused
    exact AdvanceRun.fieldInv hb hrun₂ (hrinv₄.of_eq rfl rfl) (hinv₄.of_eq rfl rfl)
      (Lookahead.sound_fresh hleaf (hsound.1.leaf hleaf)) hla
  | _, _, _, _, .delete _ _ _ hchoose hskip, _, hinv, _, hla => by
    have hinv₂ : FieldInv g _ := (exec_chooseFor hchoose).symm ▸ hinv.withLog
    exact ⟨hinv₂.skipToken hla hskip, fun _ h => nomatch h⟩
  | _, _, _, _, .complete _ hreused _ hchoose _ hinserts hrun, hrinv, hinv, hsound, hla => by
    have hs₂ := exec_chooseFor hchoose
    have hrinv₂ : RunInv g ctx.table _ := hs₂.symm ▸ hrinv.withLog
    have hinv₂ : FieldInv g _ := hs₂.symm ▸ hinv.withLog
    have hleaf := hsound.2 hreused
    exact AdvanceRun.fieldInv hb hrun (hinserts.runInv hb hrinv₂)
      (InsertsRun.fieldInv hb hinserts hrinv₂ hinv₂)
      (Lookahead.sound_fresh hleaf (hsound.1.leaf hleaf)) hla
  | _, _, _, _, .recoverEof _ _ _ hchoose _, _, hinv, _, _ => by
    have hinv₂ : FieldInv g _ := (exec_chooseFor hchoose).symm ▸ hinv.withLog
    exact ⟨hinv₂.emptied rfl rfl, fun _ h => Option.some.inj h ▸ hinv₂.errorRoot _ _ _⟩

/-- Feeding assumed tokens one after another keeps the invariant. -/
theorem InsertsRun.fieldInv (hb : ctx.table.Built g sets) :
    ∀ {examinedEnd : Nat} {path : List Nat} {s s' : RunState},
      InsertsRun ctx examinedEnd path s s' → RunInv g ctx.table s → FieldInv g s → FieldInv g s'
  | _, _, _, _, .nil, _, hinv => hinv
  | _, _, _, _, .cons hmissing hrun hrest, hrinv, hinv => by
    obtain ⟨hrinv₁, hm⟩ := hrinv.missing hmissing
    obtain ⟨hinv₁, hmf⟩ := hinv.missing hmissing
    have hrinv₂ := (hrun.runInv hb hrinv₁ hm).1
    have hinv₂ := (AdvanceRun.fieldInv hb hrun hrinv₁ hinv₁ hm hmf).1
    exact InsertsRun.fieldInv hb hrest (hrinv₂.of_eq rfl rfl) (hinv₂.of_eq rfl rfl)

end

/-- Every finished parse loop keeps the invariant and returns a root that keeps its
    field maps. -/
theorem LoopRun.fieldInv (hb : ctx.table.Built g sets) {s s' : RunState} {root : Subtree}
    (h : LoopRun ctx s root s') (hrinv : RunInv g ctx.table s) (hinv : FieldInv g s) :
    FieldInv g s' ∧ root.Fielded g := by
  induction h with
  | last hround =>
    obtain ⟨la, s₁, hla, hrun⟩ := round_run hround
    obtain ⟨hrinv₁, hsound⟩ := hrinv.nextLookahead hla
    obtain ⟨hinv₁, hfielded⟩ := hinv.nextLookahead hla
    obtain ⟨hinv', hroot⟩ := hrun.fieldInv hb hrinv₁ hinv₁ hsound hfielded
    exact ⟨hinv', hroot _ rfl⟩
  | next hround _ ih =>
    obtain ⟨la, s₁, hla, hrun⟩ := round_run hround
    obtain ⟨hrinv₁, hsound⟩ := hrinv.nextLookahead hla
    obtain ⟨hinv₁, hfielded⟩ := hinv.nextLookahead hla
    exact ih (hrun.runInv hb hrinv₁ hsound).1 (hrun.fieldInv hb hrinv₁ hinv₁ hsound hfielded).1

end Runs

/-- A parse with a built table, reusing a derived root that keeps its field maps if
    any, returns a root that keeps its field maps. -/
theorem parseText_fielded {t : ParseTable} {sets : ItemSets} (hb : t.Built g sets)
    {options : ParseOptions} {logging : Bool} {input : ByteArray} {old : Option Subtree}
    {next next' : Nat} {root : Subtree} {log : Array LogLine}
    (hold : ∀ o ∈ old, o.DerivedRoot g ∧ o.Fielded g)
    (h : parseText t options logging input old next = some (.ok (root, log, next'))) :
    root.Fielded g := by
  obtain ⟨s', hrun⟩ := LoopRun.of_parseText h
  exact (hrun.fieldInv hb (RunInv.initial fun o ho => (hold o ho).1)
    (FieldInv.initial fun o ho => (hold o ho).2)).2

end IncrementalLR
