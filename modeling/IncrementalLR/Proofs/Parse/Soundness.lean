import IncrementalLR.Proofs.Parse.Invariant
import IncrementalLR.Proofs.Tree.Edit
import IncrementalLR.Proofs.Parse.Language

/-!
# Parsing with a built table follows the automaton

With a table built from a grammar, the stack of a parse is at every step a path of the
grammar's LR(0) automaton from the start state, and what the parse builds is a derivation of
the grammar.
-/

namespace IncrementalLR

/-- What parses with the table `t` of grammar `g` keep and return. -/
structure ParseTable.KeepsLRPath (t : ParseTable) (g : Grammar) : Prop where
  /-- A parse starts in the invariant when the tree it reuses is a derived root. -/
  initial : ∀ (options : ParseOptions) (logging : Bool) (old : Option Subtree) (next : Nat),
    (∀ o ∈ old, o.DerivedRoot g) → RunInv g t (RunState.initial options logging old next)
  /-- Every finished run of feeding a sound lookahead keeps the invariant, and a root it
      returns is a derived root. -/
  step : ∀ (ctx : ParseContext) (la : Lookahead) (s s' : RunState) (r : Option Subtree),
    ctx.table = t → AdvanceRun ctx la s r s' → RunInv g t s → la.Sound g →
      RunInv g t s' ∧ ∀ root, r = some root → root.DerivedRoot g
  /-- In the invariant, a reduction pops the subtrees of a right side of its symbol,
      extras aside, and the state below them has a goto on the symbol. -/
  reduce : ∀ (s : RunState) (a A n production : Nat), RunInv g t s →
    t.action? s.stack.state a = some (.reduce A n production) →
      (∃ p prod, 1 ≤ p ∧ g.productions[p]? = some prod ∧ prod.lhs = A ∧ prod.rhs.length = n ∧
        ((s.stack.popCount n).1.filter fun x => !x.isExtra).map Subtree.symbol = prod.rhs) ∧
      t.goto (s.stack.popCount n).2.state A ≠ 0
  /-- In the invariant, no stack entry is in the error state. -/
  noErrorState : ∀ s : RunState, RunInv g t s → ∀ e ∈ s.stack.entries, e.state ≠ errorState
  /-- A parse that reuses a derived root, if any, returns a derived root. -/
  result : ∀ (options : ParseOptions) (logging : Bool) (input : ByteArray) (old : Option Subtree)
    (next next' : Nat) (root : Subtree) (log : Array LogLine), (∀ o ∈ old, o.DerivedRoot g) →
    parseText t options logging input old next = some (.ok (root, log, next')) →
      root.DerivedRoot g
  /-- An edit of a derived root is a derived root, ready to be reused. -/
  edit : ∀ (tree : SyntaxTree) (e : Edit) (next : Nat), tree.root.DerivedRoot g →
    (tree.edit e next).1.root.DerivedRoot g

/-- Every table built from a grammar through its sound automaton keeps the stack of every
    parse a path of the automaton, and every parse returns a derivation of the grammar. -/
theorem parse_keeps_lr_path {t : ParseTable} {g : Grammar} {sets : ItemSets}
    (hb : t.Built g sets) : t.KeepsLRPath g where
  initial _ _ _ _ hold := RunInv.initial hold
  step ctx _ _ _ _ hctx hrun hinv hla := by
    subst hctx
    exact hrun.runInv hb hinv hla
  reduce _ _ _ _ _ hinv hact := hinv.reduce_pops hb hact
  noErrorState _ hinv e he := Nat.pos_iff_ne_zero.1 (hinv.path.state_pos hb e he)
  result _ _ _ _ _ _ _ _ hold h := parseText_derivedRoot hb hold h
  edit tree e next h := tree.edit_derivedRoot e next h

/-- The sample's table keeps every parse on the path of its automaton: its parse of
    ` a ab c c`, and the parse of the same text that reuses that tree, both return derived
    roots. -/
theorem parse_keeps_lr_path_sample :
    ∃ g sets, ParseTable.sample.Built g sets ∧ ParseTable.sample.KeepsLRPath g ∧
      ∃ root log next root' log' next',
        parseText ParseTable.sample ParseOptions.standard false sampleText none 0 =
          some (.ok (root, log, next)) ∧
        parseText ParseTable.sample ParseOptions.standard false sampleText (some root) next =
          some (.ok (root', log', next')) ∧
        root.DerivedRoot g ∧ root'.DerivedRoot g := by
  obtain ⟨g, sets, hb⟩ := GrammarSpec.build_built GrammarSpec.build_sample
  have hkeeps := parse_keeps_lr_path hb
  have hrun : (parseText ParseTable.sample ParseOptions.standard false sampleText none 0).any
      (returnsWith fun r : Subtree × Array LogLine × Nat =>
        (parseText ParseTable.sample ParseOptions.standard false sampleText (some r.1) r.2.2).any
          (returnsWith fun _ => true)) = true := by
    decide +kernel
  obtain ⟨⟨root, log, next⟩, hfresh, hagain⟩ := exists_of_any_returnsWith hrun
  obtain ⟨⟨root', log', next'⟩, hreuse, -⟩ := exists_of_any_returnsWith hagain
  have hroot := hkeeps.result _ _ _ none _ _ _ _ (fun _ h => absurd h (Option.not_mem_none _)) hfresh
  exact ⟨g, sets, hb, hkeeps, root, log, next, root', log', next', hfresh, hreuse, hroot,
    hkeeps.result _ _ _ (some root) _ _ _ _ (fun o ho => Option.mem_some_iff.1 ho ▸ hroot) hreuse⟩

end IncrementalLR
