import IncrementalLR.Proofs.Tree.Shape
import IncrementalLR.Grammar.Productions
import IncrementalLR.Parse.Stack

/-!
# Derivation trees

The trees the parser builds are derivations of the grammar the table was built from.
-/

namespace IncrementalLR

/-- Children that instantiate a production of `A` other than the augmented one: those
    that are not extras spell its right side, and the first and the last child are not
    extras. -/
structure Grammar.Instance (g : Grammar) (A : Nat) (cs : List Subtree) : Prop where
  spells : ∃ p prod, 1 ≤ p ∧ g.productions[p]? = some prod ∧ prod.lhs = A ∧
    (cs.filter fun x => !x.isExtra).map Subtree.symbol = prod.rhs
  first : ∀ x ∈ cs.head?, x.isExtra = false
  last : ∀ x ∈ cs.getLast?, x.isExtra = false

namespace Subtree

/-- A derivation of the grammar `g`: a leaf is seen by its own symbol, and a node with
    children that is not an error node is not an extra and instantiates a production
    of its symbol. -/
inductive Derived (g : Grammar) : Subtree → Prop
  | mk {i : NodeInfo} {cs : List Subtree} :
      (cs = [] → (Subtree.mk i cs).leafSymbol = i.symbol) →
      (cs ≠ [] → i.symbol ≠ errorSymbol → i.extra = false ∧ g.Instance i.symbol cs) →
      (∀ c ∈ cs, Derived g c) → Derived g (.mk i cs)

/-- The root of a parse: built in state 0, seen by its own symbol when it has no
    children, with derivations as children, and, unless it is an error, of the start
    symbol, its children that are not extras spelling a production of it. -/
structure DerivedRoot (g : Grammar) (x : Subtree) : Prop where
  parseState : x.parseState = 0
  leaf : x.children = [] → x.leafSymbol = x.symbol
  children : ∀ c ∈ x.children, c.Derived g
  start : x.symbol ≠ errorSymbol → x.symbol = g.startSymbol ∧
    ∃ p prod, 1 ≤ p ∧ g.productions[p]? = some prod ∧ prod.lhs = g.startSymbol ∧
      (x.children.filter fun c => !c.isExtra).map Subtree.symbol = prod.rhs

variable {g : Grammar} {x : Subtree}

namespace Derived

theorem intro (hleaf : x.children = [] → x.leafSymbol = x.symbol)
    (hnode : x.children ≠ [] → x.symbol ≠ errorSymbol → x.isExtra = false ∧ g.Instance x.symbol x.children)
    (hchildren : ∀ c ∈ x.children, c.Derived g) : x.Derived g := by
  cases x
  exact .mk hleaf hnode hchildren

theorem leaf (h : x.Derived g) (hx : x.children = []) : x.leafSymbol = x.symbol := by
  cases h with
  | mk hleaf _ _ => exact hleaf hx

theorem node (h : x.Derived g) (hx : x.children ≠ []) (herr : x.symbol ≠ errorSymbol) :
    x.isExtra = false ∧ g.Instance x.symbol x.children := by
  cases h with
  | mk _ hnode _ => exact hnode hx herr

theorem child (h : x.Derived g) {c : Subtree} (hc : c ∈ x.children) : c.Derived g := by
  cases h with
  | mk _ _ hchildren => exact hchildren c hc

/-- Widening what a node examined keeps it a derivation. -/
theorem extendLookahead (h : x.Derived g) (n : Nat) : (x.extendLookahead n).Derived g := by
  refine intro (fun hx => ?_) (fun hx herr => ?_) (fun c hc => ?_)
  · simp only [extendLookahead_children, extendLookahead_leafSymbol,
      extendLookahead_symbol] at hx ⊢
    exact h.leaf hx
  · simp only [extendLookahead_children, extendLookahead_isExtra,
      extendLookahead_symbol] at hx herr ⊢
    exact h.node hx herr
  · rw [extendLookahead_children] at hc
    exact h.child hc

end Derived

/-- A leaf seen by its own symbol is a derivation. -/
theorem derived_of_leaf (hx : x.children = []) (hleaf : x.leafSymbol = x.symbol) :
    x.Derived g :=
  .intro (fun _ => hleaf) (fun h => absurd hx h) (fun c hc => by simp [hx] at hc)

/-- A leaf stays a derivation whatever its extra flag. -/
theorem derived_withExtra_of_leaf (h : x.Derived g) (hx : x.children = []) (extra : Bool)
    (id : Nat) : (x.withExtra extra id).Derived g :=
  derived_of_leaf (by rw [withExtra_children, hx]) (by simpa using h.leaf hx)

theorem derived_ofToken (table : ParseTable) (id : Nat) (token : Token) (parseState : Nat) :
    (ofToken table id token parseState).Derived g :=
  derived_of_leaf (ofToken_children ..) (ofToken_leafSymbol ..)

theorem derived_missingLeaf (table : ParseTable) (id symbol parseState : Nat) :
    (missingLeaf table id symbol parseState).Derived g :=
  derived_of_leaf (missingLeaf_children ..) (missingLeaf_leafSymbol ..)

/-- A node whose children instantiate a production of its symbol is a derivation. -/
theorem derived_node {table : ParseTable} {id A production parseState : Nat}
    {cs : List Subtree} (hinst : g.Instance A cs) (hcs : ∀ c ∈ cs, c.Derived g) :
    (node table id A cs production parseState).Derived g := by
  refine .intro (fun hx => leafSymbol_of_firstLeaf_none ?_) (fun _ _ => ⟨rfl, hinst⟩) hcs
  rw [node_children] at hx
  simp [hx]

/-- An error node with derivations as children is a derivation, whatever they are. -/
theorem derived_of_error (hsym : x.symbol = errorSymbol) (hx : x.children ≠ [])
    (hcs : ∀ c ∈ x.children, c.Derived g) : x.Derived g :=
  .intro (fun h => absurd h hx) (fun _ herr => absurd hsym herr) hcs

/-- A root whose children are derivations, and that is an error or spells a
    production of the start symbol, is a derived root. -/
theorem derivedRoot_root {table : ParseTable} {id symbol production : Nat} {cs : List Subtree}
    {total : Length} (hcs : ∀ c ∈ cs, c.Derived g)
    (hstart : symbol ≠ errorSymbol → symbol = g.startSymbol ∧
      ∃ p prod, 1 ≤ p ∧ g.productions[p]? = some prod ∧ prod.lhs = g.startSymbol ∧
        (cs.filter fun c => !c.isExtra).map Subtree.symbol = prod.rhs) :
    (root table id symbol production cs total).DerivedRoot g where
  parseState := root_parseState ..
  leaf hx := leafSymbol_of_firstLeaf_none (by rw [root_children] at hx; simp [hx])
  children := by simpa using hcs
  start := by simpa using hstart

/-- A tree offered for reuse: a derivation, or the root of an old parse. -/
def Reusable (g : Grammar) (x : Subtree) : Prop := x.Derived g ∨ x.DerivedRoot g

theorem Reusable.child (h : x.Reusable g) {c : Subtree} (hc : c ∈ x.children) : c.Derived g :=
  h.elim (fun h => h.child hc) (fun h => h.children c hc)

theorem Reusable.leaf (h : x.Reusable g) (hx : x.children = []) : x.leafSymbol = x.symbol :=
  h.elim (fun h => h.leaf hx) (fun h => h.leaf hx)

/-- A reusable tree that was not built in state 0 is a derivation. -/
theorem Reusable.derived (h : x.Reusable g) (hstate : x.parseState ≠ 0) : x.Derived g :=
  h.elim (fun h => h) (fun h => absurd h.parseState hstate)

end Subtree

/-! ### Trailing extras -/

section Trailing

variable (cs : List Subtree)

theorem splitTrailingExtras_fst :
    (splitTrailingExtras cs).1 = (cs.reverse.dropWhile (·.isExtra)).reverse := by
  have hsplit := List.takeWhile_append_dropWhile (p := (·.isExtra)) (l := cs.reverse)
  have hcs : cs = (cs.reverse.dropWhile (·.isExtra)).reverse ++
      (cs.reverse.takeWhile (·.isExtra)).reverse := by
    rw [← List.reverse_append, hsplit, List.reverse_reverse]
  have hlen : cs.length - (cs.reverse.takeWhile (·.isExtra)).reverse.length =
      (cs.reverse.dropWhile (·.isExtra)).reverse.length := by
    have := congrArg List.length hcs
    simp only [List.length_append, List.length_reverse] at this ⊢
    omega
  unfold splitTrailingExtras
  dsimp only
  calc cs.take (cs.length - (cs.reverse.takeWhile (·.isExtra)).reverse.length)
      = ((cs.reverse.dropWhile (·.isExtra)).reverse ++ (cs.reverse.takeWhile (·.isExtra)).reverse).take
          (cs.reverse.dropWhile (·.isExtra)).reverse.length := by rw [hlen, ← hcs]
    _ = (cs.reverse.dropWhile (·.isExtra)).reverse := List.take_left' rfl

theorem splitTrailingExtras_append :
    (splitTrailingExtras cs).1 ++ (splitTrailingExtras cs).2 = cs := by
  rw [splitTrailingExtras_fst]
  unfold splitTrailingExtras
  dsimp only
  rw [← List.reverse_append, List.takeWhile_append_dropWhile, List.reverse_reverse]

/-- The children split off are extras. -/
theorem splitTrailingExtras_snd_extra : ∀ x ∈ (splitTrailingExtras cs).2, x.isExtra = true := by
  intro x hx
  unfold splitTrailingExtras at hx
  have hall := List.all_takeWhile (p := (·.isExtra)) (l := cs.reverse)
  exact List.all_eq_true.1 hall x (List.mem_reverse.1 hx)

/-- The children kept end with one that is not an extra. -/
theorem splitTrailingExtras_fst_last :
    ∀ x ∈ (splitTrailingExtras cs).1.getLast?, x.isExtra = false := by
  intro x hx
  rw [splitTrailingExtras_fst, List.getLast?_reverse] at hx
  have hnot := List.head?_dropWhile_not (·.isExtra) cs.reverse
  rw [Option.mem_def.1 hx] at hnot
  exact hnot

/-- Splitting off extras keeps the children that are not extras. -/
theorem splitTrailingExtras_filter :
    (splitTrailingExtras cs).1.filter (fun x => !x.isExtra) = cs.filter fun x => !x.isExtra := by
  have htrail : (splitTrailingExtras cs).2.filter (fun x => !x.isExtra) = [] :=
    List.filter_eq_nil_iff.2 fun x hx => by simp [splitTrailingExtras_snd_extra cs x hx]
  conv => rhs; rw [← splitTrailingExtras_append cs]
  rw [List.filter_append, htrail, List.append_nil]

/-- A first child that is not an extra stays first. -/
theorem splitTrailingExtras_head {x : Subtree} {rest : List Subtree} (hx : x.isExtra = false) :
    (splitTrailingExtras (x :: rest)).1.head? = some x := by
  have happ := splitTrailingExtras_append (x :: rest)
  cases hkids : (splitTrailingExtras (x :: rest)).1 with
  | nil =>
    rw [hkids, List.nil_append] at happ
    have := splitTrailingExtras_snd_extra (x :: rest) x (by rw [happ]; exact List.mem_cons_self)
    rw [hx] at this
    cases this
  | cons y ys =>
    rw [hkids, List.cons_append, List.cons.injEq] at happ
    rw [happ.1]
    rfl

end Trailing

end IncrementalLR
