import IncrementalLR.Proofs.Tree.Derived
import IncrementalLR.Tree.Edit

/-!
# Edits keep derivations

An edit only moves text: it changes the padding, size and identity of the nodes it touches
and keeps their symbols, flags, states and leftmost leaves, and it keeps every list of
children as long as it was.
-/

namespace IncrementalLR

namespace Subtree

/-- What a parent's production reads of a child: its symbol and whether it is an extra. -/
def view (x : Subtree) : Nat × Bool := (x.symbol, x.isExtra)

variable {g : Grammar}

theorem extra_of_views {o o' : Option Subtree} (hv : o'.map view = o.map view)
    (h : ∀ x ∈ o, x.isExtra = false) : ∀ x ∈ o', x.isExtra = false := by
  intro x hx
  rw [Option.mem_def] at hx
  subst hx
  cases o with
  | none => simp at hv
  | some y =>
    simp only [Option.map_some, Option.some.injEq, view, Prod.mk.injEq] at hv
    rw [hv.2]
    exact h y rfl

theorem symbols_of_views {cs cs' : List Subtree} (hv : cs'.map view = cs.map view) :
    (cs'.filter fun x => !x.isExtra).map symbol = (cs.filter fun x => !x.isExtra).map symbol := by
  induction cs generalizing cs' with
  | nil => simp_all
  | cons c cs ih =>
    cases cs' with
    | nil => simp at hv
    | cons c' cs' =>
      simp only [List.map_cons, List.cons.injEq, view, Prod.mk.injEq] at hv
      obtain ⟨⟨hsym, hextra⟩, hv⟩ := hv
      simp only [List.filter_cons, hextra]
      split <;> simp [hsym, ih hv]

end Subtree

/-- Children with the same views instantiate the same productions. -/
theorem Grammar.Instance.of_views {g : Grammar} {A : Nat} {cs cs' : List Subtree}
    (h : g.Instance A cs) (hv : cs'.map Subtree.view = cs.map Subtree.view) :
    g.Instance A cs' where
  spells := by simpa only [Subtree.symbols_of_views hv] using h.spells
  first := Subtree.extra_of_views (by rw [← List.head?_map, hv, List.head?_map]) h.first
  last := Subtree.extra_of_views (by rw [← List.getLast?_map, hv, List.getLast?_map]) h.last

namespace Subtree

variable {g : Grammar} {x y : Subtree}

/-- A node read the same way as a derivation, with the same views of its children and
    derivations as children, is a derivation. -/
theorem Derived.of_views (h : x.Derived g) (hsym : y.symbol = x.symbol)
    (hextra : y.isExtra = x.isExtra) (hleaf : y.leafSymbol = x.leafSymbol)
    (hv : y.children.map view = x.children.map view) (hcs : ∀ c ∈ y.children, c.Derived g) :
    y.Derived g := by
  have hnil : y.children = [] ↔ x.children = [] := by
    rw [← List.map_eq_nil_iff (f := view), hv, List.map_eq_nil_iff]
  refine .intro (fun hy => ?_) (fun hy herr => ?_) hcs
  · rw [hleaf, hsym]
    exact h.leaf (hnil.1 hy)
  · rw [hsym] at herr ⊢
    obtain ⟨hx, hinst⟩ := h.node (fun hx => hy (hnil.2 hx)) herr
    exact ⟨hextra.trans hx, hinst.of_views hv⟩

/-- The same for the root of a parse, which keeps its state instead of its extra flag. -/
theorem DerivedRoot.of_views (h : x.DerivedRoot g) (hsym : y.symbol = x.symbol)
    (hstate : y.parseState = x.parseState) (hleaf : y.leafSymbol = x.leafSymbol)
    (hv : y.children.map view = x.children.map view) (hcs : ∀ c ∈ y.children, c.Derived g) :
    y.DerivedRoot g where
  parseState := hstate.trans h.parseState
  leaf hy := by
    have hx : x.children = [] := by
      rw [← List.map_eq_nil_iff (f := view), ← hv, List.map_eq_nil_iff]
      exact hy
    rw [hleaf, hsym]
    exact h.leaf hx
  children := hcs
  start herr := by
    rw [hsym] at herr ⊢
    rw [symbols_of_views hv]
    exact h.start herr

/-- An edit rebuilds a node with the same symbol, flags, state and leftmost leaf, and
    either its children or the children with the edit passed on to them. -/
theorem editLocal_fst (x : Subtree) (e : LocalEdit) (next : Nat) :
    ∃ i cs, (x.editLocal e next).1 = mk i cs ∧ i.symbol = x.symbol ∧ i.extra = x.isExtra ∧
      i.parseState = x.parseState ∧ i.firstLeaf = x.info.firstLeaf ∧
      (cs = x.children ∨ ∃ f padding ins next',
        cs = (editChildren f padding ins x.children e Length.zero 0 next').1) := by
  obtain ⟨i, cs⟩ := x
  unfold editLocal
  dsimp only
  split
  · exact ⟨i, cs, rfl, rfl, rfl, rfl, rfl, .inl rfl⟩
  · exact ⟨_, _, rfl, rfl, rfl, rfl, rfl, .inr ⟨_, _, _, _, rfl⟩⟩

theorem leafSymbol_mk {i : NodeInfo} {cs : List Subtree} (hsym : i.symbol = x.symbol)
    (hfirst : i.firstLeaf = x.info.firstLeaf) : (mk i cs).leafSymbol = x.leafSymbol := by
  unfold leafSymbol
  rw [info_mk, hfirst]
  split
  · rfl
  · exact hsym

/-- Derivations as children stay derivations, with the same views, under an edit. -/
def ChildrenKept (g : Grammar) (cs cs' : List Subtree) : Prop :=
  (∀ c ∈ cs', c.Derived g) ∧ cs'.map view = cs.map view

theorem ChildrenKept.cons {c c' : Subtree} {rest rest' : List Subtree}
    (hc : c'.Derived g ∧ c'.view = c.view) (hrest : ChildrenKept g rest rest') :
    ChildrenKept g (c :: rest) (c' :: rest') := by
  refine ⟨?_, by rw [List.map_cons, List.map_cons, hc.2, hrest.2]⟩
  rintro x (_ | ⟨_, hx⟩)
  · exact hc.1
  · exact hrest.1 x hx

/-- A derivation rebuilt by an edit whose children are kept is a derivation with the
    same view. -/
theorem Derived.editLocal_of_children (h : x.Derived g) (e : LocalEdit) (next : Nat)
    (hcs : ChildrenKept g x.children (x.editLocal e next).1.children) :
    (x.editLocal e next).1.Derived g ∧ (x.editLocal e next).1.view = x.view := by
  obtain ⟨i, cs, heq, hsym, hextra, -, hfirst, -⟩ := editLocal_fst x e next
  rw [heq] at hcs ⊢
  exact ⟨h.of_views hsym hextra (leafSymbol_mk hsym hfirst) hcs.2 hcs.1,
    by rw [view, view, ← hsym, ← hextra]; rfl⟩

mutual

/-- An edit keeps the children of a node with derivations as children. -/
theorem editLocal_childrenKept : ∀ (x : Subtree) (e : LocalEdit) (next : Nat),
    (∀ c ∈ x.children, c.Derived g) → ChildrenKept g x.children (x.editLocal e next).1.children
  | .mk i cs, e, next, h => by
    obtain ⟨i', cs', heq, -, -, -, -, hcs⟩ := editLocal_fst (mk i cs) e next
    rw [heq, children_mk]
    rcases hcs with rfl | ⟨f, padding, ins, next', rfl⟩
    · exact ⟨h, rfl⟩
    · exact editChildren_childrenKept cs f padding ins e Length.zero 0 next' h

/-- Passing an edit on to derivations keeps them, with their views. -/
theorem editChildren_childrenKept : ∀ (cs : List Subtree) (f : Bool) (padding : Length)
    (ins : Bool) (e : LocalEdit) (left : Length) (index next : Nat), (∀ c ∈ cs, c.Derived g) →
    ChildrenKept g cs (editChildren f padding ins cs e left index next).1
  | [], _, _, _, _, _, _, _, _ => by simp [editChildren, ChildrenKept]
  | c :: rest, f, padding, ins, e, left, index, next, h => by
    have hc : c.Derived g := h c List.mem_cons_self
    have hrest : ∀ x ∈ rest, x.Derived g := fun x hx => h x (List.mem_cons_of_mem c hx)
    unfold editChildren
    dsimp only
    -- the child is before the edit, after it, or touched by it
    split
    · exact .cons ⟨hc, rfl⟩ (editChildren_childrenKept rest f padding ins e _ _ next hrest)
    · split
      · exact ⟨h, rfl⟩
      · exact .cons
          (hc.editLocal_of_children _ next (editLocal_childrenKept c _ next fun _ => hc.child))
          (editChildren_childrenKept rest f padding ins _ _ _ _ hrest)

end

/-- An edit keeps a derivation a derivation. -/
theorem Derived.editLocal (h : x.Derived g) (e : LocalEdit) (next : Nat) :
    (x.editLocal e next).1.Derived g :=
  (h.editLocal_of_children e next (editLocal_childrenKept x e next fun _ => h.child)).1

/-- An edit keeps the root of a parse the root of a parse. -/
theorem DerivedRoot.editLocal (h : x.DerivedRoot g) (e : LocalEdit) (next : Nat) :
    (x.editLocal e next).1.DerivedRoot g := by
  have hcs := editLocal_childrenKept x e next h.children
  obtain ⟨i, cs, heq, hsym, -, hstate, hfirst, -⟩ := editLocal_fst x e next
  rw [heq] at hcs ⊢
  exact h.of_views hsym hstate (leafSymbol_mk hsym hfirst) hcs.2 hcs.1

/-- Folding the padding of a root into its size keeps it the root of a parse. -/
theorem DerivedRoot.intoRoot (h : x.DerivedRoot g) (id : Nat) : (x.intoRoot id).DerivedRoot g := by
  unfold Subtree.intoRoot
  split
  · exact h
  · exact h.of_views rfl rfl (leafSymbol_mk rfl rfl) rfl h.children

end Subtree

/-- An edited tree is the root of a parse whenever the tree before the edit was. -/
theorem SyntaxTree.edit_derivedRoot {g : Grammar} (t : SyntaxTree) (e : Edit) (next : Nat)
    (h : t.root.DerivedRoot g) : (t.edit e next).1.root.DerivedRoot g :=
  (h.editLocal _ next).intoRoot _

end IncrementalLR
