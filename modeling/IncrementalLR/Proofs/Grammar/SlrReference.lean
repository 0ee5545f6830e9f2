import Mathlib.Data.Set.Defs
import IncrementalLR.Grammar.ItemSets
import IncrementalLR.Proofs.Grammar.WellFormed

/-!
# The SLR(1) table, as the textbook builds it

The construction that the table builder follows, stated without any of its bookkeeping: no
sorted lists, change flags, fuel, queues or kernel indexes.
-/

namespace IncrementalLR.Grammar

variable (g : Grammar)

/-! ### Least solutions of the set equations -/

/-- The nullable symbols: left sides of productions whose right sides are all nullable. -/
inductive Nullable : Nat → Prop
  | rule {p : Nat} {prod : Production} : 1 ≤ p → g.productions[p]? = some prod →
      (∀ X ∈ prod.rhs, Nullable X) → Nullable prod.lhs

/-- `First X a`: terminal `a` can begin what `X` derives. A terminal begins itself; a
    production begins with what one of its symbols begins, past a nullable prefix. -/
inductive First : Nat → Nat → Prop
  | terminal {a : Nat} : a < g.tokenCount → First a a
  | rule {p i X a : Nat} {prod : Production} : 1 ≤ p → g.productions[p]? = some prod →
      (∀ Y ∈ prod.rhs.take i, g.Nullable Y) → prod.rhs[i]? = some X → First X a →
      First prod.lhs a

/-- Terminal `a` can begin what the string `β` derives. -/
def FirstSeq (β : List Nat) (a : Nat) : Prop :=
  ∃ i X, (∀ Y ∈ β.take i, g.Nullable Y) ∧ β[i]? = some X ∧ g.First X a

/-- `Follow X a`: terminal `a` can come right after nonterminal `X`. The end of the input
    follows the start symbol; a nonterminal of a right side is followed by what the rest
    of the side begins with and, when the rest is nullable, by what follows the left
    side. -/
inductive Follow : Nat → Nat → Prop
  | start : Follow g.startSymbol endSymbol
  | first {p i X a : Nat} {prod : Production} : 1 ≤ p → g.productions[p]? = some prod →
      prod.rhs[i]? = some X → g.tokenCount ≤ X → g.FirstSeq (prod.rhs.drop (i + 1)) a →
      Follow X a
  | inherit {p i X a : Nat} {prod : Production} : 1 ≤ p → g.productions[p]? = some prod →
      prod.rhs[i]? = some X → g.tokenCount ≤ X → (∀ Y ∈ prod.rhs.drop (i + 1), g.Nullable Y) →
      Follow prod.lhs a → Follow X a

/-! ### The canonical LR(0) collection -/

/-- The LR(0) closure of a set of items: with an item whose dot stands before a
    nonterminal, every production of that nonterminal with the dot at the start. -/
inductive Closure (K : Set LrItem) : LrItem → Prop
  | kernel {it : LrItem} : it ∈ K → Closure K it
  | predict {it : LrItem} {q : Nat} {prod : Production} : Closure K it → 1 ≤ q →
      g.productions[q]? = some prod → g.next? it = some prod.lhs → Closure K (q, 0)

/-- The items of `I` with their dot moved over `X`. -/
def moved (I : Set LrItem) (X : Nat) : Set LrItem :=
  {it | ∃ it₀ ∈ I, g.next? it₀ = some X ∧ it = (it₀.1, it₀.2 + 1)}

/-- The LR(0) goto of `I` on `X`: the closure of its items with the dot moved over `X`. -/
def lrGoto (I : Set LrItem) (X : Nat) : Set LrItem := g.Closure (g.moved I X)

/-- The canonical LR(0) collection: the closure of the augmented start item, and every
    goto of a set of the collection on a symbol that some dot of the set stands before. -/
inductive Canonical : Set LrItem → Prop
  | start : Canonical (g.Closure {(0, 0)})
  | goto {I : Set LrItem} {X : Nat} : Canonical I → (g.moved I X).Nonempty →
      Canonical (g.lrGoto I X)

/-! ### The cells -/

/-- An action of the SLR(1) table, whose states are item sets. -/
inductive SlrAction where
  | shift (target : Set LrItem)
  | reduce (production : Nat)
  | accept

/-- The actions of the SLR(1) table in the cell of item set `I` and terminal `a`. -/
inductive SlrCell (I : Set LrItem) (a : Nat) : SlrAction → Prop
  | shift : (g.moved I a).Nonempty → SlrCell I a (.shift (g.lrGoto I a))
  | reduce {p : Nat} {prod : Production} : 1 ≤ p → g.productions[p]? = some prod →
      (p, prod.rhs.length) ∈ I → g.Follow prod.lhs a → SlrCell I a (.reduce p)
  | accept {prod : Production} : g.productions[0]? = some prod → (0, prod.rhs.length) ∈ I →
      a = endSymbol → SlrCell I a .accept

/-- A cell with two actions where the builder can keep only one: a shift and a
    reduction, reductions by two productions, or a reduction and acceptance. -/
def SlrConflict (I : Set LrItem) (a : Nat) : Prop :=
  (∃ J p, g.SlrCell I a (.shift J) ∧ g.SlrCell I a (.reduce p)) ∨
  (∃ p q, p ≠ q ∧ g.SlrCell I a (.reduce p) ∧ g.SlrCell I a (.reduce q)) ∨
  (∃ p, g.SlrCell I a (.reduce p) ∧ g.SlrCell I a .accept)

variable {g}

/-! ### Small facts -/

theorem Nullable.lhs_ge (hwf : g.WellFormed) {X : Nat} (h : g.Nullable X) : g.tokenCount ≤ X := by
  cases h with
  | rule _ hprod _ => exact hwf.lhs_ge _ (Array.mem_of_getElem? hprod)

/-- Only a nonterminal begins with another terminal than itself. -/
theorem First.eq_of_lt (hwf : g.WellFormed) {X a : Nat} (h : g.First X a)
    (hX : X < g.tokenCount) : a = X := by
  cases h with
  | terminal _ => rfl
  | rule _ hprod _ _ _ =>
    have := hwf.lhs_ge _ (Array.mem_of_getElem? hprod)
    omega

theorem First.of_firstSeq {p a : Nat} {prod : Production} (hp : 1 ≤ p)
    (hprod : g.productions[p]? = some prod) (h : g.FirstSeq prod.rhs a) : g.First prod.lhs a := by
  obtain ⟨i, X, hnull, hX, hfirst⟩ := h
  exact .rule hp hprod hnull hX hfirst

/-- A closure holds nothing but what its kernel gives rise to. -/
theorem Closure.kernel_nonempty {K : Set LrItem} {it : LrItem} (h : g.Closure K it) :
    K.Nonempty := by
  induction h with
  | kernel h => exact ⟨_, h⟩
  | predict _ _ _ _ ih => exact ih

theorem Closure.mono {K K' : Set LrItem} (hK : ∀ it ∈ K, it ∈ K') {it : LrItem}
    (h : g.Closure K it) : g.Closure K' it := by
  induction h with
  | kernel h => exact .kernel (hK _ h)
  | predict _ hq hprod hnext ih => exact .predict ih hq hprod hnext

/-- A goto is empty exactly when no dot of the set stands before the symbol. -/
theorem lrGoto_nonempty_iff {I : Set LrItem} {X : Nat} :
    (g.lrGoto I X).Nonempty ↔ (g.moved I X).Nonempty := by
  constructor
  · rintro ⟨it, h⟩
    exact Closure.kernel_nonempty h
  · rintro ⟨it, h⟩
    exact ⟨it, .kernel h⟩

theorem Canonical.nonempty {I : Set LrItem} (h : g.Canonical I) : I.Nonempty := by
  cases h with
  | start => exact ⟨(0, 0), .kernel rfl⟩
  | goto _ hne => exact lrGoto_nonempty_iff.2 hne

end IncrementalLR.Grammar
