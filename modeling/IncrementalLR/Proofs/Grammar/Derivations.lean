import IncrementalLR.Grammar.Productions

/-!
# Derivations of a grammar

A string of symbols derives a string of terminals when each terminal stands for itself and
each nonterminal derives, by one of its productions, what the production's right side
derives.
-/

namespace IncrementalLR.Grammar

/-- The derivations of a grammar, from a string of symbols to a string of terminals. -/
inductive Derives (g : Grammar) : List Nat → List Nat → Prop
  | nil : Derives g [] []
  | token {a : Nat} {α w : List Nat} (ha : a < g.tokenCount) (rest : Derives g α w) :
      Derives g (a :: α) (a :: w)
  | rule {p : Nat} {prod : Production} {α u v : List Nat} (hp : 1 ≤ p)
      (hprod : g.productions[p]? = some prod) (body : Derives g prod.rhs u)
      (rest : Derives g α v) : Derives g (prod.lhs :: α) (u ++ v)

variable {g : Grammar}

namespace Derives

@[simp] theorem nil_iff {w : List Nat} : g.Derives [] w ↔ w = [] := by
  constructor
  · intro h
    cases h
    rfl
  · rintro rfl
    exact .nil

/-- A nonterminal alone derives what one of its productions derives. -/
theorem of_production {p : Nat} {prod : Production} {u : List Nat} (hp : 1 ≤ p)
    (hprod : g.productions[p]? = some prod) (body : g.Derives prod.rhs u) :
    g.Derives [prod.lhs] u := by
  simpa using Derives.rule hp hprod body .nil

theorem append {α β u v : List Nat} (h₁ : g.Derives α u) (h₂ : g.Derives β v) :
    g.Derives (α ++ β) (u ++ v) := by
  induction h₁ with
  | nil => exact h₂
  | token ha _ ih => exact .token ha ih
  | rule hp hprod body _ _ ih =>
    simpa only [List.cons_append, List.append_assoc] using Derives.rule hp hprod body ih

/-- A derivation of two strings side by side splits at the border of their yields. -/
theorem append_iff {α β w : List Nat} :
    g.Derives (α ++ β) w ↔ ∃ u v, w = u ++ v ∧ g.Derives α u ∧ g.Derives β v := by
  constructor
  · intro h
    induction α generalizing w with
    | nil => exact ⟨[], w, rfl, .nil, h⟩
    | cons X α ih =>
      cases h with
      | token ha rest =>
        obtain ⟨u, v, rfl, hu, hv⟩ := ih rest
        exact ⟨X :: u, v, rfl, .token ha hu, hv⟩
      | rule hp hprod body rest =>
        obtain ⟨u, v, rfl, hu, hv⟩ := ih rest
        exact ⟨_ ++ u, v, (List.append_assoc ..).symm, .rule hp hprod body hu, hv⟩
  · rintro ⟨u, v, rfl, hu, hv⟩
    exact hu.append hv

/-- Every symbol a derivation yields is a terminal. -/
theorem terminal_lt {α w : List Nat} (h : g.Derives α w) : ∀ a ∈ w, a < g.tokenCount := by
  induction h with
  | nil => simp
  | token ha _ ih =>
    intro b hb
    rcases List.mem_cons.1 hb with rfl | hb
    · exact ha
    · exact ih b hb
  | rule _ _ _ _ ihu ihv =>
    intro b hb
    rcases List.mem_append.1 hb with hb | hb
    · exact ihu b hb
    · exact ihv b hb

end Derives

end IncrementalLR.Grammar
