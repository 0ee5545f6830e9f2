import Mathlib.Data.List.Nodup
import IncrementalLR.Proofs.Grammar.Derivations
import IncrementalLR.Proofs.Grammar.WellFormed

/-!
# Rules read as EBNF

A rule of a grammar description is a list of alternatives, each a list of items.
-/

namespace IncrementalLR

/-- How many copies of its symbol an item stands for: exactly one, at most one (`?`),
    any number (`*`), or at least one (`+`, the only other suffix an item reads). -/
def Item.Repeats (item : Item) (k : Nat) : Prop :=
  match item.suffix with
  | none => k = 1
  | some c => if c = '?' then k ≤ 1 else c = '*' ∨ 1 ≤ k

/-- The rules of a grammar description read as EBNF over its numbered symbols: the scope
    resolves names and literals, the tokens lie below `tokenCount`, and rule `i` is the
    symbol `tokenCount + i`, the first rule the start. -/
structure Ebnf where
  scope : SymbolScope
  tokenCount : Nat
  rules : List (List (List Item))

/-- The repetition rules of an expansion, by repeated symbol and field. -/
abbrev RepeatRules : Type := List ((Nat × Option String) × Nat)

namespace Ebnf

/-- The strings of symbols an alternative spells: each item's symbol, as many times in a
    row as its suffix allows. -/
inductive Spells (E : Ebnf) : List Item → List Nat → Prop
  | nil : Spells E [] []
  | cons {item : Item} {items : List Item} {x k : Nat} {β : List Nat}
      (hx : Expansion.resolve E.scope item = .ok x) (hk : item.Repeats k)
      (rest : Spells E items β) : Spells E (item :: items) (List.replicate k x ++ β)

/-- EBNF derivations, from a string of symbols to a string of terminals: a terminal
    stands for itself, and a rule for what one of its alternatives spells. -/
inductive Derives (E : Ebnf) : List Nat → List Nat → Prop
  | nil : Derives E [] []
  | token {a : Nat} {α w : List Nat} (ha : a < E.tokenCount) (rest : Derives E α w) :
      Derives E (a :: α) (a :: w)
  | rule {i : Nat} {alts : List (List Item)} {alt : List Item} {β α u v : List Nat}
      (hi : E.rules[i]? = some alts) (halt : alt ∈ alts) (hspell : E.Spells alt β)
      (body : Derives E β u) (rest : Derives E α v) :
      Derives E ((E.tokenCount + i) :: α) (u ++ v)

theorem Derives.append {E : Ebnf} {α β u v : List Nat} (h₁ : E.Derives α u)
    (h₂ : E.Derives β v) : E.Derives (α ++ β) (u ++ v) := by
  induction h₁ with
  | nil => exact h₂
  | token ha _ ih => exact .token ha ih
  | rule hi halt hspell body _ _ ih =>
    simpa only [List.cons_append, List.append_assoc] using Derives.rule hi halt hspell body ih

/-- The right sides that the expansion writes for an item resolving to `x`: `x`; for
    `x?` also nothing; for `x*` nothing or its repetition rule; for `x+` the rule. -/
def ItemSide (reps : RepeatRules) (item : Item) (x : Nat) (γ : List Nat) : Prop :=
  match item.suffix with
  | none => γ = [x]
  | some c =>
    if c = '?' then γ = [] ∨ γ = [x]
    else (c = '*' ∧ γ = []) ∨ ∃ r, reps.lookup (x, item.field) = some r ∧ γ = [r]

/-- The right sides that the expansion writes for an alternative: one side of each
    item, in order. -/
inductive Sides (E : Ebnf) (reps : RepeatRules) : List Item → List Nat → Prop
  | nil : Sides E reps [] []
  | cons {item : Item} {items : List Item} {x : Nat} {γ δ : List Nat}
      (hx : Expansion.resolve E.scope item = .ok x) (hside : ItemSide reps item x γ)
      (rest : Sides E reps items δ) : Sides E reps (item :: items) (γ ++ δ)

/-- Every repeated item of the alternative has its repetition rule in `reps`. -/
def RepsMade (E : Ebnf) (reps : RepeatRules) (alt : List Item) : Prop :=
  ∀ item ∈ alt, ∀ x c, Expansion.resolve E.scope item = .ok x → item.suffix = some c →
    c ≠ '?' → ∃ r, reps.lookup (x, item.field) = some r

end Ebnf

namespace Grammar

/-- The grammar has the production `A → β`, other than the augmented start. -/
def HasProduction (g : Grammar) (A : Nat) (β : List Nat) : Prop :=
  ∃ p prod, 1 ≤ p ∧ g.productions[p]? = some prod ∧ prod.lhs = A ∧ prod.rhs = β

theorem Derives.cons_of_hasProduction {g : Grammar} {A : Nat} {β α u v : List Nat}
    (hA : g.HasProduction A β) (body : g.Derives β u) (rest : g.Derives α v) :
    g.Derives (A :: α) (u ++ v) := by
  obtain ⟨p, prod, hp, hprod, rfl, rfl⟩ := hA
  exact .rule hp hprod body rest

/-- Grammar `g` is the expansion of the rules `E`, with the repetition rules `reps`.
    Items resolve to terminals and rules, never to the end of the input; repetition
    rules are symbols after those, one per entry, each repeating such a symbol. Every
    production but the augmented start is a side of an alternative or one of a
    repetition rule; every side of every alternative, and both productions of every
    repetition rule, are productions; and every repeated item has its rule. -/
structure Expands (g : Grammar) (E : Ebnf) (reps : RepeatRules) : Prop where
  tokenCount : g.tokenCount = E.tokenCount
  start : g.startSymbol = E.tokenCount
  tokenCount_pos : 1 ≤ E.tokenCount
  rules_pos : 0 < E.rules.length
  resolve_pos : ∀ item x, Expansion.resolve E.scope item = .ok x → 1 ≤ x
  resolve_lt : ∀ item x, Expansion.resolve E.scope item = .ok x →
    x < E.tokenCount + E.rules.length
  rep_ge : ∀ key r, (key, r) ∈ reps → E.tokenCount + E.rules.length ≤ r
  rep_pos : ∀ x f r, ((x, f), r) ∈ reps → 1 ≤ x
  rep_lt : ∀ x f r, ((x, f), r) ∈ reps → x < E.tokenCount + E.rules.length
  rep_nodup : (reps.map Prod.snd).Nodup
  sound : ∀ p prod, 1 ≤ p → g.productions[p]? = some prod →
    (∃ i alts alt, E.rules[i]? = some alts ∧ alt ∈ alts ∧ prod.lhs = E.tokenCount + i ∧
      E.Sides reps alt prod.rhs) ∨
    (∃ x f, ((x, f), prod.lhs) ∈ reps ∧ (prod.rhs = [prod.lhs, x] ∨ prod.rhs = [x]))
  complete : ∀ (i : Nat) (alts : List (List Item)) (alt : List Item) (rhs : List Nat),
    E.rules[i]? = some alts → alt ∈ alts → E.Sides reps alt rhs →
      g.HasProduction (E.tokenCount + i) rhs
  complete_rep : ∀ x f r, ((x, f), r) ∈ reps →
    g.HasProduction r [r, x] ∧ g.HasProduction r [x]
  rep_made : ∀ (i : Nat) (alts : List (List Item)) (alt : List Item), E.rules[i]? = some alts →
    alt ∈ alts → E.RepsMade reps alt

/-- Reading a string of the expanded grammar in EBNF: a repetition rule stands for one
    or more copies of its symbol, every other symbol for itself. -/
inductive Unrolls (reps : RepeatRules) : List Nat → List Nat → Prop
  | nil : Unrolls reps [] []
  | sym {X : Nat} {β β' : List Nat} (hX : ∀ key, (key, X) ∉ reps) (rest : Unrolls reps β β') :
      Unrolls reps (X :: β) (X :: β')
  | rep {x r k : Nat} {f : Option String} {β β' : List Nat} (hr : ((x, f), r) ∈ reps)
      (hk : 1 ≤ k) (rest : Unrolls reps β β') :
      Unrolls reps (r :: β) (List.replicate k x ++ β')

namespace Unrolls

variable {reps : RepeatRules}

theorem nil_iff {ρ : List Nat} : Unrolls reps [] ρ ↔ ρ = [] := by
  constructor
  · intro h
    cases h
    rfl
  · rintro rfl
    exact .nil

/-- An unrolled string of two strings side by side splits into their unrollings. -/
theorem split {γ δ ρ : List Nat} (h : Unrolls reps (γ ++ δ) ρ) :
    ∃ ρ₁ ρ₂, ρ = ρ₁ ++ ρ₂ ∧ Unrolls reps γ ρ₁ ∧ Unrolls reps δ ρ₂ := by
  induction γ generalizing ρ with
  | nil => exact ⟨[], ρ, rfl, .nil, h⟩
  | cons X γ ih =>
    cases h with
    | sym hX rest =>
      obtain ⟨ρ₁, ρ₂, rfl, h₁, h₂⟩ := ih rest
      exact ⟨X :: ρ₁, ρ₂, rfl, .sym hX h₁, h₂⟩
    | rep hr hk rest =>
      obtain ⟨ρ₁, ρ₂, rfl, h₁, h₂⟩ := ih rest
      exact ⟨_ ++ ρ₁, ρ₂, (List.append_assoc ..).symm, .rep hr hk h₁, h₂⟩

theorem singleton_sym {X : Nat} {ρ : List Nat} (hX : ∀ key, (key, X) ∉ reps)
    (h : Unrolls reps [X] ρ) : ρ = [X] := by
  cases h with
  | sym _ rest => rw [nil_iff.1 rest]
  | rep hr _ _ => exact absurd hr (hX _)

/-- A repetition rule alone stands for one or more copies of the one symbol it
    repeats. -/
theorem singleton_rep {x r : Nat} {f : Option String} {ρ : List Nat}
    (hnodup : (reps.map Prod.snd).Nodup) (hr : ((x, f), r) ∈ reps) (h : Unrolls reps [r] ρ) :
    ∃ k, 1 ≤ k ∧ ρ = List.replicate k x := by
  cases h with
  | sym hX _ => exact absurd hr (hX _)
  | @rep x' _ k f' _ _ hr' hk rest =>
    have hsame : ((x', f'), r) = ((x, f), r) := List.inj_on_of_nodup_map hnodup hr' hr rfl
    simp only [Prod.mk.injEq] at hsame
    rw [hsame.1.1, nil_iff.1 rest, List.append_nil]
    exact ⟨k, hk, rfl⟩

end Unrolls

namespace Expands

variable {g : Grammar} {E : Ebnf} {reps : RepeatRules}

/-- Terminals and rules are no repetition rules. -/
theorem not_rep (he : g.Expands E reps) {X : Nat} (hX : X < E.tokenCount + E.rules.length) :
    ∀ key, (key, X) ∉ reps :=
  fun key hmem => absurd (he.rep_ge key X hmem) (Nat.not_le.2 hX)

/-- What one item's side unrolls to is a run of copies of its symbol that the item's
    suffix allows. -/
theorem repeats_of_itemSide (he : g.Expands E reps) {item : Item} {x : Nat}
    {γ ρ : List Nat} (hx : x < E.tokenCount + E.rules.length) (hs : Ebnf.ItemSide reps item x γ)
    (hu : Unrolls reps γ ρ) : ∃ k, item.Repeats k ∧ ρ = List.replicate k x := by
  cases hsfx : item.suffix with
  | none =>
    simp only [Ebnf.ItemSide, hsfx] at hs
    subst hs
    exact ⟨1, by simp [Item.Repeats, hsfx], hu.singleton_sym (he.not_rep hx)⟩
  | some c =>
    simp only [Ebnf.ItemSide, hsfx] at hs
    by_cases hc : c = '?'
    · rw [if_pos hc] at hs
      rcases hs with rfl | rfl
      · exact ⟨0, by simp [Item.Repeats, hsfx, hc], Unrolls.nil_iff.1 hu⟩
      · exact ⟨1, by simp [Item.Repeats, hsfx, hc], hu.singleton_sym (he.not_rep hx)⟩
    · rw [if_neg hc] at hs
      rcases hs with ⟨hstar, rfl⟩ | ⟨r, hr, rfl⟩
      · exact ⟨0, by simp [Item.Repeats, hsfx, hstar], Unrolls.nil_iff.1 hu⟩
      · obtain ⟨k, hk, rfl⟩ := hu.singleton_rep he.rep_nodup (List.mem_of_lookup hr)
        exact ⟨k, by simp [Item.Repeats, hsfx, hc, hk], rfl⟩

/-- An unrolled side of an alternative is a string that the alternative spells. -/
theorem spells_of_unrolls (he : g.Expands E reps) {alt : List Item} {rhs : List Nat}
    (hs : E.Sides reps alt rhs) : ∀ {ρ}, Unrolls reps rhs ρ → E.Spells alt ρ := by
  induction hs with
  | nil =>
    intro ρ hu
    rw [Unrolls.nil_iff.1 hu]
    exact .nil
  | cons hx hside _ ih =>
    intro ρ hu
    obtain ⟨ρ₁, ρ₂, rfl, h₁, h₂⟩ := hu.split
    obtain ⟨k, hk, rfl⟩ := he.repeats_of_itemSide (he.resolve_lt _ _ hx) hside h₁
    exact .cons hx hk (ih h₂)

/-- A derivation of the expanded grammar, read with its repetition rules unrolled, is
    an EBNF derivation. The induction is on the derivation; a production is a side of
    an alternative or one of a repetition rule. -/
theorem derives_unrolls (he : g.Expands E reps) {β w : List Nat} (h : g.Derives β w) :
    ∃ β', Unrolls reps β β' ∧ E.Derives β' w := by
  induction h with
  | nil => exact ⟨[], .nil, .nil⟩
  | @token a α w ha _ ih =>
    obtain ⟨α', hα, hd⟩ := ih
    rw [he.tokenCount] at ha
    exact ⟨a :: α', .sym (he.not_rep (by omega)) hα, .token ha hd⟩
  | @rule p prod α u v hp hprod _ _ ihb ihr =>
    obtain ⟨ρ, hρ, hdρ⟩ := ihb
    obtain ⟨α', hα, hdα⟩ := ihr
    rcases he.sound p prod hp hprod with ⟨i, alts, alt, hi, halt, hlhs, hsides⟩ |
      ⟨x, f, hrep, hrhs | hrhs⟩
    -- a side of an alternative of rule `i`
    · have hlt : i < E.rules.length := (List.getElem?_eq_some_iff.1 hi).1
      rw [hlhs]
      exact ⟨_, .sym (he.not_rep (by omega)) hα,
        .rule hi halt (he.spells_of_unrolls hsides hρ) hdρ hdα⟩
    -- `r → r x`: one more copy of `x` after those that `r` stands for
    · rw [hrhs] at hρ
      obtain ⟨ρ₁, ρ₂, rfl, h₁, h₂⟩ := Unrolls.split (γ := [prod.lhs]) (δ := [x]) hρ
      obtain ⟨k, hk, rfl⟩ := h₁.singleton_rep he.rep_nodup hrep
      rw [h₂.singleton_sym (he.not_rep (he.rep_lt x f _ hrep)), ← List.replicate_succ'] at hdρ
      exact ⟨_, .rep hrep (Nat.succ_pos k) hα, hdρ.append hdα⟩
    -- `r → x`: a single copy
    · rw [hrhs] at hρ
      rw [hρ.singleton_sym (he.not_rep (he.rep_lt x f _ hrep))] at hdρ
      exact ⟨_, .rep hrep (Nat.le_refl 1) hα, hdρ.append hdα⟩

/-- A repetition rule derives what any positive number of copies of its symbol
    derives, through its left recursive production. -/
theorem derives_rep (he : g.Expands E reps) {x r : Nat} {f : Option String}
    (hr : ((x, f), r) ∈ reps) : ∀ {k : Nat} {u : List Nat}, 1 ≤ k →
      g.Derives (List.replicate k x) u → g.Derives [r] u
  | 0, _, hk, _ => absurd hk (by decide)
  | 1, u, _, h => by
    simpa using Derives.cons_of_hasProduction (he.complete_rep x f r hr).2 h .nil
  | k + 2, u, _, h => by
    rw [List.replicate_succ', Derives.append_iff] at h
    obtain ⟨u₁, u₂, rfl, h₁, h₂⟩ := h
    have hr₁ := derives_rep he hr (Nat.succ_pos k) h₁
    simpa using Derives.cons_of_hasProduction (he.complete_rep x f r hr).1
      (hr₁.append h₂ : g.Derives ([r] ++ [x]) (u₁ ++ u₂)) .nil

/-- A run of copies of an item's symbol that its suffix allows derives through one of
    the item's sides. -/
theorem itemSide_of_repeats (he : g.Expands E reps) {item : Item} {x k : Nat} {u : List Nat}
    (hk : item.Repeats k)
    (hmade : ∀ c, item.suffix = some c → c ≠ '?' → ∃ r, reps.lookup (x, item.field) = some r)
    (h : g.Derives (List.replicate k x) u) :
    ∃ γ, Ebnf.ItemSide reps item x γ ∧ g.Derives γ u := by
  cases hsfx : item.suffix with
  | none =>
    simp only [Item.Repeats, hsfx] at hk
    subst hk
    exact ⟨[x], by simp [Ebnf.ItemSide, hsfx], h⟩
  | some c =>
    simp only [Item.Repeats, hsfx] at hk
    by_cases hc : c = '?'
    · rw [if_pos hc] at hk
      rcases Nat.le_one_iff_eq_zero_or_eq_one.1 hk with rfl | rfl
      · exact ⟨[], by simp [Ebnf.ItemSide, hsfx, hc], h⟩
      · exact ⟨[x], by simp [Ebnf.ItemSide, hsfx, hc], h⟩
    · rw [if_neg hc] at hk
      rcases Nat.eq_zero_or_pos k with rfl | hpos
      -- no copy: only `x*` allows it, by the empty side
      · have hstar : c = '*' := hk.resolve_right (by decide)
        exact ⟨[], by simp [Ebnf.ItemSide, hsfx, hstar], h⟩
      · obtain ⟨r, hr⟩ := hmade c hsfx hc
        exact ⟨[r], by simp [Ebnf.ItemSide, hsfx, hc, hr],
          he.derives_rep (List.mem_of_lookup hr) hpos h⟩

/-- What an alternative spells derives through one of the alternative's sides. -/
theorem sides_of_spells (he : g.Expands E reps) {alt : List Item} {β : List Nat}
    (hs : E.Spells alt β) :
    E.RepsMade reps alt → ∀ {u}, g.Derives β u → ∃ rhs, E.Sides reps alt rhs ∧ g.Derives rhs u := by
  induction hs with
  | nil =>
    intro _ u h
    exact ⟨[], .nil, h⟩
  | @cons item items x k β hx hk _ ih =>
    intro hmade u h
    rw [Derives.append_iff] at h
    obtain ⟨u₁, u₂, rfl, h₁, h₂⟩ := h
    obtain ⟨γ, hγ, hd₁⟩ := he.itemSide_of_repeats hk
      (fun c hc hq => hmade item List.mem_cons_self x c hx hc hq) h₁
    obtain ⟨δ, hδ, hd₂⟩ := ih (fun i hi => hmade i (List.mem_cons_of_mem _ hi)) h₂
    exact ⟨γ ++ δ, .cons hx hγ hδ, hd₁.append hd₂⟩

/-- Every EBNF derivation is one of the expanded grammar. -/
theorem derives_of_ebnf (he : g.Expands E reps) {β w : List Nat} (h : E.Derives β w) :
    g.Derives β w := by
  induction h with
  | nil => exact .nil
  | token ha _ ih => exact .token (he.tokenCount ▸ ha) ih
  | @rule i alts alt β α u v hi halt hspell _ _ ihb ihr =>
    obtain ⟨rhs, hsides, hd⟩ := he.sides_of_spells hspell (he.rep_made i alts alt hi halt) ihb
    exact Derives.cons_of_hasProduction (he.complete i alts alt rhs hi halt hsides) hd ihr

/-- The expanded grammar derives from its start symbol exactly what the start rule
    derives read as EBNF. -/
theorem derives_iff (he : g.Expands E reps) (w : List Nat) :
    g.Derives [g.startSymbol] w ↔ E.Derives [E.tokenCount] w := by
  constructor
  · intro h
    obtain ⟨β', hu, hd⟩ := he.derives_unrolls h
    rw [he.start] at hu
    have hstart : E.tokenCount < E.tokenCount + E.rules.length :=
      Nat.lt_add_of_pos_right he.rules_pos
    rwa [hu.singleton_sym (he.not_rep hstart)] at hd
  · intro h
    rw [he.start]
    exact he.derives_of_ebnf h

end Expands

end Grammar

end IncrementalLR
