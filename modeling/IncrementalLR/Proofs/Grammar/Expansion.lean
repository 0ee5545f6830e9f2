import IncrementalLR.Proofs.Grammar.Ebnf

/-!
# What the expansion of a grammar description writes

`Grammar.ofSpec` numbers the symbols of a grammar description (`GrammarSpec.number`) and
expands its rules one after another.
-/

namespace IncrementalLR

/-- The rules of a grammar description read as EBNF over the symbols it numbers. -/
def GrammarSpec.ebnf (spec : GrammarSpec) : Except GrammarError Ebnf := do
  let parsed ← readRules spec.rules
  let (scope, grammar) ← spec.number parsed
  pure ⟨scope, grammar.tokenCount, parsed⟩

/-- Reading the rules gives one list of alternatives for each rule. -/
theorem readRules_length : ∀ {rs : List RuleDecl} {parsed : List (List (List Item))},
    readRules rs = .ok parsed → parsed.length = rs.length
  | [], parsed, h => by
    simp only [readRules, Except.ok.injEq] at h
    rw [← h]
    rfl
  | r :: rs, parsed, h => by
    simp only [readRules] at h
    split at h
    · cases h
    obtain ⟨alts, -, h⟩ := Except.bind_eq_ok.1 h
    obtain ⟨rest, hrest, h⟩ := Except.bind_eq_ok.1 h
    simp only [pure, Except.pure, Except.ok.injEq] at h
    rw [← h, List.length_cons, List.length_cons, readRules_length hrest]

/-! ### Sides of alternatives -/

namespace Ebnf

variable {E : Ebnf} {reps : RepeatRules}

theorem sides_nil_iff {rhs : List Nat} : E.Sides reps [] rhs ↔ rhs = [] := by
  constructor
  · intro h
    cases h
    rfl
  · rintro rfl
    exact .nil

theorem sides_cons_iff {item : Item} {items : List Item} {rhs : List Nat} :
    E.Sides reps (item :: items) rhs ↔ ∃ x γ δ, Expansion.resolve E.scope item = .ok x ∧
      ItemSide reps item x γ ∧ E.Sides reps items δ ∧ rhs = γ ++ δ := by
  constructor
  · intro h
    cases h with
    | cons hx hside rest => exact ⟨_, _, _, hx, hside, rest, rfl⟩
  · rintro ⟨x, γ, δ, hx, hside, rest, rfl⟩
    exact .cons hx hside rest

theorem RepsMade.append {alt : List Item} (h : E.RepsMade reps alt) (more : RepeatRules) :
    E.RepsMade (reps ++ more) alt := by
  intro item hitem x c hx hc hq
  obtain ⟨r, hr⟩ := h item hitem x c hx hc hq
  exact ⟨r, by rw [List.lookup_append, hr]; rfl⟩

/-- An item whose repetition rule is made has the same sides however many more
    repetition rules are made after it. -/
theorem itemSide_append_iff {item : Item} {x : Nat} {γ : List Nat} (more : RepeatRules)
    (hmade : ∀ c, item.suffix = some c → c ≠ '?' → ∃ r, reps.lookup (x, item.field) = some r) :
    ItemSide (reps ++ more) item x γ ↔ ItemSide reps item x γ := by
  unfold ItemSide
  split
  · rfl
  · rename_i c hc
    split
    · rfl
    · rename_i hq
      obtain ⟨r, hr⟩ := hmade c hc hq
      rw [List.lookup_append, hr]
      rfl

theorem sides_append_iff {alt : List Item} (more : RepeatRules) (hmade : E.RepsMade reps alt) :
    ∀ {rhs}, E.Sides (reps ++ more) alt rhs ↔ E.Sides reps alt rhs := by
  induction alt with
  | nil => intro rhs; rw [sides_nil_iff, sides_nil_iff]
  | cons item items ih =>
    intro rhs
    have hrest : E.RepsMade reps items := fun i hi => hmade i (List.mem_cons_of_mem _ hi)
    simp only [sides_cons_iff, ih hrest]
    constructor
    · rintro ⟨x, γ, δ, hx, hside, hδ, rfl⟩
      exact ⟨x, γ, δ, hx, (itemSide_append_iff more
        fun c hc hq => hmade item List.mem_cons_self x c hx hc hq).1 hside, hδ, rfl⟩
    · rintro ⟨x, γ, δ, hx, hside, hδ, rfl⟩
      exact ⟨x, γ, δ, hx, (itemSide_append_iff more
        fun c hc hq => hmade item List.mem_cons_self x c hx hc hq).2 hside, hδ, rfl⟩

end Ebnf

/-- The right sides after extending each by an item: the side with the item's symbol,
    and, for an optional item, the side without it first. -/
theorem mem_extend {sides : List (List Nat × List (Nat × String))} {s : Nat}
    {field : Option String} {opt : Bool} {rhs : List Nat} :
    rhs ∈ (Expansion.extend sides s field opt).map Prod.fst ↔
      ∃ rhs₀ ∈ sides.map Prod.fst, ∃ γ, (γ = [s] ∨ (opt = true ∧ γ = [])) ∧ rhs = rhs₀ ++ γ := by
  cases opt with
  | false => simp [Expansion.extend, List.mem_flatMap]
  -- an optional item keeps each side as it is, besides extending it
  | true =>
    simp [Expansion.extend, List.mem_flatMap]
    grind

/-- Extending the sides by an item whose sides are the extension's, then by the rest of
    an alternative, extends them by the sides of the whole alternative. -/
theorem sides_cons_of_extend {E : Ebnf} {reps : RepeatRules} {item : Item} {items : List Item}
    {x s : Nat} {field : Option String} {opt : Bool}
    {sides sides' : List (List Nat × List (Nat × String))}
    (hx : Expansion.resolve E.scope item = .ok x)
    (hitem : ∀ γ, Ebnf.ItemSide reps item x γ ↔ γ = [s] ∨ (opt = true ∧ γ = []))
    (hrest : ∀ rhs, rhs ∈ sides'.map Prod.fst ↔ ∃ rhs₁ ∈ (Expansion.extend sides s field opt).map
      Prod.fst, ∃ δ, E.Sides reps items δ ∧ rhs = rhs₁ ++ δ) :
    ∀ rhs, rhs ∈ sides'.map Prod.fst ↔
      ∃ rhs₀ ∈ sides.map Prod.fst, ∃ δ, E.Sides reps (item :: items) δ ∧ rhs = rhs₀ ++ δ := by
  intro rhs
  rw [hrest]
  constructor
  · rintro ⟨rhs₁, hrhs₁, δ, hδ, rfl⟩
    obtain ⟨rhs₀, hrhs₀, γ, hγ, rfl⟩ := mem_extend.1 hrhs₁
    exact ⟨rhs₀, hrhs₀, γ ++ δ, .cons hx ((hitem γ).2 hγ) hδ, List.append_assoc ..⟩
  · rintro ⟨rhs₀, hrhs₀, δ', hδ', rfl⟩
    obtain ⟨x', γ, δ, hx', hside, hδ, rfl⟩ := Ebnf.sides_cons_iff.1 hδ'
    rw [hx] at hx'
    cases hx'
    exact ⟨rhs₀ ++ γ, mem_extend.2 ⟨rhs₀, hrhs₀, γ, (hitem γ).1 hside, rfl⟩, δ, hδ,
      (List.append_assoc ..).symm⟩

/-! ### Repetition rules -/

namespace Grammar

/-- A production that stands at an index kept by a later list of productions stays. -/
theorem HasProduction.of_kept {g g' : Grammar} {A : Nat} {β : List Nat}
    (h : g.HasProduction A β)
    (hkept : ∀ p, p < g.productions.size → g'.productions[p]? = g.productions[p]?) :
    g'.HasProduction A β := by
  obtain ⟨p, prod, hp, hprod, hlhs, hrhs⟩ := h
  refine ⟨p, prod, hp, ?_, hlhs, hrhs⟩
  rw [hkept p (Array.getElem?_eq_some_iff.1 hprod).1, hprod]

end Grammar

namespace Expansion

/-- What the repetition rules made so far are, with `B` the symbol after the last rule:
    each repeats a token or a rule, never the end of the input; each is a symbol of its
    own at `B` or after, made once; and each has both its productions. -/
structure RepeatsSound (B : Nat) (e : Expansion) : Prop where
  ge : ∀ key r, (key, r) ∈ e.repeats → B ≤ r
  sym : ∀ x f r, ((x, f), r) ∈ e.repeats → 1 ≤ x ∧ x < B
  nodup : (e.repeats.map Prod.snd).Nodup
  productions : ∀ x f r, ((x, f), r) ∈ e.repeats →
    e.grammar.HasProduction r [r, x] ∧ e.grammar.HasProduction r [x]

/-- `e'` goes on from `e` by making repetition rules: it keeps the repetition rules and
    the productions of `e`, and its other productions are those of its repetition
    rules. -/
structure Grows (e e' : Expansion) : Prop where
  repeats : ∃ more, e'.repeats = e.repeats ++ more
  kept : ∀ p, p < e.grammar.productions.size →
    e'.grammar.productions[p]? = e.grammar.productions[p]?
  made : ∀ p prod, e.grammar.productions.size ≤ p → e'.grammar.productions[p]? = some prod →
    ∃ x f, ((x, f), prod.lhs) ∈ e'.repeats ∧ (prod.rhs = [prod.lhs, x] ∨ prod.rhs = [x])

theorem Grows.refl (e : Expansion) : e.Grows e :=
  ⟨⟨[], (List.append_nil _).symm⟩, fun _ _ => rfl,
    fun _ _ hp hprod => absurd (Array.getElem?_eq_some_iff.1 hprod).1 (Nat.not_lt.2 hp)⟩

theorem Grows.trans {e₁ e₂ e₃ : Expansion} (h₁ : e₁.Grows e₂) (h₂ : e₂.Grows e₃) :
    e₁.Grows e₃ := by
  obtain ⟨more₁, hm₁⟩ := h₁.repeats
  obtain ⟨more₂, hm₂⟩ := h₂.repeats
  refine ⟨⟨more₁ ++ more₂, by rw [hm₂, hm₁, List.append_assoc]⟩, fun p hp => ?_, ?_⟩
  · have hp₂ : p < e₂.grammar.productions.size := by
      have := h₁.kept p hp
      obtain ⟨prod, hprod⟩ : ∃ prod, e₁.grammar.productions[p]? = some prod :=
        ⟨_, Array.getElem?_eq_getElem hp⟩
      rw [hprod] at this
      exact (Array.getElem?_eq_some_iff.1 this).1
    rw [h₂.kept p hp₂, h₁.kept p hp]
  · intro p prod hp hprod
    by_cases hp₂ : p < e₂.grammar.productions.size
    · rw [h₂.kept p hp₂] at hprod
      obtain ⟨x, f, hmem, hrhs⟩ := h₁.made p prod hp hprod
      exact ⟨x, f, by rw [hm₂]; exact List.mem_append_left _ hmem, hrhs⟩
    · exact h₂.made p prod (Nat.not_lt.1 hp₂) hprod

variable {tc B : Nat}

/-- Making the repetition rule of a token or a rule keeps the repetition rules sound,
    and afterwards the rule is found by its symbol and field. -/
theorem repetition_grows {e e' : Expansion} {ruleName : String} {x r : Nat}
    {field : Option String} (h : e.repetition ruleName x field = .ok (r, e'))
    (hv : e.Valid tc B) (hs : e.RepeatsSound B) (hx : 1 ≤ x ∧ x < B) :
    e'.RepeatsSound B ∧ e.Grows e' ∧ e'.repeats.lookup (x, field) = some r := by
  unfold Expansion.repetition at h
  split at h
  · rename_i r' hlookup
    simp only [Except.ok.injEq, Prod.mk.injEq] at h
    obtain ⟨rfl, rfl⟩ := h
    exact ⟨hs, Grows.refl e, hlookup⟩
  · rename_i hlookup
    simp only at h
    split at h
    · cases h
    simp only [Except.ok.injEq, Prod.mk.injEq] at h
    obtain ⟨rfl, rfl⟩ := h
    -- the new rule is the next symbol, after every symbol and so every rule made before
    have hfresh : ∀ key, (key, e.grammar.symbolNames.size) ∉ e.repeats :=
      fun key hmem => Nat.lt_irrefl _ (hv.repeats_lt _ hmem)
    have hpos : 0 < e.grammar.productions.size := by
      rcases Nat.eq_zero_or_pos e.grammar.productions.size with hzero | hpos
      · have h0 := hv.augmented
        rw [Array.getElem?_eq_none (by omega)] at h0
        cases h0
      · exact hpos
    have hkept : ∀ p, p < e.grammar.productions.size →
        ((e.grammar.productions.push ⟨e.grammar.symbolNames.size,
          [e.grammar.symbolNames.size, x], (field.toList.map fun f => (1, f))⟩).push
          ⟨e.grammar.symbolNames.size, [x], (field.toList.map fun f => (0, f))⟩)[p]? =
          e.grammar.productions[p]? := by
      intro p hp
      simp only [Array.getElem?_push, Array.size_push]
      rw [if_neg (by omega), if_neg (by omega)]
    refine ⟨⟨?_, ?_, ?_, ?_⟩, ⟨⟨_, rfl⟩, hkept, ?_⟩, ?_⟩
    · intro key r' hmem
      rcases List.mem_append.1 hmem with hmem | hmem
      · exact hs.ge key r' hmem
      · obtain ⟨-, rfl⟩ := Prod.mk.inj (List.mem_singleton.1 hmem)
        exact hv.bound_le
    · intro x' f r' hmem
      rcases List.mem_append.1 hmem with hmem | hmem
      · exact hs.sym x' f r' hmem
      · obtain ⟨hkey, -⟩ := Prod.mk.inj (List.mem_singleton.1 hmem)
        obtain ⟨rfl, -⟩ := Prod.mk.inj hkey
        exact hx
    · rw [List.map_append, List.nodup_append]
      refine ⟨hs.nodup, List.nodup_singleton _, ?_⟩
      intro a ha b hb hab
      simp only [List.map_cons, List.map_nil, List.mem_singleton] at hb
      obtain ⟨⟨key, r'⟩, hmem, rfl⟩ := List.mem_map.1 ha
      subst hb
      simp only at hab
      subst hab
      exact hfresh key hmem
    · intro x' f r' hmem
      rcases List.mem_append.1 hmem with hmem | hmem
      · obtain ⟨h₁, h₂⟩ := hs.productions x' f r' hmem
        exact ⟨h₁.of_kept hkept, h₂.of_kept hkept⟩
      · obtain ⟨hkey, hr'⟩ := Prod.mk.inj (List.mem_singleton.1 hmem)
        obtain ⟨hx', -⟩ := Prod.mk.inj hkey
        subst hr' hx'
        refine ⟨⟨e.grammar.productions.size, ⟨e.grammar.symbolNames.size,
          [e.grammar.symbolNames.size, x'], field.toList.map fun f => (1, f)⟩, hpos, ?_, rfl,
          rfl⟩, ⟨e.grammar.productions.size + 1, ⟨e.grammar.symbolNames.size, [x'],
          field.toList.map fun f => (0, f)⟩, by omega, ?_, rfl, rfl⟩⟩
        · rw [Array.getElem?_push, if_neg (by simp), Array.getElem?_push, if_pos rfl]
        · rw [Array.getElem?_push, if_pos (by simp)]
    · intro p prod hp hprod
      simp only [Array.getElem?_push, Array.size_push] at hprod
      split at hprod
      · cases hprod
        exact ⟨x, field, List.mem_append_right _ List.mem_cons_self, .inr rfl⟩
      · split at hprod
        · cases hprod
          exact ⟨x, field, List.mem_append_right _ List.mem_cons_self, .inl rfl⟩
        · have := (Array.getElem?_eq_some_iff.1 hprod).1
          omega
    · rw [List.lookup_append, List.lookup_eq_none_iff.2 ?_]
      · simp
      · intro q hq
        simpa using (List.lookup_eq_none_iff.1 hlookup) q hq

/-- No name or literal resolves to the end of the input. -/
theorem resolve_pos {scope : SymbolScope} {item : Item} {s : Nat}
    (h : Expansion.resolve scope item = .ok s) (hnamed : NamesPos scope.named)
    (hliterals : NamesPos scope.literals) : 1 ≤ s := by
  rcases resolve_mem h with ⟨k, hk⟩ | ⟨k, hk⟩
  · exact hnamed k s hk
  · exact hliterals k s hk

/-- What expanding the items of an alternative gives, from sides `sides` and expansion
    `e` to sides `sides'` and expansion `e'`: a valid expansion with sound repetition
    rules that goes on from `e`, every repeated item's rule made, and the sides extended
    by exactly the alternative's sides. -/
structure ItemsExpanded (E : Ebnf) (items : List Item)
    (sides sides' : List (List Nat × List (Nat × String))) (e e' : Expansion) : Prop where
  valid : e'.Valid E.tokenCount (E.tokenCount + E.rules.length)
  repeats : e'.RepeatsSound (E.tokenCount + E.rules.length)
  grows : e.Grows e'
  made : E.RepsMade e'.repeats items
  sides : ∀ rhs, rhs ∈ sides'.map Prod.fst ↔
    ∃ rhs₀ ∈ sides.map Prod.fst, ∃ δ, E.Sides e'.repeats items δ ∧ rhs = rhs₀ ++ δ

variable {E : Ebnf}

/-- The item-by-item induction over `expandItems`: an item that is neither optional nor
    repeated adds its symbol, an optional one its symbol or nothing, a repeated one its
    repetition rule (or nothing, for `*`). -/
theorem expandItems_expanded (hbelow : E.scope.Below (E.tokenCount + E.rules.length))
    (hpos : NamesPos E.scope.named ∧ NamesPos E.scope.literals) {ruleName : String} :
    ∀ {items : List Item} {sides sides' : List (List Nat × List (Nat × String))}
      {e e' : Expansion}, expandItems E.scope ruleName items sides e = .ok (sides', e') →
      e.Valid E.tokenCount (E.tokenCount + E.rules.length) →
      e.RepeatsSound (E.tokenCount + E.rules.length) → ItemsExpanded E items sides sides' e e'
  | [], sides, sides', e, e', h, hv, hs => by
    simp only [Expansion.expandItems, Except.ok.injEq, Prod.mk.injEq] at h
    obtain ⟨rfl, rfl⟩ := h
    refine ⟨hv, hs, Grows.refl e, fun _ hitem => absurd hitem List.not_mem_nil, fun rhs => ?_⟩
    simp [Ebnf.sides_nil_iff]
  | item :: items, sides, sides', e, e', h, hv, hs => by
    simp only [Expansion.expandItems] at h
    obtain ⟨x, hx, h⟩ := Except.bind_eq_ok.1 h
    have hxB := resolve_lt hx hbelow.named hbelow.literals
    have hx1 := resolve_pos hx hpos.1 hpos.2
    split at h
    -- neither optional nor repeated: the item's symbol
    · rename_i hsfx
      have ih := expandItems_expanded hbelow hpos h hv hs
      refine ⟨ih.valid, ih.repeats, ih.grows, ?_, sides_cons_of_extend hx ?_ ih.sides⟩
      · intro i hi x' c hx' hc
        rcases List.mem_cons.1 hi with rfl | hi
        · rw [hsfx] at hc
          cases hc
        · exact ih.made i hi x' c hx' hc
      · intro γ
        simp [Ebnf.ItemSide, hsfx]
    -- optional: the item's symbol or nothing
    · rename_i hsfx
      have ih := expandItems_expanded hbelow hpos h hv hs
      refine ⟨ih.valid, ih.repeats, ih.grows, ?_, sides_cons_of_extend hx ?_ ih.sides⟩
      · intro i hi x' c hx' hc hq
        rcases List.mem_cons.1 hi with rfl | hi
        · rw [hsfx] at hc
          cases hc
          exact absurd rfl hq
        · exact ih.made i hi x' c hx' hc hq
      · intro γ
        simp only [Ebnf.ItemSide, hsfx, if_pos]
        grind
    -- repeated: the repetition rule, or for `*` also nothing
    · rename_i c hq hsfx
      obtain ⟨⟨r, e₁⟩, hrep, h⟩ := Except.bind_eq_ok.1 h
      have hv₁ := (repetition_valid hrep hv (Nat.lt_of_lt_of_le hxB hv.bound_le)).1
      obtain ⟨hs₁, hg₁, hl₁⟩ := repetition_grows hrep hv hs ⟨hx1, hxB⟩
      have ih := expandItems_expanded hbelow hpos h hv₁ hs₁
      obtain ⟨more, hmore⟩ := ih.grows.repeats
      have hl : e'.repeats.lookup (x, item.field) = some r := by
        rw [hmore, List.lookup_append, hl₁]
        rfl
      refine ⟨ih.valid, ih.repeats, hg₁.trans ih.grows, ?_, sides_cons_of_extend hx ?_ ih.sides⟩
      · intro i hi x' c' hx' hc'
        rcases List.mem_cons.1 hi with rfl | hi
        · rw [hx] at hx'
          cases hx'
          exact fun _ => ⟨r, hl⟩
        · exact ih.made i hi x' c' hx' hc'
      · intro γ
        simp only [Ebnf.ItemSide, hsfx, if_neg hq, hl]
        grind

/-! ### Productions of the alternatives -/

/-- Where the productions after adding some of `lhs` stand: before the old end, the
    old ones; after it, the new ones. -/
theorem getElem?_foldl_push_cases {lhs p : Nat} {prod : Production} :
    ∀ {sides : List (List Nat × List (Nat × String))} {ps : Array Production},
    (sides.foldl (fun ps side => ps.push ⟨lhs, side.1, side.2⟩) ps)[p]? = some prod →
      ps[p]? = some prod ∨ (ps.size ≤ p ∧ ∃ side ∈ sides, prod = ⟨lhs, side.1, side.2⟩)
  | [], ps, h => .inl h
  | side :: rest, ps, h => by
    rw [List.foldl_cons] at h
    rcases getElem?_foldl_push_cases h with h | ⟨hp, side', hside', rfl⟩
    · rw [Array.getElem?_push] at h
      split at h
      · cases h
        exact .inr ⟨by omega, side, List.mem_cons_self, rfl⟩
      · exact .inl h
    · exact .inr ⟨by simp at hp; omega, side', List.mem_cons_of_mem _ hside', rfl⟩

/-- Every side added stands after the old end. -/
theorem exists_getElem?_foldl_push (lhs : Nat) :
    ∀ {sides : List (List Nat × List (Nat × String))} (ps : Array Production)
      {side : List Nat × List (Nat × String)}, side ∈ sides →
      ∃ p, ps.size ≤ p ∧
        (sides.foldl (fun ps side => ps.push ⟨lhs, side.1, side.2⟩) ps)[p]? =
          some ⟨lhs, side.1, side.2⟩
  | [], _, _, h => absurd h List.not_mem_nil
  | s :: rest, ps, side, h => by
    rw [List.foldl_cons]
    rcases List.mem_cons.1 h with rfl | h
    · refine ⟨ps.size, Nat.le_refl _, ?_⟩
      rw [getElem?_foldl_push (by simp)]
      simp
    · obtain ⟨p, hp, hget⟩ := exists_getElem?_foldl_push lhs (ps.push _) h
      exact ⟨p, by simp at hp; omega, hget⟩

/-- What the expansion keeps of the alternatives it has expanded, those that `Done`
    holds of by rule index: a valid expansion with sound repetition rules, each of those
    alternatives with its repeated items' rules made, every production but the augmented
    start a side of one of them or one of a repetition rule, and every side of each of
    them a production of its rule. -/
structure Tracks (E : Ebnf) (Done : Nat → List Item → Prop) (e : Expansion) : Prop where
  valid : e.Valid E.tokenCount (E.tokenCount + E.rules.length)
  repeats : e.RepeatsSound (E.tokenCount + E.rules.length)
  made : ∀ i alt, Done i alt → E.RepsMade e.repeats alt
  sound : ∀ p prod, 1 ≤ p → e.grammar.productions[p]? = some prod →
    (∃ i alt, Done i alt ∧ prod.lhs = E.tokenCount + i ∧ E.Sides e.repeats alt prod.rhs) ∨
    (∃ x f, ((x, f), prod.lhs) ∈ e.repeats ∧ (prod.rhs = [prod.lhs, x] ∨ prod.rhs = [x]))
  complete : ∀ i alt rhs, Done i alt → E.Sides e.repeats alt rhs →
    e.grammar.HasProduction (E.tokenCount + i) rhs

namespace Tracks

variable {Done : Nat → List Item → Prop} {e : Expansion}

theorem congr {Done' : Nat → List Item → Prop} (ht : Tracks E Done e)
    (h : ∀ i alt, Done' i alt ↔ Done i alt) : Tracks E Done' e := by
  refine ⟨ht.valid, ht.repeats, fun i alt hd => ht.made i alt ((h i alt).1 hd), ?_,
    fun i alt rhs hd => ht.complete i alt rhs ((h i alt).1 hd)⟩
  intro p prod hp hprod
  rcases ht.sound p prod hp hprod with ⟨i, alt, hd, hlhs, hsides⟩ | hrep
  · exact .inl ⟨i, alt, (h i alt).2 hd, hlhs, hsides⟩
  · exact .inr hrep

/-- Making repetition rules keeps what the expanded alternatives have given: their
    repeated items' rules are made already, so their sides stay the same. -/
theorem grows {e' : Expansion} (ht : Tracks E Done e) (hg : e.Grows e')
    (hv : e'.Valid E.tokenCount (E.tokenCount + E.rules.length))
    (hs : e'.RepeatsSound (E.tokenCount + E.rules.length)) : Tracks E Done e' := by
  obtain ⟨more, hmore⟩ := hg.repeats
  refine ⟨hv, hs, fun i alt hd => hmore ▸ (ht.made i alt hd).append more, ?_, ?_⟩
  · intro p prod hp hprod
    by_cases hlt : p < e.grammar.productions.size
    · rw [hg.kept p hlt] at hprod
      rcases ht.sound p prod hp hprod with ⟨i, alt, hd, hlhs, hsides⟩ | ⟨x, f, hmem, hrhs⟩
      · refine .inl ⟨i, alt, hd, hlhs, ?_⟩
        rw [hmore]
        exact (Ebnf.sides_append_iff more (ht.made i alt hd)).2 hsides
      · exact .inr ⟨x, f, by rw [hmore]; exact List.mem_append_left _ hmem, hrhs⟩
    · exact .inr (hg.made p prod (Nat.not_lt.1 hlt) hprod)
  · intro i alt rhs hd hsides
    rw [hmore, Ebnf.sides_append_iff more (ht.made i alt hd)] at hsides
    exact (ht.complete i alt rhs hd hsides).of_kept hg.kept

/-- Writing the sides of one more alternative `alt` of rule `j` as its productions. -/
theorem pushSides {j : Nat} {alt : List Item} {sides : List (List Nat × List (Nat × String))}
    (ht : Tracks E Done e) (hj : j < E.rules.length) (hmade : E.RepsMade e.repeats alt)
    (hsides : ∀ rhs, rhs ∈ sides.map Prod.fst ↔ E.Sides e.repeats alt rhs)
    (hbelow : SidesBelow sides e.grammar.symbolNames.size) :
    Tracks E (fun i a => Done i a ∨ (i = j ∧ a = alt)) { e with grammar := { e.grammar with
      productions := sides.foldl (fun ps side => ps.push ⟨E.tokenCount + j, side.1, side.2⟩)
        e.grammar.productions } } := by
  have hkept : ∀ p, p < e.grammar.productions.size →
      (sides.foldl (fun ps side => ps.push ⟨E.tokenCount + j, side.1, side.2⟩)
        e.grammar.productions)[p]? = e.grammar.productions[p]? :=
    fun p hp => getElem?_foldl_push hp
  have hpos : 0 < e.grammar.productions.size := by
    rcases Nat.eq_zero_or_pos e.grammar.productions.size with hzero | hpos
    · have h0 := ht.valid.augmented
      rw [Array.getElem?_eq_none (by omega)] at h0
      cases h0
    · exact hpos
  refine ⟨ht.valid.pushSides hbelow (Nat.le_add_right _ _) (by omega),
    ⟨ht.repeats.ge, ht.repeats.sym, ht.repeats.nodup, fun x f r hmem =>
      (ht.repeats.productions x f r hmem).imp (·.of_kept hkept) (·.of_kept hkept)⟩, ?_, ?_, ?_⟩
  · rintro i a (hd | ⟨rfl, rfl⟩)
    · exact ht.made i a hd
    · exact hmade
  · intro p prod hp hprod
    rcases getElem?_foldl_push_cases hprod with hold | ⟨-, side, hside, rfl⟩
    · rcases ht.sound p prod hp hold with ⟨i, a, hd, hlhs, hs⟩ | hrep
      · exact .inl ⟨i, a, .inl hd, hlhs, hs⟩
      · exact .inr hrep
    · exact .inl ⟨j, alt, .inr ⟨rfl, rfl⟩, rfl, (hsides side.1).1 (List.mem_map_of_mem hside)⟩
  · rintro i a rhs (hd | ⟨rfl, rfl⟩) hs
    · exact (ht.complete i a rhs hd hs).of_kept hkept
    · obtain ⟨side, hside, rfl⟩ := List.mem_map.1 ((hsides rhs).2 hs)
      obtain ⟨p, hp, hget⟩ := exists_getElem?_foldl_push (E.tokenCount + i)
        e.grammar.productions hside
      exact ⟨p, _, by omega, hget, rfl, rfl⟩

end Tracks

/-- Expanding the alternatives of rule `j` writes the sides of each as productions. -/
theorem tracks_expandRule (hbelow : E.scope.Below (E.tokenCount + E.rules.length))
    (hpos : NamesPos E.scope.named ∧ NamesPos E.scope.literals) {ruleName : String} {j : Nat}
    (hj : j < E.rules.length) :
    ∀ {alts : List (List Item)} {e e' : Expansion} {Done : Nat → List Item → Prop},
    expandRule E.scope ruleName (E.tokenCount + j) alts e = .ok e' → Tracks E Done e →
      Tracks E (fun i alt => Done i alt ∨ (i = j ∧ alt ∈ alts)) e'
  | [], e, e', Done, h, ht => by
    simp only [Expansion.expandRule, Except.ok.injEq] at h
    subst h
    exact ht.congr fun i alt => by simp
  | items :: rest, e, e', Done, h, ht => by
    simp only [Expansion.expandRule] at h
    obtain ⟨⟨sides, e₁⟩, hitems, h⟩ := Except.bind_eq_ok.1 h
    have hx := expandItems_expanded hbelow hpos hitems ht.valid ht.repeats
    have hsides : ∀ rhs, rhs ∈ sides.map Prod.fst ↔ E.Sides e₁.repeats items rhs := by
      intro rhs
      rw [hx.sides]
      simp
    have hbelow' : SidesBelow sides e₁.grammar.symbolNames.size :=
      (expandItems_valid hbelow hitems ht.valid (by simp [SidesBelow])).2
    have ht₂ := (ht.grows hx.grows hx.valid hx.repeats).pushSides hj hx.made hsides hbelow'
    refine (tracks_expandRule hbelow hpos hj h ht₂).congr fun i alt => ?_
    simp only [List.mem_cons]
    tauto

/-- The alternatives of the first `k` rules. -/
def DoneBefore (E : Ebnf) (k i : Nat) (alt : List Item) : Prop :=
  i < k ∧ ∃ alts, E.rules[i]? = some alts ∧ alt ∈ alts

theorem doneBefore_succ {k : Nat} {alts : List (List Item)} (hk : E.rules[k]? = some alts)
    (i : Nat) (alt : List Item) :
    DoneBefore E (k + 1) i alt ↔ DoneBefore E k i alt ∨ (i = k ∧ alt ∈ alts) := by
  unfold DoneBefore
  constructor
  · rintro ⟨hi, alts', hi', halt⟩
    rcases Nat.lt_succ_iff_lt_or_eq.1 hi with hi | rfl
    · exact .inl ⟨hi, alts', hi', halt⟩
    · rw [hk] at hi'
      cases hi'
      exact .inr ⟨rfl, halt⟩
  · rintro (⟨hi, alts', hi', halt⟩ | ⟨rfl, halt⟩)
    · exact ⟨by omega, alts', hi', halt⟩
    · exact ⟨by omega, alts, hk, halt⟩

/-- Expanding the rules one after another, each with its index: the induction is on
    the rules left, `k` of them done. -/
theorem tracks_foldlM (hbelow : E.scope.Below (E.tokenCount + E.rules.length))
    (hpos : NamesPos E.scope.named ∧ NamesPos E.scope.literals)
    {f : Expansion → (RuleDecl × List (List Item)) × Nat → Except GrammarError Expansion}
    (hf : ∀ e r alts i, f e ((r, alts), i) = expandRule E.scope r.name (E.tokenCount + i) alts e) :
    ∀ (rs : List RuleDecl) (ps : List (List (List Item))) (k : Nat) {e e' : Expansion},
    rs.length = ps.length → (∀ i (h : i < ps.length), E.rules[k + i]? = some ps[i]) →
    k + ps.length ≤ E.rules.length → ((rs.zip ps).zipIdx k).foldlM f e = .ok e' →
    Tracks E (DoneBefore E k) e → Tracks E (DoneBefore E (k + ps.length)) e'
  | [], [], k, e, e', _, _, _, h, ht => by
    simp only [List.zip_nil_left, List.zipIdx_nil, List.foldlM_nil, pure, Except.pure,
      Except.ok.injEq] at h
    subst h
    simpa using ht
  | [], _ :: _, _, _, _, hlen, _, _, _, _ => absurd hlen (by simp)
  | _ :: _, [], _, _, _, hlen, _, _, _, _ => absurd hlen (by simp)
  | r :: rs, alts :: ps, k, e, e', hlen, hrules, hle, h, ht => by
    rw [List.zip_cons_cons, List.zipIdx_cons, List.foldlM_cons] at h
    obtain ⟨e₁, h₁, h⟩ := Except.bind_eq_ok.1 h
    rw [hf] at h₁
    have hk : E.rules[k]? = some alts := by
      have := hrules 0 (by simp)
      rwa [Nat.add_zero, List.getElem_cons_zero] at this
    simp only [List.length_cons] at hle hlen
    have ht₁ := (tracks_expandRule hbelow hpos (by omega) h₁ ht).congr (doneBefore_succ hk)
    have hrest := tracks_foldlM hbelow hpos hf rs ps (k + 1) (by omega)
      (fun i hi => by
        rw [show k + 1 + i = k + (i + 1) by omega, hrules (i + 1) (by simp; omega),
          List.getElem_cons_succ])
      (by omega) h ht₁
    simpa [List.length_cons, Nat.add_assoc, Nat.add_comm 1 ps.length] using hrest

/-- With every rule expanded, the grammar expands the rules read as EBNF. -/
theorem Tracks.expands {e : Expansion} (ht : Tracks E (DoneBefore E E.rules.length) e)
    (hbelow : E.scope.Below (E.tokenCount + E.rules.length))
    (hpos : NamesPos E.scope.named ∧ NamesPos E.scope.literals) (htc : 1 ≤ E.tokenCount)
    (hrules : 0 < E.rules.length) : e.grammar.Expands E e.repeats where
  tokenCount := ht.valid.tokenCount
  start := ht.valid.start
  tokenCount_pos := htc
  rules_pos := hrules
  resolve_pos _ _ h := resolve_pos h hpos.1 hpos.2
  resolve_lt _ _ h := resolve_lt h hbelow.named hbelow.literals
  rep_ge := ht.repeats.ge
  rep_pos x f r h := (ht.repeats.sym x f r h).1
  rep_lt x f r h := (ht.repeats.sym x f r h).2
  rep_nodup := ht.repeats.nodup
  sound p prod hp hprod := by
    rcases ht.sound p prod hp hprod with ⟨i, alt, ⟨-, alts, hi, halt⟩, hlhs, hsides⟩ | hrep
    · exact .inl ⟨i, alts, alt, hi, halt, hlhs, hsides⟩
    · exact .inr hrep
  complete i alts alt rhs hi halt hsides :=
    ht.complete i alt rhs ⟨(List.getElem?_eq_some_iff.1 hi).1, alts, hi, halt⟩ hsides
  complete_rep := ht.repeats.productions
  rep_made i alts alt hi halt :=
    ht.made i alt ⟨(List.getElem?_eq_some_iff.1 hi).1, alts, hi, halt⟩

end Expansion

/-- Every grammar that `Grammar.ofSpec` returns expands the rules of its description,
    read as EBNF, with the repetition rules it made. -/
theorem Grammar.expands_ofSpec {spec : GrammarSpec} {g : Grammar}
    (h : Grammar.ofSpec spec = .ok g) : ∃ E reps, spec.ebnf = .ok E ∧ g.Expands E reps := by
  simp only [Grammar.ofSpec] at h
  split at h
  · cases h
  rename_i hrules
  have hpos : 0 < spec.rules.length := by
    cases hr : spec.rules with
    | nil => simp [hr] at hrules
    | cons _ _ => simp
  obtain ⟨parsed, hparsed, h⟩ := Except.bind_eq_ok.1 h
  obtain ⟨⟨scope, grammar⟩, hnumber, h⟩ := Except.bind_eq_ok.1 h
  obtain ⟨hscope, hnamedPos, hlitsPos, htc, hone, hstart⟩ :=
    GrammarSpec.number_valid hpos hnumber
  obtain ⟨e, hexpand, h⟩ := Except.bind_eq_ok.1 h
  simp only [pure, Except.pure, Except.ok.injEq] at h
  subst h
  have hlen := readRules_length hparsed
  let E : Ebnf := ⟨scope, grammar.tokenCount, parsed⟩
  have hE : spec.ebnf = .ok E := by
    simp [GrammarSpec.ebnf, hparsed, hnumber, bind, Except.bind, pure, Except.pure, E]
  have hbelow : E.scope.Below (E.tokenCount + E.rules.length) := by
    simpa [E, hlen] using hscope
  -- before any rule: the augmented start alone, no repetition rule
  have ht₀ : Expansion.Tracks E (Expansion.DoneBefore E 0) ⟨grammar, [], 0⟩ := by
    refine ⟨by simpa [E, hlen] using hstart, ⟨by simp, by simp, by simp, by simp⟩,
      fun i _ hd => absurd hd.1 (Nat.not_lt_zero i), ?_, fun i _ _ hd => absurd hd.1 (Nat.not_lt_zero i)⟩
    intro p prod hp hprod
    have := (Array.getElem?_eq_some_iff.1 hprod).1
    simp only at this
    omega
  have ht := Expansion.tracks_foldlM hbelow ⟨hnamedPos, hlitsPos⟩ (fun _ _ _ _ => rfl)
    spec.rules parsed 0 hlen.symm (fun i hi => by simp [E, List.getElem?_eq_getElem hi])
    (by simp [E]) hexpand ht₀
  rw [Nat.zero_add] at ht
  exact ⟨E, e.repeats, hE, ht.expands hbelow ⟨hnamedPos, hlitsPos⟩ htc (by simp [E, hlen, hpos])⟩

end IncrementalLR
