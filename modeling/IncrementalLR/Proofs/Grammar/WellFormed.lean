import IncrementalLR.Grammar.Productions

/-!
# Well-formed grammars

`Grammar.ofSpec` numbers every symbol below the error symbol and writes its productions over
those numbers only.
-/

namespace IncrementalLR

theorem Except.bind_eq_ok {ε α β : Type} {x : Except ε α} {f : α → Except ε β} {b : β} :
    x >>= f = .ok b ↔ ∃ a, x = .ok a ∧ f a = .ok b := by
  cases x <;> simp [bind, Except.bind]

/-- A property kept by every step of a fold in `Except` holds of its result. -/
theorem List.foldlM_except_induction {ε α β : Type} {f : β → α → Except ε β} (P : β → Prop) :
    ∀ {l : List α} {b b' : β}, (∀ a ∈ l, ∀ c c', P c → f c a = .ok c' → P c') →
      P b → l.foldlM f b = .ok b' → P b'
  | [], b, b', _, hb, h => by
    simp only [List.foldlM, pure, Except.pure, Except.ok.injEq] at h
    exact h ▸ hb
  | a :: l, b, b', hf, hb, h => by
    rw [List.foldlM_cons] at h
    obtain ⟨c, hc, h⟩ := Except.bind_eq_ok.1 h
    exact List.foldlM_except_induction P (fun a' ha' => hf a' (List.mem_cons_of_mem a ha'))
      (hf a List.mem_cons_self b c hb hc) h

/-- A key that looks up a value stands in the list with it. -/
theorem List.mem_of_lookup {α β : Type} [BEq α] [LawfulBEq α] {l : List (α × β)} {k : α} {b : β}
    (h : l.lookup k = some b) : (k, b) ∈ l := by
  obtain ⟨l₁, l₂, rfl, -⟩ := List.lookup_eq_some_iff.1 h
  simp

/-- What the table construction needs of a grammar. -/
structure Grammar.WellFormed (g : Grammar) : Prop where
  tokenCount_lt : g.tokenCount < g.symbolNames.size
  size_le : g.symbolNames.size ≤ errorSymbol
  start : g.startSymbol = g.tokenCount
  augmented : g.productions[0]? = some ⟨g.tokenCount, [g.tokenCount], []⟩
  lhs_ge : ∀ p ∈ g.productions, g.tokenCount ≤ p.lhs
  lhs_lt : ∀ p ∈ g.productions, p.lhs < g.symbolNames.size
  rhs_lt : ∀ p ∈ g.productions, ∀ x ∈ p.rhs, x < g.symbolNames.size

/-- Every value of a name table lies below `bound`. -/
def NamesBelow (named : ListMap String Nat) (bound : Nat) : Prop :=
  ∀ (k : String) (v : Nat), named[k]? = some v → v < bound

theorem NamesBelow.mono {named : ListMap String Nat} {a b : Nat}
    (h : NamesBelow named a) (hab : a ≤ b) : NamesBelow named b :=
  fun k v hk => Nat.lt_of_lt_of_le (h k v hk) hab

theorem NamesBelow.insert {named : ListMap String Nat} {bound : Nat} (name : String)
    {v : Nat} (h : NamesBelow named bound) (hv : v < bound) :
    NamesBelow (named.insert name v) bound := by
  intro k w hk
  rw [ListMap.getElem?_insert] at hk
  split at hk
  · cases hk
    exact hv
  · exact h k w hk

theorem NamesBelow.empty (bound : Nat) : NamesBelow {} bound := by
  intro k v hk
  simp at hk

/-- Every value of a name table is a symbol after the end of the input. -/
def NamesPos (named : ListMap String Nat) : Prop :=
  ∀ (k : String) (v : Nat), named[k]? = some v → 1 ≤ v

theorem NamesPos.insert {named : ListMap String Nat} (name : String) {v : Nat}
    (h : NamesPos named) (hv : 1 ≤ v) : NamesPos (named.insert name v) := by
  intro k w hk
  rw [ListMap.getElem?_insert] at hk
  split at hk
  · cases hk
    exact hv
  · exact h k w hk

theorem NamesPos.empty : NamesPos {} := by
  intro k v hk
  simp at hk

/-- Numbering tokens keeps every symbol below the error symbol and below the number of
    names, and after the end of the input. -/
theorem numberTokens_bounds : ∀ {ts : List TokenDecl} {symbol : Nat}
    {named : ListMap String Nat} {lex : LexTable} {names : Array String}
    {infos : Array SymbolInfo} {externals extras : List Nat}
    {r : ListMap String Nat × LexTable × Array String × Array SymbolInfo × List Nat ×
      List Nat},
    numberTokens ts symbol named lex names infos externals extras = .ok r →
    names.size = symbol → 1 ≤ symbol → symbol ≤ errorSymbol → NamesBelow named symbol →
    NamesPos named →
    symbol ≤ r.2.2.1.size ∧ r.2.2.1.size ≤ errorSymbol ∧ NamesBelow r.1 r.2.2.1.size ∧
      NamesPos r.1
  | [], symbol, named, lex, names, infos, externals, extras, r, h, hsize, _, hle, hnamed,
      hpos => by
    simp only [numberTokens, Except.ok.injEq] at h
    subst h
    exact ⟨by simp [hsize], by simp [hsize, hle], by simpa [hsize] using hnamed, hpos⟩
  | t :: ts, symbol, named, lex, names, infos, externals, extras, r, h, hsize, hone, hle,
      hnamed, hpos => by
    simp only [numberTokens] at h
    split at h
    · cases h
    rename_i hsym
    split at h
    · cases h
    -- whatever the token's source, the rest is numbered from the next symbol on
    have hnext : ∀ {lex' externals' extras'}, numberTokens ts (symbol + 1)
        (named.insert t.name symbol) lex' (names.push t.name)
        (infos.push ⟨!t.name.startsWith "_", true⟩) externals' extras' = .ok r →
        symbol ≤ r.2.2.1.size ∧ r.2.2.1.size ≤ errorSymbol ∧ NamesBelow r.1 r.2.2.1.size ∧
          NamesPos r.1 := by
      intro lex' externals' extras' hrest
      have hinsert := (hnamed.mono (Nat.le_succ symbol)).insert t.name (Nat.lt_succ_self symbol)
      obtain ⟨h1, h2, h3, h4⟩ := numberTokens_bounds hrest (by simp [hsize]) (by omega)
        (by omega) hinsert (hpos.insert t.name hone)
      exact ⟨by omega, h2, h3, h4⟩
    split at h
    · obtain ⟨p, -, h⟩ := Except.bind_eq_ok.1 h
      exact hnext h
    · exact hnext h

/-- Numbering rules from `symbol` on gives them the symbols up to `symbol + rs.length`,
    all below the error symbol and after the end of the input. -/
theorem numberRules_bounds : ∀ {rs : List RuleDecl} {symbol : Nat}
    {named named' : ListMap String Nat},
    numberRules rs symbol named = .ok named' → 1 ≤ symbol → symbol ≤ errorSymbol →
    NamesBelow named symbol → NamesPos named →
    symbol + rs.length ≤ errorSymbol ∧ NamesBelow named' (symbol + rs.length) ∧
      NamesPos named'
  | [], symbol, named, named', h, _, hle, hnamed, hpos => by
    simp only [numberRules, Except.ok.injEq] at h
    subst h
    exact ⟨by simpa using hle, by simpa using hnamed, hpos⟩
  | r :: rs, symbol, named, named', h, hone, hle, hnamed, hpos => by
    simp only [numberRules] at h
    split at h
    · cases h
    rename_i hsym
    split at h
    · cases h
    have hinsert := (hnamed.mono (Nat.le_succ symbol)).insert r.name (Nat.lt_succ_self symbol)
    obtain ⟨h1, h2, h3⟩ := numberRules_bounds h (by omega) (by omega) hinsert
      (hpos.insert r.name hone)
    simp only [List.length_cons]
    exact ⟨by omega, fun k v hk => by have := h2 k v hk; omega, h3⟩

/-- What rule expansion keeps: the counts and the augmented start of the grammar it
    extends, symbols below the error symbol and at least `bound` of them, productions
    over the grammar's symbols with nonterminals on their left, and repetition rules
    that are symbols of the grammar. -/
structure Expansion.Valid (tc bound : Nat) (e : Expansion) : Prop where
  tokenCount : e.grammar.tokenCount = tc
  start : e.grammar.startSymbol = tc
  tc_le : tc ≤ bound
  bound_le : bound ≤ e.grammar.symbolNames.size
  size_le : e.grammar.symbolNames.size ≤ errorSymbol
  augmented : e.grammar.productions[0]? = some ⟨tc, [tc], []⟩
  lhs_ge : ∀ p ∈ e.grammar.productions, tc ≤ p.lhs
  lhs_lt : ∀ p ∈ e.grammar.productions, p.lhs < e.grammar.symbolNames.size
  rhs_lt : ∀ p ∈ e.grammar.productions, ∀ x ∈ p.rhs, x < e.grammar.symbolNames.size
  repeats_lt : ∀ q ∈ e.repeats, q.2 < e.grammar.symbolNames.size

/-- Every symbol of the right sides lies below `n`. -/
def SidesBelow (sides : List (List Nat × List (Nat × String))) (n : Nat) : Prop :=
  ∀ side ∈ sides, ∀ x ∈ side.1, x < n

theorem SidesBelow.mono {sides : List (List Nat × List (Nat × String))} {a b : Nat}
    (h : SidesBelow sides a) (hab : a ≤ b) : SidesBelow sides b :=
  fun side hside x hx => Nat.lt_of_lt_of_le (h side hside x hx) hab

theorem SidesBelow.extend {sides : List (List Nat × List (Nat × String))} {n symbol : Nat}
    (h : SidesBelow sides n) (hsymbol : symbol < n) (field : Option String) (optional : Bool) :
    SidesBelow (Expansion.extend sides symbol field optional) n := by
  intro side hside x hx
  simp only [Expansion.extend, List.mem_flatMap] at hside
  obtain ⟨⟨rhs, fields⟩, hmem, hside⟩ := hside
  have hrhs := h _ hmem
  cases optional <;> simp at hside
  · subst hside
    simp only [List.mem_append, List.mem_singleton] at hx
    rcases hx with hx | rfl
    · exact hrhs x hx
    · exact hsymbol
  · rcases hside with rfl | rfl
    · exact hrhs x hx
    · simp only [List.mem_append, List.mem_singleton] at hx
      rcases hx with hx | rfl
      · exact hrhs x hx
      · exact hsymbol

/-- A name resolves to a value of the scope's names, a literal to one of its
    literals. -/
theorem Expansion.resolve_mem {scope : SymbolScope} {item : Item} {s : Nat}
    (h : Expansion.resolve scope item = .ok s) :
    (∃ k : String, scope.named[k]? = some s) ∨ ∃ k : String, scope.literals[k]? = some s := by
  unfold Expansion.resolve at h
  split at h
  · split at h
    · cases h
      exact .inl ⟨_, ‹_›⟩
    · cases h
  · split at h
    · cases h
      exact .inr ⟨_, ‹_›⟩
    · cases h

/-- A name or literal resolves to a symbol below the scope's bound. -/
theorem Expansion.resolve_lt {scope : SymbolScope} {bound : Nat} {item : Item} {s : Nat}
    (h : Expansion.resolve scope item = .ok s) (hnamed : NamesBelow scope.named bound)
    (hliterals : NamesBelow scope.literals bound) : s < bound := by
  rcases resolve_mem h with ⟨k, hk⟩ | ⟨k, hk⟩
  · exact hnamed k s hk
  · exact hliterals k s hk

/-- A repetition rule is a symbol of the grammar, made without breaking it. -/
theorem Expansion.repetition_valid {tc bound : Nat} {e e' : Expansion} {ruleName : String}
    {symbol r : Nat} {field : Option String} (h : e.repetition ruleName symbol field = .ok (r, e'))
    (hv : e.Valid tc bound) (hsymbol : symbol < e.grammar.symbolNames.size) :
    e'.Valid tc bound ∧ r < e'.grammar.symbolNames.size ∧
      e.grammar.symbolNames.size ≤ e'.grammar.symbolNames.size := by
  unfold Expansion.repetition at h
  split at h
  · rename_i r' hlookup
    cases h
    exact ⟨hv, hv.repeats_lt _ (List.mem_of_lookup hlookup), Nat.le_refl _⟩
  · simp only at h
    split at h
    · cases h
    rename_i hsize
    simp only [Except.ok.injEq, Prod.mk.injEq] at h
    obtain ⟨rfl, rfl⟩ := h
    have hsize' : e.grammar.symbolNames.size < errorSymbol := by omega
    refine ⟨⟨hv.tokenCount, hv.start, hv.tc_le, ?_, ?_, ?_, ?_, ?_, ?_, ?_⟩, ?_, ?_⟩
    · simp only [Array.size_push]
      exact Nat.le_succ_of_le hv.bound_le
    · simp only [Array.size_push]
      omega
    · simp only [Array.getElem?_push, Array.size_push]
      split
      · omega
      · split
        · rename_i h0
          have h := hv.augmented
          rw [Array.getElem?_eq_none (by omega)] at h
          cases h
        · exact hv.augmented
    · intro p hp
      simp only [Array.mem_push] at hp
      rcases hp with (hp | rfl) | rfl
      · exact hv.lhs_ge p hp
      · exact Nat.le_trans hv.tc_le hv.bound_le
      · exact Nat.le_trans hv.tc_le hv.bound_le
    · intro p hp
      simp only [Array.mem_push, Array.size_push] at hp ⊢
      rcases hp with (hp | rfl) | rfl
      · exact Nat.lt_succ_of_lt (hv.lhs_lt p hp)
      · exact Nat.lt_succ_self _
      · exact Nat.lt_succ_self _
    · intro p hp x hx
      simp only [Array.mem_push, Array.size_push] at hp ⊢
      rcases hp with (hp | rfl) | rfl
      · exact Nat.lt_succ_of_lt (hv.rhs_lt p hp x hx)
      · simp only [List.mem_cons, List.not_mem_nil, or_false] at hx
        rcases hx with rfl | rfl
        · exact Nat.lt_succ_self _
        · exact Nat.lt_succ_of_lt hsymbol
      · simp only [List.mem_cons, List.not_mem_nil, or_false] at hx
        subst hx
        exact Nat.lt_succ_of_lt hsymbol
    · intro q hq
      simp only [List.mem_append, List.mem_singleton, Array.size_push] at hq ⊢
      rcases hq with hq | rfl
      · exact Nat.lt_succ_of_lt (hv.repeats_lt q hq)
      · exact Nat.lt_succ_self _
    · simp
    · simp

/-- Both tables of a scope give symbols below `bound`. -/
structure SymbolScope.Below (scope : SymbolScope) (bound : Nat) : Prop where
  named : NamesBelow scope.named bound
  literals : NamesBelow scope.literals bound

/-- Expanding the items of an alternative keeps the expansion valid and its right sides
    over the grammar's symbols. -/
theorem Expansion.expandItems_valid {tc bound : Nat} {scope : SymbolScope} {ruleName : String}
    (hscope : scope.Below bound) : ∀ {items : List Item}
    {sides sides' : List (List Nat × List (Nat × String))} {e e' : Expansion},
    Expansion.expandItems scope ruleName items sides e = .ok (sides', e') → e.Valid tc bound →
    SidesBelow sides e.grammar.symbolNames.size →
    e'.Valid tc bound ∧ SidesBelow sides' e'.grammar.symbolNames.size
  | [], sides, sides', e, e', h, hv, hsides => by
    simp only [Expansion.expandItems, Except.ok.injEq, Prod.mk.injEq] at h
    obtain ⟨rfl, rfl⟩ := h
    exact ⟨hv, hsides⟩
  | item :: items, sides, sides', e, e', h, hv, hsides => by
    simp only [Expansion.expandItems] at h
    obtain ⟨symbol, hresolve, h⟩ := Except.bind_eq_ok.1 h
    have hsymbol : symbol < e.grammar.symbolNames.size :=
      Nat.lt_of_lt_of_le (resolve_lt hresolve hscope.named hscope.literals) hv.bound_le
    split at h
    · exact expandItems_valid hscope h hv (hsides.extend hsymbol _ _)
    · exact expandItems_valid hscope h hv (hsides.extend hsymbol _ _)
    · obtain ⟨⟨r, e₁⟩, hrep, h⟩ := Except.bind_eq_ok.1 h
      obtain ⟨hv₁, hr, hgrow⟩ := repetition_valid hrep hv hsymbol
      exact expandItems_valid hscope h hv₁ ((hsides.mono hgrow).extend hr _ _)

/-- A production of the productions extended by right sides of `lhs` is an old one or
    one of the new. -/
theorem mem_foldl_push {lhs : Nat} : ∀ {sides : List (List Nat × List (Nat × String))}
    {ps : Array Production} {p : Production},
    p ∈ sides.foldl (fun ps side => ps.push ⟨lhs, side.1, side.2⟩) ps →
      p ∈ ps ∨ ∃ side ∈ sides, p = ⟨lhs, side.1, side.2⟩
  | [], ps, p, h => .inl h
  | side :: rest, ps, p, h => by
    simp only [List.foldl_cons] at h
    rcases mem_foldl_push h with h | ⟨s, hs, rfl⟩
    · simp only [Array.mem_push] at h
      rcases h with h | rfl
      · exact .inl h
      · exact .inr ⟨side, List.mem_cons_self, rfl⟩
    · exact .inr ⟨s, List.mem_cons_of_mem _ hs, rfl⟩

/-- Extending the productions keeps the ones already there. -/
theorem getElem?_foldl_push {lhs i : Nat} : ∀ {sides : List (List Nat × List (Nat × String))}
    {ps : Array Production}, i < ps.size →
    (sides.foldl (fun ps side => ps.push ⟨lhs, side.1, side.2⟩) ps)[i]? = ps[i]?
  | [], ps, _ => rfl
  | side :: rest, ps, hi => by
    simp only [List.foldl_cons]
    rw [getElem?_foldl_push (by simp; omega)]
    simp [Array.getElem?_push, Nat.ne_of_lt hi]

/-- Adding productions of a nonterminal `lhs` below `bound`, with right sides over the
    grammar's symbols, keeps the expansion valid. -/
theorem Expansion.Valid.pushSides {tc bound lhs : Nat} {e : Expansion}
    {sides : List (List Nat × List (Nat × String))} (hv : e.Valid tc bound)
    (hsides : SidesBelow sides e.grammar.symbolNames.size) (hlhs : tc ≤ lhs) (hlt : lhs < bound) :
    Expansion.Valid tc bound { e with grammar := { e.grammar with
      productions := sides.foldl (fun ps side => ps.push ⟨lhs, side.1, side.2⟩)
        e.grammar.productions } } := by
  -- the new productions of `lhs` are the expanded right sides
  have hgood : ∀ p ∈ sides.foldl (fun ps side => ps.push ⟨lhs, side.1, side.2⟩)
      e.grammar.productions, tc ≤ p.lhs ∧ p.lhs < e.grammar.symbolNames.size ∧
        ∀ x ∈ p.rhs, x < e.grammar.symbolNames.size := by
    intro p hp
    rcases mem_foldl_push hp with hp | ⟨side, hside, rfl⟩
    · exact ⟨hv.lhs_ge p hp, hv.lhs_lt p hp, hv.rhs_lt p hp⟩
    · exact ⟨hlhs, Nat.lt_of_lt_of_le hlt hv.bound_le, hsides side hside⟩
  have hsize : 0 < e.grammar.productions.size := by
    rcases Nat.eq_zero_or_pos e.grammar.productions.size with hzero | hpos
    · have h0 := hv.augmented
      rw [Array.getElem?_eq_none (by omega)] at h0
      cases h0
    · exact hpos
  refine ⟨hv.tokenCount, hv.start, hv.tc_le, hv.bound_le, hv.size_le, ?_,
    fun p hp => (hgood p hp).1, fun p hp => (hgood p hp).2.1, fun p hp => (hgood p hp).2.2,
    hv.repeats_lt⟩
  rw [getElem?_foldl_push hsize]
  exact hv.augmented

/-- Expanding the alternatives of a rule whose symbol lies below `bound` keeps the
    expansion valid. -/
theorem Expansion.expandRule_valid {tc bound lhs : Nat} {scope : SymbolScope}
    {ruleName : String} (hscope : scope.Below bound) (hlhs : tc ≤ lhs) (hlt : lhs < bound) :
    ∀ {alts : List (List Item)} {e e' : Expansion},
    Expansion.expandRule scope ruleName lhs alts e = .ok e' → e.Valid tc bound → e'.Valid tc bound
  | [], e, e', h, hv => by
    simp only [Expansion.expandRule, Except.ok.injEq] at h
    exact h ▸ hv
  | items :: rest, e, e', h, hv => by
    simp only [Expansion.expandRule] at h
    obtain ⟨⟨sides, e₁⟩, hitems, h⟩ := Except.bind_eq_ok.1 h
    have hempty : SidesBelow [([], [])] e.grammar.symbolNames.size := by
      simp [SidesBelow]
    obtain ⟨hv₁, hsides⟩ := expandItems_valid hscope hitems hv hempty
    exact expandRule_valid hscope hlhs hlt h (hv₁.pushSides hsides hlhs hlt)

/-- What numbering a grammar description with rules gives: a scope whose symbols come
    after the end of the input and before the rules' end, at least one token (the end of
    the input itself), and a valid start for the expansion of the rules. -/
theorem GrammarSpec.number_valid {spec : GrammarSpec} {parsed : List (List (List Item))}
    {scope : SymbolScope} {grammar : Grammar} (hrules : 0 < spec.rules.length)
    (h : spec.number parsed = .ok (scope, grammar)) :
    scope.Below (grammar.tokenCount + spec.rules.length) ∧ NamesPos scope.named ∧
      NamesPos scope.literals ∧ 1 ≤ grammar.tokenCount ∧ grammar.productions.size = 1 ∧
      Expansion.Valid grammar.tokenCount (grammar.tokenCount + spec.rules.length)
        ⟨grammar, [], 0⟩ := by
  simp only [GrammarSpec.number] at h
  -- the skip pattern is all the two branches differ in
  split at h <;> obtain ⟨skip, -, h⟩ := Except.bind_eq_ok.1 h
  all_goals
  obtain ⟨⟨named, lex, names, infos, externals, extras⟩, htokens, h⟩ := Except.bind_eq_ok.1 h
  obtain ⟨⟨lex', literals, names', infos'⟩, hliterals, h⟩ := Except.bind_eq_ok.1 h
  obtain ⟨extras', -, h⟩ := Except.bind_eq_ok.1 h
  obtain ⟨named', hnumbered, h⟩ := Except.bind_eq_ok.1 h
  simp only [pure, Except.pure, Except.ok.injEq, Prod.mk.injEq] at h
  obtain ⟨rfl, rfl⟩ := h
  dsimp only at hnumbered ⊢
  -- the tokens, then the literals, take the symbols below the token count
  obtain ⟨hone, htokensLe, hnamed, hnamedPos⟩ := numberTokens_bounds htokens rfl
    (Nat.le_refl 1) (by decide) (NamesBelow.empty 1) NamesPos.empty
  dsimp only at hone htokensLe hnamed hnamedPos
  have hlits : names.size ≤ names'.size ∧ names'.size ≤ errorSymbol ∧
      NamesBelow literals names'.size ∧ NamesPos literals := by
    refine List.foldlM_except_induction
      (fun (acc : LexTable × ListMap String Nat × Array String × Array SymbolInfo) =>
        names.size ≤ acc.2.2.1.size ∧ acc.2.2.1.size ≤ errorSymbol ∧
          NamesBelow acc.2.1 acc.2.2.1.size ∧ NamesPos acc.2.1) ?_
      ⟨Nat.le_refl _, htokensLe, NamesBelow.empty _, NamesPos.empty⟩ hliterals
    rintro text - ⟨lex₀, lits₀, names₀, infos₀⟩ c' ⟨hle, hsize, hlits₀, hpos₀⟩ hstep
    split at hstep
    · cases hstep
    rename_i hfree
    simp only [Except.ok.injEq] at hstep
    subst hstep
    dsimp only at hle hsize hlits₀ hpos₀ hfree ⊢
    refine ⟨by simp; omega, by simp; omega, ?_, hpos₀.insert text (by omega)⟩
    exact (hlits₀.mono (by simp)).insert text (by simp)
  obtain ⟨hgrow, hlitsLe, hlitsBelow, hlitsPos⟩ := hlits
  -- the rules take the next symbols, one each
  obtain ⟨hrulesLe, hnamed', hnamedPos'⟩ :=
    numberRules_bounds hnumbered (by omega) hlitsLe (hnamed.mono hgrow) hnamedPos
  refine ⟨⟨hnamed', hlitsBelow.mono (Nat.le_add_right _ _)⟩, hnamedPos', hlitsPos, by omega, rfl,
    ?_⟩
  refine ⟨rfl, rfl, Nat.le_add_right _ _, by simp, by simpa using hrulesLe, rfl, ?_, ?_, ?_, ?_⟩
  · simp
  · simp only [List.size_toArray, List.length_map, Array.size_append, List.mem_toArray,
      List.mem_singleton, forall_eq, List.mem_toArray]
    omega
  · simp only [List.mem_toArray, forall_eq, List.mem_cons, List.not_mem_nil,
      or_false, Array.size_append, List.size_toArray, List.length_map]
    omega
  · simp

/-- Every grammar that `Grammar.ofSpec` returns is well formed. -/
theorem Grammar.wellFormed_ofSpec {spec : GrammarSpec} {g : Grammar}
    (h : Grammar.ofSpec spec = .ok g) : g.WellFormed := by
  simp only [Grammar.ofSpec] at h
  split at h
  · cases h
  rename_i hrules
  have hpos : 0 < spec.rules.length := by
    cases hr : spec.rules with
    | nil => simp [hr] at hrules
    | cons _ _ => simp
  obtain ⟨parsed, -, h⟩ := Except.bind_eq_ok.1 h
  obtain ⟨⟨scope, grammar⟩, hnumber, h⟩ := Except.bind_eq_ok.1 h
  obtain ⟨hscope, -, -, -, -, hstart⟩ := GrammarSpec.number_valid hpos hnumber
  obtain ⟨e, hexpand, h⟩ := Except.bind_eq_ok.1 h
  simp only [pure, Except.pure, Except.ok.injEq] at h
  subst h
  have hvalid := List.foldlM_except_induction
    (Expansion.Valid grammar.tokenCount (grammar.tokenCount + spec.rules.length)) (by
      rintro ⟨⟨r, alts⟩, i⟩ hmem e₀ e₁ hv₀ hstep
      have hi := List.snd_lt_of_mem_zipIdx hmem
      simp only [List.length_zip, Nat.add_zero] at hi
      exact Expansion.expandRule_valid hscope (Nat.le_add_right _ _)
        (by have := Nat.min_le_left spec.rules.length parsed.length; omega) hstep hv₀)
    hstart hexpand
  exact ⟨by have := hvalid.bound_le; rw [hvalid.tokenCount]; omega, hvalid.size_le,
    by rw [hvalid.start, hvalid.tokenCount], by rw [hvalid.tokenCount]; exact hvalid.augmented,
    fun p hp => hvalid.tokenCount ▸ hvalid.lhs_ge p hp, hvalid.lhs_lt, hvalid.rhs_lt⟩

end IncrementalLR
