import Mathlib.Data.List.Nodup
import IncrementalLR.Lex.Token
import IncrementalLR.Proofs.Parse.Language

/-!
# Lex modes

The grammar builder gives each parse state a lex mode: a lex state, numbered per distinct
set of valid table tokens, and a scanner state, numbered per distinct set of valid scanner
tokens (0 for none).
-/

namespace IncrementalLR

/-! ### The tokens of a built grammar -/

/-- The token side of a grammar, which expanding its rules leaves alone: its scanner
    tokens, its lex table and its extras. -/
def Grammar.tokenSide (g : Grammar) : List Nat × LexTable × List Nat :=
  (g.externals, g.lexTable, g.extras)

/-- A symbol the lexer may report as a token: after the end of the input and before the
    error symbol. -/
def IsTokenSymbol (s : Nat) : Prop := 1 ≤ s ∧ s < errorSymbol

/-- Every symbol with a matcher in the lex table may be reported as a token. -/
def LexTable.MatchesTokens (lex : LexTable) : Prop :=
  ∀ s m, lex.matchers[s]? = some (some m) → IsTokenSymbol s

/-- What numbering the tokens of a grammar promises: the lex table matches and the
    scanner reports token symbols only, and no extra is the end of the input. -/
structure Grammar.TokensNumbered (g : Grammar) : Prop where
  matchers : g.lexTable.MatchesTokens
  externals : ∀ x ∈ g.externals, IsTokenSymbol x
  extras : ∀ x ∈ g.extras, 1 ≤ x

/-- Setting the matcher of a token symbol keeps every matcher at a token symbol. -/
theorem LexTable.MatchesTokens.setMatcher {lex : LexTable} (h : lex.MatchesTokens) {s : Nat}
    (hs : IsTokenSymbol s) (m : Matcher) : (lex.setMatcher s m).MatchesTokens := by
  intro x m' hx
  unfold LexTable.setMatcher at hx
  simp only [Array.getElem?_setIfInBounds] at hx
  split at hx
  · rename_i hsx
    rw [← hsx]
    exact hs
  · -- the other matchers are the old ones, or the empty ones grown after them
    split at hx
    · rw [Array.getElem?_append] at hx
      split at hx
      · exact h x m' hx
      · simp [Array.getElem?_replicate] at hx
    · exact h x m' hx

/-- Making a repetition rule leaves the token side alone. -/
theorem Expansion.repetition_tokenSide {e e' : Expansion} {ruleName : String} {x r : Nat}
    {field : Option String} (h : e.repetition ruleName x field = .ok (r, e')) :
    e'.grammar.tokenSide = e.grammar.tokenSide := by
  unfold Expansion.repetition at h
  split at h
  · cases h
    rfl
  · simp only at h
    split at h
    · cases h
    · simp only [Except.ok.injEq, Prod.mk.injEq] at h
      obtain ⟨rfl, rfl⟩ := h
      rfl

theorem Expansion.expandItems_tokenSide {scope : SymbolScope} {ruleName : String} :
    ∀ {items : List Item} {sides sides' : List (List Nat × List (Nat × String))}
      {e e' : Expansion}, Expansion.expandItems scope ruleName items sides e = .ok (sides', e') →
      e'.grammar.tokenSide = e.grammar.tokenSide
  | [], sides, sides', e, e', h => by
    simp only [Expansion.expandItems, Except.ok.injEq, Prod.mk.injEq] at h
    rw [← h.2]
  | item :: items, sides, sides', e, e', h => by
    simp only [Expansion.expandItems] at h
    obtain ⟨symbol, -, h⟩ := Except.bind_eq_ok.1 h
    split at h
    · exact expandItems_tokenSide h
    · exact expandItems_tokenSide h
    · obtain ⟨⟨r, e₁⟩, hrep, h⟩ := Except.bind_eq_ok.1 h
      rw [expandItems_tokenSide h, repetition_tokenSide hrep]

theorem Expansion.expandRule_tokenSide {scope : SymbolScope} {ruleName : String} {lhs : Nat} :
    ∀ {alts : List (List Item)} {e e' : Expansion},
      Expansion.expandRule scope ruleName lhs alts e = .ok e' →
      e'.grammar.tokenSide = e.grammar.tokenSide
  | [], e, e', h => by
    simp only [Expansion.expandRule, Except.ok.injEq] at h
    rw [h]
  | items :: rest, e, e', h => by
    simp only [Expansion.expandRule] at h
    obtain ⟨⟨sides, e₁⟩, hitems, h⟩ := Except.bind_eq_ok.1 h
    have hkeep := expandItems_tokenSide hitems
    rw [expandRule_tokenSide h]
    exact hkeep

/-- Named tokens are numbered from 1 on and below the error symbol, and only they get
    matchers, become scanner tokens or are marked extra. -/
theorem numberTokens_tokens : ∀ {ts : List TokenDecl} {symbol : Nat}
    {named : ListMap String Nat} {lex : LexTable} {names : Array String}
    {infos : Array SymbolInfo} {externals extras : List Nat}
    {r : ListMap String Nat × LexTable × Array String × Array SymbolInfo × List Nat ×
      List Nat},
    numberTokens ts symbol named lex names infos externals extras = .ok r → 1 ≤ symbol →
    lex.MatchesTokens → (∀ x ∈ externals, IsTokenSymbol x) → (∀ x ∈ extras, 1 ≤ x) →
    r.2.1.MatchesTokens ∧ (∀ x ∈ r.2.2.2.2.1, IsTokenSymbol x) ∧ ∀ x ∈ r.2.2.2.2.2, 1 ≤ x
  | [], symbol, named, lex, names, infos, externals, extras, r, h, _, hlex, hext, hextra => by
    simp only [numberTokens, Except.ok.injEq] at h
    subst h
    exact ⟨hlex, hext, hextra⟩
  | t :: ts, symbol, named, lex, names, infos, externals, extras, r, h, hone, hlex, hext,
      hextra => by
    simp only [numberTokens] at h
    split at h
    · cases h
    rename_i hsym
    have hs : IsTokenSymbol symbol := ⟨hone, Nat.lt_of_not_le hsym⟩
    split at h
    · cases h
    -- an extra token is marked with its own symbol
    have hextra' : ∀ x ∈ (if t.extra then extras ++ [symbol] else extras), 1 ≤ x := by
      intro x hx
      split at hx
      · rcases List.mem_append.1 hx with hx | hx
        · exact hextra x hx
        · rw [List.mem_singleton.1 hx]
          exact hone
      · exact hextra x hx
    split at h
    · obtain ⟨p, -, h⟩ := Except.bind_eq_ok.1 h
      exact numberTokens_tokens h (by omega) (hlex.setMatcher hs _) hext hextra'
    · refine numberTokens_tokens h (by omega) hlex (fun x hx => ?_) hextra'
      rcases List.mem_append.1 hx with hx | hx
      · exact hext x hx
      · rw [List.mem_singleton.1 hx]
        exact hs

/-- Numbering gives matchers and scanner tokens only to token symbols, the named tokens
    and then the literals, and makes only named tokens extras. -/
theorem GrammarSpec.number_tokensNumbered {spec : GrammarSpec}
    {parsed : List (List (List Item))} {scope : SymbolScope} {grammar : Grammar}
    (h : spec.number parsed = .ok (scope, grammar)) : grammar.TokensNumbered := by
  simp only [GrammarSpec.number] at h
  split at h <;> obtain ⟨skip, -, h⟩ := Except.bind_eq_ok.1 h
  all_goals
  obtain ⟨⟨named, lex, names, infos, externals, extras⟩, htokens, h⟩ := Except.bind_eq_ok.1 h
  obtain ⟨⟨lex', literals, names', infos'⟩, hliterals, h⟩ := Except.bind_eq_ok.1 h
  obtain ⟨extras', hextras, h⟩ := Except.bind_eq_ok.1 h
  obtain ⟨named', -, h⟩ := Except.bind_eq_ok.1 h
  simp only [pure, Except.pure, Except.ok.injEq, Prod.mk.injEq] at h
  obtain ⟨-, rfl⟩ := h
  obtain ⟨hlex, hext, hextra⟩ := numberTokens_tokens htokens (Nat.le_refl 1)
    (fun s m hs => by simp [LexTable.empty] at hs) (by simp) (by simp)
  obtain ⟨hsize, -, -, hnamed⟩ := numberTokens_bounds htokens rfl (Nat.le_refl 1) (by decide)
    (NamesBelow.empty 1) NamesPos.empty
  -- each literal takes the next symbol, after the end of the input
  have hlits : 1 ≤ names'.size ∧ lex'.MatchesTokens := by
    refine List.foldlM_except_induction
      (fun (acc : LexTable × ListMap String Nat × Array String × Array SymbolInfo) =>
        1 ≤ acc.2.2.1.size ∧ acc.1.MatchesTokens) ?_ ⟨hsize, hlex⟩ hliterals
    rintro text - ⟨lex₀, lits₀, names₀, infos₀⟩ c' ⟨hsize₀, hlex₀⟩ hstep
    split at hstep
    · cases hstep
    rename_i hfree
    simp only [Except.ok.injEq] at hstep
    subst hstep
    dsimp only at hsize₀ hlex₀ hfree ⊢
    exact ⟨by simp, hlex₀.setMatcher ⟨hsize₀, Nat.lt_of_not_le hfree⟩ _⟩
  -- the extras named by the description are named tokens
  have hextras' : ∀ x ∈ extras', 1 ≤ x := by
    refine List.foldlM_except_induction (fun (acc : List Nat) => ∀ x ∈ acc, 1 ≤ x) ?_
      hextra hextras
    rintro n - acc acc' hacc hstep
    split at hstep
    · rename_i s hs
      have hpos := hnamed n s hs
      split at hstep
      · cases hstep
        exact hacc
      · cases hstep
        intro x hx
        rcases List.mem_append.1 hx with hx | hx
        · exact hacc x hx
        · rw [List.mem_singleton.1 hx]
          exact hpos
    · cases hstep
  exact ⟨hlits.2, hext, hextras'⟩

/-- The tokens of every grammar that `Grammar.ofSpec` returns are numbered as numbering
    promises. -/
theorem Grammar.tokensNumbered_ofSpec {spec : GrammarSpec} {g : Grammar}
    (h : Grammar.ofSpec spec = .ok g) : g.TokensNumbered := by
  simp only [Grammar.ofSpec] at h
  split at h
  · cases h
  obtain ⟨parsed, -, h⟩ := Except.bind_eq_ok.1 h
  obtain ⟨⟨scope, grammar⟩, hnumber, h⟩ := Except.bind_eq_ok.1 h
  obtain ⟨e, hexpand, h⟩ := Except.bind_eq_ok.1 h
  simp only [pure, Except.pure, Except.ok.injEq] at h
  subst h
  -- expanding the rules leaves the token side as numbering made it
  have hkeep := List.foldlM_except_induction
    (fun e' : Expansion => e'.grammar.tokenSide = grammar.tokenSide) (by
      rintro ⟨⟨r, alts⟩, i⟩ - e₀ e₁ h₀ hstep
      rw [Expansion.expandRule_tokenSide hstep, h₀]) rfl hexpand
  obtain ⟨hext, hlex, hextras⟩ : e.grammar.externals = grammar.externals ∧
      e.grammar.lexTable = grammar.lexTable ∧ e.grammar.extras = grammar.extras := by
    simpa [Grammar.tokenSide] using hkeep
  have hnum := GrammarSpec.number_tokensNumbered hnumber
  exact ⟨hlex ▸ hnum.matchers, hext ▸ hnum.externals, hextras ▸ hnum.extras⟩

/-- No scanner token of a grammar is the end of the input. -/
theorem Grammar.externals_pos_ofSpec {spec : GrammarSpec} {g : Grammar}
    (h : Grammar.ofSpec spec = .ok g) : ∀ x ∈ g.externals, 1 ≤ x :=
  fun x hx => ((Grammar.tokensNumbered_ofSpec h).externals x hx).1


/-! ### The numbering of lex modes -/

namespace Grammar

/-- The tokens valid in a state of the table with cells `actions`: the table tokens
    and the scanner tokens with an action there; in state 0, all of them. -/
def validIn (g : Grammar) (actions : Array (List Action)) (state : Nat) :
    List Nat × List Nat :=
  let tc := g.tokenCount
  let tokens := List.range' 1 (tc - 1)
  if state = 0 then (tokens.filter fun s => !g.externals.contains s, g.externals)
  else
    (tokens.filter fun s => !((actions[state * tc + s]?).getD []).isEmpty).partition
      fun s => !g.externals.contains s

/-- The lex state of a set of table tokens: the one it has, or a new one. -/
def numberLexState (lex : LexTable) (lexStates : List (List Nat × Nat)) (internal : List Nat) :
    Nat × LexTable × List (List Nat × Nat) :=
  match lexStates.lookup internal with
  | some id => (id, lex, lexStates)
  | none =>
    let (lex, id) := lex.addState internal
    (id, lex, lexStates ++ [(internal, id)])

/-- The scanner state of a set of scanner tokens: 0 for none, else the number it has or
    the next one. -/
def numberScannerState (scannerStates : List (List Nat × Nat)) (external : List Nat) :
    Nat × List (List Nat × Nat) :=
  if external.isEmpty then (0, scannerStates)
  else match scannerStates.lookup external with
    | some id => (id, scannerStates)
    | none => (scannerStates.length + 1, scannerStates ++ [(external, scannerStates.length + 1)])

/-- What numbering the lex modes carries from state to state: the modes so far, the lex
    table, and the numbers given to sets of table tokens and of scanner tokens. -/
abbrev LexModeAcc := Array LexMode × LexTable × List (List Nat × Nat) × List (List Nat × Nat)

/-- The lex mode of one more state; this is the step of `lexModes`. -/
def lexModeStep (g : Grammar) (actions : Array (List Action)) (acc : LexModeAcc)
    (state : Nat) : LexModeAcc :=
  let (modes, lex, lexStates, scannerStates) := acc
  let (internal, external) := g.validIn actions state
  let (lexState, lex, lexStates) := numberLexState lex lexStates internal
  let (scannerState, scannerStates) := numberScannerState scannerStates external
  (modes.push ⟨lexState, scannerState⟩, lex, lexStates, scannerStates)

theorem lexModes_eq (g : Grammar) (n : Nat) (actions : Array (List Action)) :
    g.lexModes n actions =
      (((List.range n).foldl (g.lexModeStep actions) (#[], g.lexTable, [], [])).1,
        ((List.range n).foldl (g.lexModeStep actions) (#[], g.lexTable, [], [])).2.1) :=
  rfl

/-- Numbers of lex states index the lex table at their sets. -/
def LexStatesIndexed (lex : LexTable) (lexStates : List (List Nat × Nat)) : Prop :=
  ∀ key id, (key, id) ∈ lexStates → lex.states[id]? = some key

/-- Numbering a set of table tokens gives a lex state that lists it, keeps the lex
    states indexed, and keeps the lex states there were. -/
theorem numberLexState_spec {lex : LexTable} {lexStates : List (List Nat × Nat)}
    (h : LexStatesIndexed lex lexStates) (internal : List Nat) :
    (numberLexState lex lexStates internal).2.1.states[(numberLexState lex lexStates internal).1]? =
        some internal ∧
      LexStatesIndexed (numberLexState lex lexStates internal).2.1
        (numberLexState lex lexStates internal).2.2 ∧
      ∀ (id : Nat) (x : List Nat), lex.states[id]? = some x →
        (numberLexState lex lexStates internal).2.1.states[id]? = some x := by
  unfold numberLexState
  split
  · rename_i id hid
    exact ⟨h _ _ (List.mem_of_lookup hid), h, fun _ _ hx => hx⟩
  · simp only [LexTable.addState]
    -- a new lex state goes after the old ones, which stay where they were
    have hkeep : ∀ (id : Nat) (x : List Nat), lex.states[id]? = some x → (lex.states.push internal)[id]? = some x := by
      intro id x hx
      rw [Array.getElem?_push, if_neg (by have := (Array.getElem?_eq_some_iff.1 hx).1; omega)]
      exact hx
    refine ⟨by simp, ?_, hkeep⟩
    rintro key id hmem
    rcases List.mem_append.1 hmem with hmem | hmem
    · exact hkeep id key (h key id hmem)
    · obtain ⟨rfl, rfl⟩ := Prod.mk.inj (List.mem_singleton.1 hmem)
      simp

/-- Scanner states are numbered 1, 2, … without repeats. -/
def ScannerStatesNumbered (scannerStates : List (List Nat × Nat)) : Prop :=
  (scannerStates.map Prod.snd).Nodup ∧ ∀ p ∈ scannerStates, 1 ≤ p.2 ∧ p.2 ≤ scannerStates.length

/-- Two sets with the same scanner state are the same set. -/
theorem ScannerStatesNumbered.key_eq {scannerStates : List (List Nat × Nat)}
    (h : ScannerStatesNumbered scannerStates) {k₁ k₂ : List Nat} {id : Nat}
    (h₁ : scannerStates.lookup k₁ = some id) (h₂ : scannerStates.lookup k₂ = some id) : k₁ = k₂ :=
  congrArg Prod.fst (List.inj_on_of_nodup_map h.1 (List.mem_of_lookup h₁)
    (List.mem_of_lookup h₂) rfl)

/-- Numbering a set of scanner tokens gives 0 exactly for the empty set, and otherwise
    the number the set then has; numbers kept keep their sets. -/
theorem numberScannerState_spec {scannerStates : List (List Nat × Nat)}
    (h : ScannerStatesNumbered scannerStates) (external : List Nat) :
    ScannerStatesNumbered (numberScannerState scannerStates external).2 ∧
      (external = [] → (numberScannerState scannerStates external).1 = 0) ∧
      (external ≠ [] →
        (numberScannerState scannerStates external).2.lookup external =
          some (numberScannerState scannerStates external).1 ∧
        (numberScannerState scannerStates external).1 ≠ 0) ∧
      ∀ key id, scannerStates.lookup key = some id →
        (numberScannerState scannerStates external).2.lookup key = some id := by
  unfold numberScannerState
  split
  · rename_i hempty
    exact ⟨h, fun _ => rfl, fun hne => absurd (List.isEmpty_iff.1 hempty) hne,
      fun _ _ hk => hk⟩
  · rename_i hne
    have hne' : external ≠ [] := fun he => hne (List.isEmpty_iff.2 he)
    split
    · rename_i id hid
      exact ⟨h, fun he => absurd he hne', fun _ => ⟨hid, by
        have := (h.2 _ (List.mem_of_lookup hid)).1; omega⟩, fun _ _ hk => hk⟩
    · rename_i hnone
      have hfresh : scannerStates.length + 1 ∉ scannerStates.map Prod.snd := by
        intro hmem
        obtain ⟨p, hp, hp2⟩ := List.mem_map.1 hmem
        have := (h.2 p hp).2
        omega
      refine ⟨⟨?_, ?_⟩, fun he => absurd he hne', fun _ => ⟨?_, by omega⟩, ?_⟩
      · rw [List.map_append, List.nodup_append]
        refine ⟨h.1, by simp, ?_⟩
        simp only [List.map_cons, List.map_nil, List.mem_singleton]
        rintro a ha b rfl rfl
        exact hfresh ha
      · intro p hp
        rcases List.mem_append.1 hp with hp | hp
        · have := h.2 p hp
          simp only [List.length_append, List.length_singleton]
          omega
        · rw [List.mem_singleton.1 hp]
          simp
      · rw [List.lookup_append, hnone]
        simp
      · intro key id hk
        rw [List.lookup_append, hk]
        rfl

/-- The numbering after the first `k` states: one mode per state, whose lex state lists
    the state's table tokens and whose scanner state is 0 exactly when no scanner token
    is valid there, and otherwise the number of its set of scanner tokens. -/
structure LexModesInv (g : Grammar) (actions : Array (List Action)) (k : Nat)
    (acc : LexModeAcc) : Prop where
  size : acc.1.size = k
  mode : ∀ j < k, ∃ m, acc.1[j]? = some m ∧
    acc.2.1.states[m.lexState]? = some (g.validIn actions j).1 ∧
    ((g.validIn actions j).2 = [] → m.scannerState = 0) ∧
    ((g.validIn actions j).2 ≠ [] →
      acc.2.2.2.lookup (g.validIn actions j).2 = some m.scannerState ∧ m.scannerState ≠ 0)
  indexed : LexStatesIndexed acc.2.1 acc.2.2.1
  numbered : ScannerStatesNumbered acc.2.2.2

variable {g : Grammar}

/-- One more state keeps the numbering. -/
theorem LexModesInv.step {actions : Array (List Action)} {k : Nat} {acc : LexModeAcc}
    (h : g.LexModesInv actions k acc) : g.LexModesInv actions (k + 1) (g.lexModeStep actions acc k) := by
  obtain ⟨modes, lex, lexStates, scannerStates⟩ := acc
  obtain ⟨hlex, hindexed, hkept⟩ := numberLexState_spec h.indexed (g.validIn actions k).1
  obtain ⟨hnumbered, hzero, hnew, hlookup⟩ :=
    numberScannerState_spec h.numbered (g.validIn actions k).2
  refine ⟨by simp [lexModeStep, h.size], fun j hj => ?_, hindexed, hnumbered⟩
  simp only [lexModeStep, Array.getElem?_push, h.size]
  rcases Nat.lt_succ_iff_lt_or_eq.1 hj with hj | rfl
  · -- an earlier state keeps its mode, and its sets keep their numbers
    obtain ⟨m, hm, hstates, hempty, hnonempty⟩ := h.mode j hj
    refine ⟨m, by rw [if_neg (Nat.ne_of_lt hj)]; exact hm, hkept _ _ hstates, hempty, fun hne => ?_⟩
    obtain ⟨hl, hpos⟩ := hnonempty hne
    exact ⟨hlookup _ _ hl, hpos⟩
  · exact ⟨_, if_pos rfl, hlex, hzero, hnew⟩

theorem lexModesInv_range (actions : Array (List Action)) (lex : LexTable) :
    ∀ n, g.LexModesInv actions n ((List.range n).foldl (g.lexModeStep actions) (#[], lex, [], []))
  | 0 => ⟨rfl, fun _ hj => absurd hj (Nat.not_lt_zero _), fun _ _ h => absurd h List.not_mem_nil,
      List.nodup_nil, fun _ h => absurd h List.not_mem_nil⟩
  | n + 1 => by
    rw [List.range_succ, List.foldl_append, List.foldl_cons, List.foldl_nil]
    exact (lexModesInv_range actions lex n).step

/-- In the lex modes of states `0 … n - 1`, two states with the same lex mode have the
    same valid table tokens and the same valid scanner tokens. -/
theorem validIn_eq_of_lexModes {actions : Array (List Action)} {n s₁ s₂ : Nat}
    (h₁ : s₁ < n) (h₂ : s₂ < n)
    (hmode : (g.lexModes n actions).1[s₁]? = (g.lexModes n actions).1[s₂]?) :
    g.validIn actions s₁ = g.validIn actions s₂ := by
  have hinv := @lexModesInv_range g actions g.lexTable n
  rw [lexModes_eq] at hmode
  obtain ⟨m₁, hm₁, hl₁, he₁, hn₁⟩ := hinv.mode s₁ h₁
  obtain ⟨m₂, hm₂, hl₂, he₂, hn₂⟩ := hinv.mode s₂ h₂
  rw [hm₁, hm₂, Option.some.injEq] at hmode
  subst hmode
  have hinternal : (g.validIn actions s₁).1 = (g.validIn actions s₂).1 :=
    Option.some.inj (hl₁.symm.trans hl₂)
  -- the scanner state is 0 for both sets, or names the one set it was given to
  have hexternal : (g.validIn actions s₁).2 = (g.validIn actions s₂).2 := by
    by_cases hz : m₁.scannerState = 0
    · by_contra hne
      by_cases h0 : (g.validIn actions s₁).2 = []
      · exact (hn₂ (fun h => hne (h0.trans h.symm))).2 hz
      · exact (hn₁ h0).2 hz
    · exact hinv.numbered.key_eq (hn₁ (fun h => hz (he₁ h))).1 (hn₂ (fun h => hz (he₂ h))).1
  exact Prod.ext hinternal hexternal

/-- The lexing parts of a built table: its lex modes and lex table are those numbered
    from its cells, over its states. -/
theorem table_lexModes {sets : ItemSets} {t : ParseTable} (h : g.table sets = .ok t) :
    t.tokenCount = g.tokenCount ∧ t.externals = g.externals.toArray ∧
      t.lexModes = (g.lexModes t.stateCount t.actions).1 := by
  replace h := tableWith_of_table h
  simp only [tableWith] at h
  obtain ⟨⟨actions, gotos⟩, -, h⟩ := Except.bind_eq_ok.1 h
  cases h
  exact ⟨rfl, rfl, rfl⟩

/-- Numbering lex modes only adds lex states: the matchers stay the grammar's. -/
theorem lexModes_matchers (n : Nat) (actions : Array (List Action)) :
    (g.lexModes n actions).2.matchers = g.lexTable.matchers := by
  rw [lexModes_eq]
  refine List.foldlRecOn (motive := fun acc : LexModeAcc => acc.2.1.matchers = g.lexTable.matchers)
    _ _ rfl ?_
  rintro ⟨modes, lex, lexStates, scannerStates⟩ hacc state -
  simp only [lexModeStep, numberLexState] at hacc ⊢
  split <;> simpa [LexTable.addState] using hacc

/-- A built table lexes with the grammar's matchers. -/
theorem table_matchers {sets : ItemSets} {t : ParseTable} (h : g.table sets = .ok t) :
    t.lexTable.matchers = g.lexTable.matchers := by
  replace h := tableWith_of_table h
  simp only [tableWith] at h
  obtain ⟨⟨actions, gotos⟩, -, h⟩ := Except.bind_eq_ok.1 h
  cases h
  exact lexModes_matchers _ _

/-- In a built table, the scanner tokens a state accepts are the valid ones of its lex
    mode: all of them in state 0, those with an action elsewhere. -/
theorem scannerValid_eq {sets : ItemSets} {t : ParseTable} (hwf : g.WellFormed)
    (hpos : ∀ x ∈ g.externals, 1 ≤ x) (h : g.table sets = .ok t) (state : Nat) :
    t.scannerValid state = (g.externals.map fun x => decide (x ∈ (g.validIn t.actions state).2)).toArray := by
  obtain ⟨htc, hext, -⟩ := table_lexModes h
  have hlt : g.tokenCount < errorSymbol := Nat.lt_of_lt_of_le hwf.tokenCount_lt hwf.size_le
  unfold ParseTable.scannerValid
  rw [hext, List.map_toArray, List.map_toArray]
  by_cases hs : state = errorState
  · -- the error state accepts every scanner token
    have hs0 : state = 0 := hs
    rw [if_pos hs]
    congr 1
    apply List.map_congr_left
    intro x hx
    simp [validIn, hs0, hx]
  · -- elsewhere a scanner token is valid when the state has an action for it
    have hs0 : state ≠ 0 := hs
    rw [if_neg hs]
    congr 1
    apply List.map_congr_left
    intro x hx
    have hx1 := hpos x hx
    simp only [validIn, hs0, if_false, List.partition_eq_filter_filter, List.mem_filter,
      List.mem_range', List.contains_eq_mem, ParseTable.actionsAt, htc]
    by_cases hxt : x < g.tokenCount
    · have hin : ∃ i, i < g.tokenCount - 1 ∧ x = 1 + i := ⟨x - 1, by omega, by omega⟩
      simp [show x ≠ errorSymbol by omega, show ¬ g.tokenCount ≤ x by omega, hx, hin]
      cases t.actions[state * g.tokenCount + x]?.getD [] <;> rfl
    · simp only [show g.tokenCount ≤ x by omega, or_true, if_true]
      simp only [List.isEmpty_nil, Bool.not_true, Bool.false_eq, decide_eq_false_iff_not]
      omega

theorem lexModes_size (actions : Array (List Action)) (n : Nat) :
    (g.lexModes n actions).1.size = n := by
  rw [lexModes_eq]
  exact (lexModesInv_range actions g.lexTable n).size

end Grammar

/-- A token depends on its parse state only through the state's lex mode, the scanner
    tokens it accepts, and whether the error state's lex state is tried after its own. -/
theorem nextToken_congr_state {t : ParseTable} {s₁ s₂ : Nat} (hmode : t.lexMode s₁ = t.lexMode s₂)
    (hvalid : t.scannerValid s₁ = t.scannerValid s₂)
    (hfallback : (s₁ ≠ errorState ∧ (t.lexMode errorState).lexState ≠ (t.lexMode s₁).lexState) ↔
      (s₂ ≠ errorState ∧ (t.lexMode errorState).lexState ≠ (t.lexMode s₂).lexState))
    (c : Cursor) (state : List UInt8) : nextToken t c s₁ state = nextToken t c s₂ state := by
  have hscan : ∀ scanner c start, scanExternal t scanner c start s₁ state =
      scanExternal t scanner c start s₂ state := by
    intro scanner c start
    simp only [scanExternal, hvalid]
  rw [hmode] at hfallback
  unfold nextToken
  simp only [hscan, hfallback, hmode]

/-- The table tokens a state can do something with; in the error state, all of them. -/
def ParseTable.validTableTokens (t : ParseTable) (state : Nat) : List Nat :=
  (List.range' 1 (t.tokenCount - 1)).filter fun x =>
    !t.externals.contains x && (state == errorState || !(t.actionsAt state x).isEmpty)

/-- In a built table, the table tokens valid in a state are those its lex mode lists. -/
theorem Grammar.validIn_fst {g : Grammar} {sets : ItemSets} {t : ParseTable} (hwf : g.WellFormed)
    (h : g.table sets = .ok t) (state : Nat) :
    (g.validIn t.actions state).1 = t.validTableTokens state := by
  obtain ⟨htc, hext, -⟩ := Grammar.table_lexModes h
  have hlt : g.tokenCount < errorSymbol := Nat.lt_of_lt_of_le hwf.tokenCount_lt hwf.size_le
  unfold Grammar.validIn ParseTable.validTableTokens
  rw [htc, hext]
  by_cases hs : state = errorState
  · have hs0 : errorState = 0 := rfl
    simp [hs, hs0]
  · have hs0 : state ≠ 0 := hs
    have hbeq : (state == errorState) = false := beq_false_of_ne hs
    simp only [hs0, if_false, List.partition_eq_filter_filter, List.filter_filter]
    apply List.filter_congr
    intro x hx
    obtain ⟨hx1, hxt⟩ : 1 ≤ x ∧ x < g.tokenCount := by
      simp only [List.mem_range'] at hx
      omega
    simp [ParseTable.actionsAt, hbeq, htc, show x ≠ errorSymbol by omega,
      show ¬ g.tokenCount ≤ x by omega]

/-- Equal lex modes lex alike. In a table the grammar builder returns, two states with
    the same lex mode have the same valid table tokens, accept the same scanner tokens,
    make the same choice of trying the error state's lex state after their own, and so
    scan the same token from every text, position and scanner state. -/
theorem GrammarSpec.build_nextToken_eq_of_lexMode_eq {spec : GrammarSpec} {t : ParseTable}
    (h : spec.build = .ok t) {s₁ s₂ : Nat} (h₁ : s₁ < t.stateCount) (h₂ : s₂ < t.stateCount)
    (hmode : t.lexMode s₁ = t.lexMode s₂) :
    t.validTableTokens s₁ = t.validTableTokens s₂ ∧ t.scannerValid s₁ = t.scannerValid s₂ ∧
      ((s₁ ≠ errorState ∧ (t.lexMode errorState).lexState ≠ (t.lexMode s₁).lexState) ↔
        (s₂ ≠ errorState ∧ (t.lexMode errorState).lexState ≠ (t.lexMode s₂).lexState)) ∧
      ∀ (c : Cursor) (state : List UInt8), nextToken t c s₁ state = nextToken t c s₂ state := by
  obtain ⟨g, hg, h⟩ := Except.bind_eq_ok.1 h
  obtain ⟨sets, -, h⟩ := Except.bind_eq_ok.1 h
  have hwf := Grammar.wellFormed_ofSpec hg
  have hpos := Grammar.externals_pos_ofSpec hg
  obtain ⟨-, -, hmodes⟩ := Grammar.table_lexModes h
  -- both states are numbered, so their modes are read off the numbering
  have hsize : t.lexModes.size = t.stateCount := by rw [hmodes, Grammar.lexModes_size]
  have hread : ∀ s < t.stateCount, t.lexModes[s]? = some (t.lexMode s) := by
    intro s hs
    simp [ParseTable.lexMode, Array.getElem?_eq_getElem (hsize ▸ hs)]
  have hsets : g.validIn t.actions s₁ = g.validIn t.actions s₂ := by
    refine Grammar.validIn_eq_of_lexModes h₁ h₂ ?_
    rw [← hmodes, hread s₁ h₁, hread s₂ h₂, hmode]
  have hvalid : t.scannerValid s₁ = t.scannerValid s₂ := by
    rw [Grammar.scannerValid_eq hwf hpos h, Grammar.scannerValid_eq hwf hpos h, hsets]
  -- the error state skips the second attempt; so does a state with the error state's mode
  have hskip : ∀ a b, t.lexMode a = t.lexMode b → a = errorState →
      ¬(b ≠ errorState ∧ (t.lexMode errorState).lexState ≠ (t.lexMode b).lexState) := by
    rintro a b hab rfl ⟨-, hne⟩
    exact hne (by rw [hab])
  have hfallback : (s₁ ≠ errorState ∧ (t.lexMode errorState).lexState ≠ (t.lexMode s₁).lexState) ↔
      (s₂ ≠ errorState ∧ (t.lexMode errorState).lexState ≠ (t.lexMode s₂).lexState) := by
    constructor
    · rintro ⟨hne, hls⟩
      exact ⟨fun h0 => hskip s₂ s₁ hmode.symm h0 ⟨hne, hls⟩, by rwa [← hmode]⟩
    · rintro ⟨hne, hls⟩
      exact ⟨fun h0 => hskip s₁ s₂ hmode h0 ⟨hne, hls⟩, by rwa [hmode]⟩
  refine ⟨?_, hvalid, hfallback, nextToken_congr_state hmode hvalid hfallback⟩
  rw [← Grammar.validIn_fst hwf h, ← Grammar.validIn_fst hwf h, hsets]

/-- In the sample, the state after `_h` and the state after `_h` and some `c` have rows
    of their own but share the lex mode that reads `c`, and lex alike. -/
theorem GrammarSpec.build_nextToken_eq_of_lexMode_eq_sample :
    ParseTable.sample.lexMode 4 = ParseTable.sample.lexMode 7 ∧
      ParseTable.sample.actions[4 * 4 + 1]? ≠ ParseTable.sample.actions[7 * 4 + 1]? ∧
      ParseTable.sample.validTableTokens 4 = [1] ∧
      ParseTable.sample.validTableTokens 4 = ParseTable.sample.validTableTokens 7 ∧
      ParseTable.sample.scannerValid 4 = ParseTable.sample.scannerValid 7 ∧
      ((4 ≠ errorState ∧ (ParseTable.sample.lexMode errorState).lexState ≠
          (ParseTable.sample.lexMode 4).lexState) ↔
        (7 ≠ errorState ∧ (ParseTable.sample.lexMode errorState).lexState ≠
          (ParseTable.sample.lexMode 7).lexState)) ∧
      ∀ (c : Cursor) (state : List UInt8),
        nextToken ParseTable.sample c 4 state = nextToken ParseTable.sample c 7 state :=
  ⟨by decide, by decide, by decide +kernel,
    GrammarSpec.build_nextToken_eq_of_lexMode_eq GrammarSpec.build_sample (by decide) (by decide)
      (by decide)⟩

end IncrementalLR
