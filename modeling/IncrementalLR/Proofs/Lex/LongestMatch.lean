import IncrementalLR.Proofs.Lex.Stream

/-!
# The longest match

A lex table answers, among the symbols valid in a lex state, the best match at the cursor:
the longest one, a literal before a pattern of the same length, and the lower symbol among
equally long matches of one kind (`IsBest`).
-/

namespace IncrementalLR

/-- Reading a byte array at an index reads its list of bytes there. -/
theorem ByteArray.getElem?_eq_data_toList (text : ByteArray) (j : Nat) :
    text[j]? = text.data.toList[j]? := by
  by_cases h : j < text.size
  · have h' : j < text.data.toList.length := by rw [Array.length_toList]; exact h
    rw [getElem?_pos text j h, List.getElem?_eq_getElem h', ByteArray.getElem_eq_getElem_data,
      Array.getElem_toList]
  · have h' : ¬ j < text.data.toList.length := by rw [Array.length_toList]; exact h
    rw [getElem?_neg text j h, getElem?_neg _ j h']

namespace LexTable

/-! ### Literals -/

theorem commonPrefix_zipIdx (text : ByteArray) (offset : Nat) :
    ∀ (lit : List UInt8) (k : Nat),
      ((lit.zipIdx k).takeWhile fun (b, i) => text[offset + i]? = some b).length = lit.length ↔
        lit <+: text.data.toList.drop (offset + k)
  | [], k => by simp
  | b :: rest, k => by
    rw [List.zipIdx_cons, List.takeWhile_cons]
    by_cases hb : text[offset + k]? = some b
    · simp only [hb, decide_true, if_true, List.length_cons, Nat.add_right_cancel_iff]
      rw [commonPrefix_zipIdx text offset rest (k + 1)]
      rw [ByteArray.getElem?_eq_data_toList] at hb
      obtain ⟨hlt, hget⟩ := List.getElem?_eq_some_iff.1 hb
      rw [List.drop_eq_getElem_cons hlt, hget, List.cons_prefix_cons, ← Nat.add_assoc]
      simp
    · simp only [hb, decide_false, Bool.false_eq_true, if_false, List.length_nil,
        List.length_cons]
      constructor
      · omega
      · -- a literal that comes next agrees with the text at its first byte
        rintro ⟨u, hu⟩
        exfalso
        apply hb
        rw [ByteArray.getElem?_eq_data_toList, ← Nat.add_zero (offset + k), ← List.getElem?_drop,
          ← hu]
        rfl

/-- A literal agrees with the text over its whole length exactly when its bytes come
    next. -/
theorem commonPrefix_eq_length_iff (lit : List UInt8) (text : ByteArray) (offset : Nat) :
    commonPrefix lit text offset = lit.length ↔ lit <+: text.data.toList.drop offset :=
  commonPrefix_zipIdx text offset lit 0

/-! ### Matches and the best match -/

variable {t : LexTable} {text : ByteArray} {offset : Nat}

/-- Symbol `s` matches `len` bytes of `text` at `offset`, by a literal (`literal`) or by a
    pattern: a literal when its bytes come next, a pattern when its matcher reports a
    match there. Empty matches do not count. -/
inductive MatchAt (t : LexTable) (text : ByteArray) (offset : Nat) : Nat → Nat → Bool → Prop
  | literal {s : Nat} {lit : List UInt8} (hm : t.matchers[s]? = some (some (.literal lit)))
      (hne : lit ≠ []) (hnext : lit <+: text.data.toList.drop offset) :
      MatchAt t text offset s lit.length true
  | pattern {s : Nat} {p : TokenPattern} (hm : t.matchers[s]? = some (some (.pattern p)))
      (hpos : 0 < p.matchLength text offset) :
      MatchAt t text offset s (p.matchLength text offset) false

/-- A symbol matches in one way only. -/
theorem MatchAt.unique {s len len' : Nat} {literal literal' : Bool}
    (h : t.MatchAt text offset s len literal) (h' : t.MatchAt text offset s len' literal') :
    len = len' ∧ literal = literal' := by
  cases h with
  | literal hm _ _ =>
    cases h' with
    | literal hm' _ _ => rw [hm] at hm'; cases hm'; exact ⟨rfl, rfl⟩
    | pattern hm' _ => rw [hm] at hm'; cases hm'
  | pattern hm _ =>
    cases h' with
    | literal hm' _ _ => rw [hm] at hm'; cases hm'
    | pattern hm' _ => rw [hm] at hm'; cases hm'; exact ⟨rfl, rfl⟩

/-- Symbol `s` has the best match among the symbols `valid`: no match of them is longer,
    none as long is a literal unless this one is, and none as long and of the same kind
    belongs to a lower symbol. -/
structure IsBest (t : LexTable) (text : ByteArray) (offset : Nat) (valid : List Nat)
    (len : Nat) (literal : Bool) (s : Nat) : Prop where
  mem : s ∈ valid
  matchAt : t.MatchAt text offset s len literal
  longest : ∀ s' ∈ valid, ∀ len' literal', t.MatchAt text offset s' len' literal' → len' ≤ len
  literal_first : ∀ s' ∈ valid, t.MatchAt text offset s' len true → literal = true
  lowest : ∀ s' ∈ valid, t.MatchAt text offset s' len literal → s ≤ s'

/-! ### The scan -/

/-- What the scan knows after trying the symbols `done`: the best match among them, or
    that none of them matches. -/
def Scanned (t : LexTable) (text : ByteArray) (offset : Nat) (done : List Nat) :
    Candidate → Prop
  | none => ∀ s ∈ done, ∀ len literal, ¬ t.MatchAt text offset s len literal
  | some (len, literal, s) => t.IsBest text offset done len literal s

theorem scanned_nil : t.Scanned text offset [] none := fun _ hs => absurd hs List.not_mem_nil

variable {done : List Nat} {best : Candidate} {x : Nat}

/-- A match among the symbols tried and then `x` is a match of a symbol tried before, or
    the match of `x`. -/
theorem MatchAt.mem_concat {s' len len' : Nat} {literal literal' : Bool}
    (hx : t.MatchAt text offset x len literal) (hs' : s' ∈ done ++ [x])
    (hm : t.MatchAt text offset s' len' literal') :
    s' ∈ done ∨ (s' = x ∧ len' = len ∧ literal' = literal) := by
  rcases List.mem_append.1 hs' with hs' | hs'
  · exact .inl hs'
  · obtain rfl := List.mem_singleton.1 hs'
    obtain ⟨hlen, hlit⟩ := hm.unique hx
    exact .inr ⟨rfl, hlen, hlit⟩

/-- A symbol that does not match leaves the best match as it was. -/
theorem Scanned.skip (h : t.Scanned text offset done best)
    (hx : ∀ len literal, ¬ t.MatchAt text offset x len literal) :
    t.Scanned text offset (done ++ [x]) best := by
  -- every match among `done ++ [x]` is a match among `done`
  have hdone : ∀ s' ∈ done ++ [x], ∀ len' literal', t.MatchAt text offset s' len' literal' →
      s' ∈ done := by
    intro s' hs' len' literal' hm
    rcases List.mem_append.1 hs' with hs' | hs'
    · exact hs'
    · rw [List.mem_singleton.1 hs'] at hm
      exact absurd hm (hx _ _)
  match best, h with
  | none, h => exact fun s' hs' len' literal' hm => h s' (hdone s' hs' _ _ hm) len' literal' hm
  | some (len, literal, s), h =>
    exact ⟨List.mem_append_left _ h.mem, h.matchAt,
      fun s' hs' _ _ hm => h.longest s' (hdone s' hs' _ _ hm) _ _ hm,
      fun s' hs' hm => h.literal_first s' (hdone s' hs' _ _ hm) hm,
      fun s' hs' hm => h.lowest s' (hdone s' hs' _ _ hm) hm⟩

/-- A match of the first symbol tried is the best so far. -/
theorem Scanned.first {len : Nat} {literal : Bool} (h : t.Scanned text offset done none)
    (hx : t.MatchAt text offset x len literal) :
    t.IsBest text offset (done ++ [x]) len literal x := by
  -- the only match among `done ++ [x]` is the one of `x`
  have honly : ∀ s' ∈ done ++ [x], ∀ len' literal', t.MatchAt text offset s' len' literal' →
      s' = x ∧ len' = len ∧ literal' = literal := fun s' hs' _ _ hm =>
    (hx.mem_concat hs' hm).resolve_left fun hdone => h s' hdone _ _ hm
  refine ⟨List.mem_append_right _ (List.mem_singleton_self x), hx, ?_, ?_, ?_⟩
  · intro s' hs' len' literal' hm
    exact Nat.le_of_eq (honly s' hs' _ _ hm).2.1
  · intro s' hs' hm
    exact (honly s' hs' _ _ hm).2.2.symm
  · intro s' hs' hm
    exact Nat.le_of_eq (honly s' hs' _ _ hm).1.symm

/-- A match longer than the best so far, or as long and a literal where the best so far
    is not, is the best. -/
theorem IsBest.replace {bl len bs : Nat} {bliteral literal : Bool}
    (h : t.IsBest text offset done bl bliteral bs) (hx : t.MatchAt text offset x len literal)
    (hbetter : bl < len ∨ (len = bl ∧ literal = true) ∧ bliteral = false) :
    t.IsBest text offset (done ++ [x]) len literal x := by
  refine ⟨List.mem_append_right _ (List.mem_singleton_self x), hx, ?_, ?_, ?_⟩
  · intro s' hs' len' literal' hm
    rcases hx.mem_concat hs' hm with hs' | ⟨-, rfl, -⟩
    · have := h.longest s' hs' _ _ hm
      omega
    · exact Nat.le_refl _
  · intro s' hs' hm
    rcases hx.mem_concat hs' hm with hs' | ⟨-, -, hlit⟩
    · have := h.longest s' hs' _ _ hm
      rcases hbetter with hgt | ⟨⟨-, hlit⟩, -⟩
      · omega
      · exact hlit
    · exact hlit.symm
  · intro s' hs' hm
    rcases hx.mem_concat hs' hm with hs' | ⟨rfl, -, -⟩
    · -- as long as the best so far, a literal where it is not: no match tried before is one
      rcases hbetter with hgt | ⟨⟨rfl, rfl⟩, hbl⟩
      · have := h.longest s' hs' _ _ hm
        omega
      · have := h.literal_first s' hs' hm
        rw [hbl] at this
        cases this
    · exact Nat.le_refl _

/-- A match of a symbol above those tried that is shorter than the best so far, or as long
    and no literal where the best so far is not, leaves the best as it was. -/
theorem IsBest.keep {bl len bs : Nat} {bliteral literal : Bool}
    (h : t.IsBest text offset done bl bliteral bs) (hx : t.MatchAt text offset x len literal)
    (hlt : ∀ s ∈ done, s < x)
    (hworse : ¬ (bl < len ∨ (len = bl ∧ literal = true) ∧ bliteral = false)) :
    t.IsBest text offset (done ++ [x]) bl bliteral bs := by
  refine ⟨List.mem_append_left _ h.mem, h.matchAt, ?_, ?_, ?_⟩
  · intro s' hs' len' literal' hm
    rcases hx.mem_concat hs' hm with hs' | ⟨-, rfl, -⟩
    · exact h.longest s' hs' _ _ hm
    · omega
  · intro s' hs' hm
    rcases hx.mem_concat hs' hm with hs' | ⟨-, rfl, rfl⟩
    · exact h.literal_first s' hs' hm
    · cases bliteral
      · exact absurd (Or.inr ⟨⟨rfl, rfl⟩, rfl⟩) hworse
      · rfl
  · intro s' hs' hm
    rcases hx.mem_concat hs' hm with hs' | ⟨rfl, -, -⟩
    · exact h.lowest s' hs' hm
    · exact Nat.le_of_lt (hlt bs h.mem)

/-- A match of a symbol above all those tried replaces the best so far exactly when
    `better` says so. -/
theorem Scanned.offer {len : Nat} {literal : Bool} (h : t.Scanned text offset done best)
    (hx : t.MatchAt text offset x len literal) (hlt : ∀ s ∈ done, s < x) :
    t.Scanned text offset (done ++ [x])
      (if better best len literal = true then some (len, literal, x) else best) := by
  match best, h with
  | none, h => exact h.first hx
  | some (bl, bliteral, bs), h =>
    simp only [better, Bool.or_eq_true, decide_eq_true_eq, Bool.and_eq_true, beq_iff_eq,
      Bool.not_eq_true'] at ⊢
    split
    · rename_i hbetter
      exact h.replace hx hbetter
    · rename_i hworse
      exact h.keep hx hlt hworse

/-- A symbol without a matcher never matches. -/
theorem not_matchAt_of_join_eq_none {s : Nat} (hm : t.matchers[s]?.join = none)
    (len : Nat) (literal : Bool) : ¬ t.MatchAt text offset s len literal := by
  intro hmatch
  cases hmatch with
  | literal hm' => simp [hm'] at hm
  | pattern hm' => simp [hm'] at hm

/-- A symbol whose matcher is a literal matches by the length the scan computes for it,
    when that is not zero. -/
theorem matchAt_literal_iff {s : Nat} {lit : List UInt8}
    (hm : t.matchers[s]? = some (some (.literal lit))) (len : Nat) (literal : Bool) :
    t.MatchAt text offset s len literal ↔
      0 < (if commonPrefix lit text offset = lit.length then commonPrefix lit text offset
        else 0) ∧
      len = (if commonPrefix lit text offset = lit.length then commonPrefix lit text offset
        else 0) ∧ literal = true := by
  constructor
  · intro hmatch
    cases hmatch with
    | literal hm' hne hnext =>
      rw [hm] at hm'
      cases hm'
      have hc := (commonPrefix_eq_length_iff lit text offset).2 hnext
      rw [if_pos hc, hc]
      exact ⟨List.length_pos_iff.2 hne, rfl, rfl⟩
    | pattern hm' => rw [hm] at hm'; cases hm'
  · rintro ⟨hpos, rfl, rfl⟩
    by_cases hc : commonPrefix lit text offset = lit.length
    · rw [if_pos hc, hc] at hpos ⊢
      exact .literal hm (List.length_pos_iff.1 hpos) ((commonPrefix_eq_length_iff _ _ _).1 hc)
    · rw [if_neg hc] at hpos
      exact absurd hpos (Nat.lt_irrefl 0)

/-- A symbol whose matcher is a pattern matches by the length the pattern reports, when
    that is not zero. -/
theorem matchAt_pattern_iff {s : Nat} {p : TokenPattern}
    (hm : t.matchers[s]? = some (some (.pattern p))) (len : Nat) (literal : Bool) :
    t.MatchAt text offset s len literal ↔
      0 < p.matchLength text offset ∧ len = p.matchLength text offset ∧ literal = false := by
  constructor
  · intro hmatch
    cases hmatch with
    | literal hm' => rw [hm] at hm'; cases hm'
    | pattern hm' hpos => rw [hm] at hm'; cases hm'; exact ⟨hpos, rfl, rfl⟩
  · rintro ⟨hpos, rfl, rfl⟩
    exact .pattern hm hpos

/-- Offering a symbol whose only possible match is of `len` bytes, counted when it is not
    empty: the scan then knows the best match among the symbols tried and this one. -/
theorem Scanned.step {len : Nat} {literal : Bool} (h : t.Scanned text offset done best)
    (hlt : ∀ s ∈ done, s < x)
    (hx : ∀ len' literal', t.MatchAt text offset x len' literal' ↔
      0 < len ∧ len' = len ∧ literal' = literal) :
    t.Scanned text offset (done ++ [x])
      (if len ≠ 0 ∧ better best len literal = true then some (len, literal, x) else best) := by
  by_cases hlen : len = 0
  · -- an empty match does not count
    rw [if_neg fun hc => hc.1 hlen]
    refine h.skip fun len' literal' hm => ?_
    have := ((hx _ _).1 hm).1
    omega
  · have hm : t.MatchAt text offset x len literal :=
      (hx _ _).2 ⟨Nat.pos_of_ne_zero hlen, rfl, rfl⟩
    simp only [ne_eq, hlen, not_false_eq_true, true_and]
    exact h.offer hm hlt

/-- Scanning symbols in increasing order finds the best match among them, or none when
    none of them matches. -/
theorem scanSymbols_scanned :
    ∀ {valid done : List Nat} {best : Candidate} {examined : Nat},
      (done ++ valid).Pairwise (· < ·) → t.Scanned text offset done best →
      t.Scanned text offset (done ++ valid) (t.scanSymbols text offset valid best examined).1
  | [], done, best, examined, _, h => by
    rw [List.append_nil]
    exact h
  | x :: rest, done, best, examined, hsorted, h => by
    have hlt : ∀ s ∈ done, s < x :=
      fun s hs => (List.pairwise_append.1 hsorted).2.2 s hs x List.mem_cons_self
    have hsorted' : (done ++ [x] ++ rest).Pairwise (· < ·) := by simpa using hsorted
    rw [show done ++ x :: rest = done ++ [x] ++ rest by simp]
    simp only [scanSymbols]
    -- one branch per kind of matcher, each offering what the symbol matches
    split
    · rename_i hnone
      exact scanSymbols_scanned hsorted' (h.skip (not_matchAt_of_join_eq_none hnone))
    · rename_i lit hlit
      exact scanSymbols_scanned hsorted'
        (h.step hlt (matchAt_literal_iff (Option.join_eq_some_iff.1 hlit)))
    · rename_i p hp
      exact scanSymbols_scanned hsorted'
        (h.step hlt (matchAt_pattern_iff (Option.join_eq_some_iff.1 hp)))

/-! ### Lexing after the padding -/

/-- What lexing from cursor `c` after its padding may answer among the symbols `valid`:
    the end of the input at the end of the text; otherwise the best match, with the token
    ending where whole characters first cover the match; or nothing, when no valid symbol
    matches. How far the scan examined is left open. -/
inductive Lexed (t : LexTable) (valid : List Nat) (c : Cursor) : Bool × Cursor → Prop
  | atEnd (hend : c.atEnd = true) : Lexed t valid c (true, (c.setResult 0).markEnd)
  | best {len : Nat} {literal : Bool} {s e : Nat} (hend : c.atEnd = false)
      (hbest : t.IsBest c.input c.position.bytes valid len literal s) :
      Lexed t valid c (true, (((c.noteExamined e).advanceBytes len).markEnd).setResult s)
  | none {e : Nat} (hend : c.atEnd = false)
      (hnone : ∀ s ∈ valid, ∀ len literal, ¬ t.MatchAt c.input c.position.bytes s len literal) :
      Lexed t valid c (false, c.noteExamined e)

/-- Before the end of the text, lexing finds a token exactly when a valid symbol
    matches. -/
theorem Lexed.found_iff {valid : List Nat} {c : Cursor} {r : Bool × Cursor}
    (h : t.Lexed valid c r) (hend : c.atEnd = false) :
    r.1 = true ↔ ∃ s ∈ valid, ∃ len literal, t.MatchAt c.input c.position.bytes s len literal := by
  cases h with
  | atEnd hend' => rw [hend] at hend'; cases hend'
  | best _ hbest => exact ⟨fun _ => ⟨_, hbest.mem, _, _, hbest.matchAt⟩, fun _ => rfl⟩
  | none _ hnone =>
    refine ⟨fun hfalse => absurd hfalse Bool.false_ne_true, ?_⟩
    rintro ⟨s, hs, len, literal, hm⟩
    exact absurd hm (hnone s hs len literal)

/-- Over symbols listed in increasing order, lexing after the padding answers as `Lexed`
    says. -/
theorem lexFrom_lexed {valid : List Nat} (hsorted : valid.Pairwise (· < ·)) (c : Cursor) :
    t.Lexed valid c (t.lexFrom valid c) := by
  unfold lexFrom
  cases hend : c.atEnd
  · have hscan : t.Scanned c.input c.position.bytes ([] ++ valid)
        (t.scanSymbols c.input c.position.bytes valid none 1).1 :=
      scanSymbols_scanned (by simpa using hsorted) scanned_nil
    rw [List.nil_append] at hscan
    simp only [Bool.false_eq_true, if_false]
    generalize t.scanSymbols c.input c.position.bytes valid none 1 = r at hscan ⊢
    obtain ⟨best, examined⟩ := r
    rcases best with _ | ⟨len, literal, s⟩
    · exact .none hend hscan
    · exact .best hend hscan
  · exact .atEnd hend

end LexTable

/-! ### The lex states of a built table -/

/-- The table tokens valid in a state are listed in increasing order. -/
theorem Grammar.validIn_fst_sorted (g : Grammar) (actions : Array (List Action)) (state : Nat) :
    (g.validIn actions state).1.Pairwise (· < ·) := by
  have hrange : (List.range' 1 (g.tokenCount - 1)).Pairwise (· < ·) := List.pairwise_lt_range'
  unfold Grammar.validIn
  split
  · exact hrange.filter _
  · rw [List.partition_eq_filter_filter]
    exact (hrange.filter _).filter _

/-- Numbering the named tokens gives them matchers and adds no lex state. -/
theorem numberTokens_lexStates : ∀ {ts : List TokenDecl} {symbol : Nat}
    {named : ListMap String Nat} {lex : LexTable} {names : Array String}
    {infos : Array SymbolInfo} {externals extras : List Nat}
    {r : ListMap String Nat × LexTable × Array String × Array SymbolInfo × List Nat ×
      List Nat},
    numberTokens ts symbol named lex names infos externals extras = .ok r →
      r.2.1.states = lex.states
  | [], symbol, named, lex, names, infos, externals, extras, r, h => by
    simp only [numberTokens, Except.ok.injEq] at h
    subst h
    rfl
  | t :: ts, symbol, named, lex, names, infos, externals, extras, r, h => by
    simp only [numberTokens] at h
    split at h
    · cases h
    split at h
    · cases h
    split at h
    · -- a pattern token only sets its matcher
      obtain ⟨p, -, h⟩ := Except.bind_eq_ok.1 h
      exact (numberTokens_lexStates h : _ = (lex.setMatcher symbol (.pattern p)).states)
    · exact numberTokens_lexStates h

/-- The lex table of a numbered description has matchers only: no lex state yet. -/
theorem GrammarSpec.number_lexStates {spec : GrammarSpec}
    {parsed : List (List (List Item))} {scope : SymbolScope} {grammar : Grammar}
    (h : spec.number parsed = .ok (scope, grammar)) : grammar.lexTable.states = #[] := by
  simp only [GrammarSpec.number] at h
  split at h <;> obtain ⟨skip, -, h⟩ := Except.bind_eq_ok.1 h
  all_goals
  obtain ⟨⟨named, lex, names, infos, externals, extras⟩, htokens, h⟩ := Except.bind_eq_ok.1 h
  obtain ⟨⟨lex', literals, names', infos'⟩, hliterals, h⟩ := Except.bind_eq_ok.1 h
  obtain ⟨extras', -, h⟩ := Except.bind_eq_ok.1 h
  obtain ⟨named', -, h⟩ := Except.bind_eq_ok.1 h
  simp only [pure, Except.pure, Except.ok.injEq, Prod.mk.injEq] at h
  obtain ⟨-, rfl⟩ := h
  have hlex : lex.states = #[] := numberTokens_lexStates htokens
  -- each literal only sets a matcher
  exact List.foldlM_except_induction
    (fun (acc : LexTable × ListMap String Nat × Array String × Array SymbolInfo) =>
      acc.1.states = #[]) (by
      rintro text - ⟨lex₀, lits₀, names₀, infos₀⟩ c' hlex₀ hstep
      split at hstep
      · cases hstep
      simp only [Except.ok.injEq] at hstep
      subst hstep
      exact hlex₀) hlex hliterals

/-- A grammar read from a description has no lex state yet. -/
theorem Grammar.lexStates_ofSpec {spec : GrammarSpec} {g : Grammar}
    (h : Grammar.ofSpec spec = .ok g) : g.lexTable.states = #[] := by
  simp only [Grammar.ofSpec] at h
  split at h
  · cases h
  obtain ⟨parsed, -, h⟩ := Except.bind_eq_ok.1 h
  obtain ⟨⟨scope, grammar⟩, hnumber, h⟩ := Except.bind_eq_ok.1 h
  obtain ⟨e, hexpand, h⟩ := Except.bind_eq_ok.1 h
  simp only [pure, Except.pure, Except.ok.injEq] at h
  subst h
  -- expanding the rules leaves the lex table as numbering made it
  have hkeep := List.foldlM_except_induction
    (fun e' : Expansion => e'.grammar.tokenSide = grammar.tokenSide) (by
      rintro ⟨⟨r, alts⟩, i⟩ - e₀ e₁ h₀ hstep
      rw [Expansion.expandRule_tokenSide hstep, h₀]) rfl hexpand
  have hlex : e.grammar.lexTable = grammar.lexTable := congrArg (fun s => s.2.1) hkeep
  rw [hlex]
  exact GrammarSpec.number_lexStates hnumber

/-- Numbering lex modes adds the valid table tokens of states as lex states, so every lex
    state added is in increasing order. -/
theorem Grammar.lexModes_states_sorted {g : Grammar} (n : Nat) (actions : Array (List Action))
    (hinit : ∀ valid ∈ g.lexTable.states, valid.Pairwise (· < ·)) :
    ∀ valid ∈ (g.lexModes n actions).2.states, valid.Pairwise (· < ·) := by
  rw [Grammar.lexModes_eq]
  refine List.foldlRecOn (motive := fun acc : LexModeAcc =>
    ∀ valid ∈ acc.2.1.states, valid.Pairwise (· < ·)) _ _ hinit ?_
  rintro ⟨modes, lex, lexStates, scannerStates⟩ hacc state -
  simp only [Grammar.lexModeStep, numberLexState] at hacc ⊢
  split
  · exact hacc
  · intro valid hvalid
    rcases Array.mem_push.1 hvalid with hvalid | rfl
    · exact hacc valid hvalid
    · exact g.validIn_fst_sorted actions state

/-- Every lex state of a built table lists its symbols in increasing order. -/
theorem GrammarSpec.build_lexStates_sorted {spec : GrammarSpec} {t : ParseTable}
    (h : spec.build = .ok t) : ∀ valid ∈ t.lexTable.states, valid.Pairwise (· < ·) := by
  obtain ⟨g, hg, h⟩ := Except.bind_eq_ok.1 h
  obtain ⟨sets, -, h⟩ := Except.bind_eq_ok.1 h
  have hempty := Grammar.lexStates_ofSpec hg
  replace h := Grammar.tableWith_of_table h
  simp only [Grammar.tableWith] at h
  obtain ⟨⟨actions, gotos⟩, -, h⟩ := Except.bind_eq_ok.1 h
  cases h
  exact Grammar.lexModes_states_sorted _ _ (by simp [hempty])

/-! ### Lexing with a built table -/

/-- A built table's lexer skips the padding, then answers the end of the input at the end
    of the text, the best match among the lex state's symbols when one of them matches,
    and nothing otherwise. -/
theorem GrammarSpec.build_lex_best {spec : GrammarSpec} {t : ParseTable}
    (h : spec.build = .ok t) {state : Nat} {valid : List Nat}
    (hstate : t.lexTable.states[state]? = some valid) (c : Cursor) :
    t.lexTable.Lexed valid (t.lexTable.skipPadding c) (t.lexTable.lex c state) := by
  have hsorted := GrammarSpec.build_lexStates_sorted h valid (Array.mem_of_getElem? hstate)
  rw [LexTable.lex_eq, hstate]
  exact LexTable.lexFrom_lexed hsorted _

/-- In the sample's lex state that reads every token, on ` ab c` the lexer skips the
    blank and takes `ab` over its prefix `a`, the token running from byte 1 to byte 3. -/
theorem GrammarSpec.build_lex_best_sample :
    ParseTable.sample.lexTable.states[0]? = some [1, 2, 3] ∧
      ParseTable.sample.lexTable.Lexed [1, 2, 3]
        (ParseTable.sample.lexTable.skipPadding (Cursor.new ⟨#[32, 97, 98, 32, 99]⟩))
        (ParseTable.sample.lexTable.lex (Cursor.new ⟨#[32, 97, 98, 32, 99]⟩) 0) ∧
      (fun r : Bool × Cursor => (r.1, r.2.result, r.2.tokenStart.bytes, r.2.position.bytes))
        (ParseTable.sample.lexTable.lex (Cursor.new ⟨#[32, 97, 98, 32, 99]⟩) 0) = (true, 3, 1, 3) :=
  ⟨by decide, GrammarSpec.build_lex_best GrammarSpec.build_sample (by decide) _, by decide +kernel⟩

end IncrementalLR
