import IncrementalLR.Proofs.Lex.Positions
import IncrementalLR.Proofs.Grammar.LexModes
import IncrementalLR.Language.Patch

/-!
# The token stream

Every call of the lexer makes progress: it reports the end of the input only at the end of
the text, as an empty token there, and any other token holds at least one byte after its
padding (`nextToken_scanned`).
-/

namespace IncrementalLR

namespace LexTable

variable {t : LexTable}

/-- The padding a lex table skips before a token. -/
def skipPadding (t : LexTable) (c : Cursor) : Cursor :=
  match t.skip with
  | some skip =>
    let pos := c.position.bytes
    let len := skip.matchLength c.input pos
    let c := c.noteExamined (pos + skip.examined c.input pos)
    if len > 0 then c.skipBytes len else c
  | none => c

/-- Lexing after the padding among the symbols `valid`: the end of the input at the end
    of the text, and otherwise the best match. -/
def lexFrom (t : LexTable) (valid : List Nat) (c : Cursor) : Bool × Cursor :=
  if c.atEnd then (true, (c.setResult 0).markEnd)
  else
    let pos := c.position.bytes
    let (best, examined) := t.scanSymbols c.input pos valid none 1
    let c := c.noteExamined (pos + examined)
    match best with
    | some (len, _, symbol) => (true, ((c.advanceBytes len).markEnd).setResult symbol)
    | none => (false, c)

/-- Lexing skips the padding, then lexes after it. -/
theorem lex_eq (t : LexTable) (c : Cursor) (state : Nat) :
    t.lex c state = match t.states[state]? with
      | none => (false, c)
      | some valid => t.lexFrom valid (t.skipPadding c) := rfl

/-- Every candidate names a symbol that has a matcher. -/
def Matched (t : LexTable) (best : Candidate) : Prop :=
  ∀ len literal s, best = some (len, literal, s) → ∃ m, t.matchers[s]? = some (some m)

theorem Matched.ite {best : Candidate} {p : Prop} [Decidable p] {len : Nat} {literal : Bool}
    {x : Nat} {m : Matcher} (hx : t.matchers[x]? = some (some m)) (h : t.Matched best) :
    t.Matched (if p then some (len, literal, x) else best) := by
  split
  · rintro len literal s ⟨⟩
    exact ⟨m, hx⟩
  · exact h

/-- The best match is of a symbol that has a matcher, when the first candidate is. -/
theorem scanSymbols_matched {text : ByteArray} {offset : Nat} :
    ∀ {valid : List Nat} {best : Candidate} {examined : Nat}, t.Matched best →
      t.Matched (t.scanSymbols text offset valid best examined).1
  | [], _, _, h => h
  | x :: rest, best, examined, h => by
    simp only [scanSymbols]
    split
    · exact scanSymbols_matched h
    all_goals
      rename_i hm
      exact scanSymbols_matched (Matched.ite (Option.join_eq_some_iff.1 hm) h)

end LexTable

/-! ### Scans that read alike -/

namespace Cursor

/-- Two cursors that agree on all a scan reads and reports: they differ at most in the
    column cache and in how far they have examined. -/
structure SameScan (c c' : Cursor) : Prop where
  input : c'.input = c.input
  position : c'.position = c.position
  tokenStart : c'.tokenStart = c.tokenStart
  tokenEnd : c'.tokenEnd = c.tokenEnd
  lookahead : c'.lookahead = c.lookahead
  result : c'.result = c.result

variable {c c' : Cursor}

namespace SameScan

theorem atEnd (h : SameScan c c') : c'.atEnd = c.atEnd := by
  simp only [Cursor.atEnd, h.position, h.input]

theorem step (h : SameScan c c') (skip : Bool) : SameScan (c.step skip) (c'.step skip) := by
  cases hend : c.atEnd
  · have hend' : c'.atEnd = false := h.atEnd.trans hend
    have hpos : (c'.step skip).position = (c.step skip).position := by
      rw [step_position_eq hend, step_position_eq hend', h.position, h.lookahead]
    refine ⟨by simp [h.input], hpos, ?_, by simp [h.tokenEnd], ?_, by simp [h.result]⟩
    · cases skip
      · simp only [step_false_tokenStart, h.tokenStart]
      · rw [step_true_tokenStart hend, step_true_tokenStart hend', hpos]
    · rw [step_lookahead hend, step_lookahead hend', hpos, h.input]
  · rw [step_atEnd hend, step_atEnd (h.atEnd.trans hend)]
    exact h

theorem stepUntil {skip : Bool} {goal : Nat} :
    ∀ {fuel : Nat} {c c' : Cursor}, SameScan c c' →
      SameScan (Cursor.stepUntil skip goal fuel c) (Cursor.stepUntil skip goal fuel c')
  | 0, _, _, h => h
  | fuel + 1, c, c', h => by
    unfold Cursor.stepUntil
    rw [h.position, h.atEnd]
    split
    · exact stepUntil (h.step skip)
    · exact h

theorem advanceBytes (h : SameScan c c') (n : Nat) : SameScan (c.advanceBytes n) (c'.advanceBytes n) := by
  unfold Cursor.advanceBytes
  rw [h.position]
  exact h.stepUntil

theorem skipBytes (h : SameScan c c') (n : Nat) : SameScan (c.skipBytes n) (c'.skipBytes n) := by
  unfold Cursor.skipBytes
  rw [h.position]
  exact h.stepUntil

theorem noteExamined (h : SameScan c c') (e e' : Nat) :
    SameScan (c.noteExamined e) (c'.noteExamined e') :=
  ⟨h.input, h.position, h.tokenStart, h.tokenEnd, h.lookahead, h.result⟩

theorem markEnd (h : SameScan c c') : SameScan c.markEnd c'.markEnd :=
  ⟨h.input, h.position, h.tokenStart, by simp [Cursor.markEnd, h.position], h.lookahead, h.result⟩

theorem setResult (h : SameScan c c') (s : Nat) : SameScan (c.setResult s) (c'.setResult s) :=
  ⟨h.input, h.position, h.tokenStart, h.tokenEnd, h.lookahead, rfl⟩

theorem skipPadding (t : LexTable) (h : SameScan c c') : SameScan (t.skipPadding c) (t.skipPadding c') := by
  unfold LexTable.skipPadding
  split
  · dsimp only
    rw [h.input, h.position]
    split
    · exact (h.noteExamined _ _).skipBytes _
    · exact h.noteExamined _ _
  · exact h

theorem lexFrom (t : LexTable) (valid : List Nat) (h : SameScan c c') :
    (t.lexFrom valid c').1 = (t.lexFrom valid c).1 ∧ SameScan (t.lexFrom valid c).2 (t.lexFrom valid c').2 := by
  unfold LexTable.lexFrom
  rw [h.atEnd]
  split
  · exact ⟨rfl, (h.setResult 0).markEnd⟩
  · dsimp only
    rw [h.input, h.position]
    split
    · exact ⟨rfl, (((h.noteExamined _ _).advanceBytes _).markEnd).setResult _⟩
    · exact ⟨rfl, h.noteExamined _ _⟩

theorem lex (t : LexTable) (h : SameScan c c') (state : Nat) :
    (t.lex c' state).1 = (t.lex c state).1 ∧ SameScan (t.lex c state).2 (t.lex c' state).2 := by
  rw [LexTable.lex_eq, LexTable.lex_eq]
  split
  · exact ⟨rfl, h⟩
  · exact (h.skipPadding t).lexFrom t _

end SameScan

/-- Beginning a token on cursors at one place of one text gives cursors that scan alike. -/
theorem sameScan_start {c c' : Cursor} (hi : c'.input = c.input) (hp : c'.position = c.position)
    (hl : c'.lookahead = c.lookahead) : SameScan c.start c'.start := by
  have hbegun : SameScan
      { c with tokenStart := c.position, tokenEnd := none, result := 0, askedColumn := false }
      { c' with tokenStart := c'.position, tokenEnd := none, result := 0, askedColumn := false } :=
    ⟨hi, hp, hp, rfl, hl, rfl⟩
  unfold Cursor.start
  dsimp only
  by_cases hmark : c.position.bytes = 0 ∧ c.lookahead.char = some byteOrderMark
  · rw [if_pos hmark, if_pos (by rw [hp, hl]; exact hmark)]
    exact hbegun.step true
  · rw [if_neg hmark, if_neg (by rw [hp, hl]; exact hmark)]
    exact hbegun

/-- Restarting two cursors over one text at one position gives cursors that scan alike. -/
theorem sameScan_restart {c c' : Cursor} (h : c'.input = c.input) (p : Length) :
    SameScan (c.restart p) (c'.restart p) := by
  have hl : (c'.reset p).lookahead = (c.reset p).lookahead := by
    unfold Cursor.reset
    split <;> split <;> simp [Cursor.readLookahead, Cursor.noteExamined, h]
  exact sameScan_start (by simp [h]) (by simp) hl

end Cursor

/-- What one run of the lex table finds depends on the text alone, not on what the
    cursor looked at before. -/
theorem lexInternal_found_congr (table : ParseTable) {c c' : Cursor} (h : c'.input = c.input)
    (p : Length) (m : Nat) : (lexInternal table c' p m).1 = (lexInternal table c p m).1 := by
  obtain ⟨hmatched, hsame⟩ := (Cursor.sameScan_restart h p).lex table.lexTable m
  unfold lexInternal
  dsimp only
  generalize table.lexTable.lex (c'.restart p) m = r' at hmatched hsame ⊢
  generalize table.lexTable.lex (c.restart p) m = r at hmatched hsame ⊢
  obtain ⟨matched', d'⟩ := r'
  obtain ⟨matched, d⟩ := r
  obtain ⟨hi, hp, hs, he, hl, hr⟩ := hsame
  dsimp only at hmatched hi hp hs he hl hr ⊢
  subst hmatched
  have hfinish : d'.finish = d.finish := by simp only [Cursor.finish, hp, hs, he]
  cases matched' <;> simp [hfinish, hi, hr]


/-! ### Where a scan begins -/

namespace Cursor

variable {X : List UInt8} {c : Cursor}

/-- A cursor whose token begins where it stands, with no end marked: how every scan
    starts, and what skipping padding keeps. -/
def Begun (c : Cursor) : Prop := c.tokenStart = c.position ∧ c.tokenEnd = none

theorem Begun.skip (h : c.Begun) : c.skip.Begun := by
  cases hend : c.atEnd
  · exact ⟨step_true_tokenStart hend, by simp [Cursor.skip, h.2]⟩
  · rw [Cursor.skip, step_atEnd hend]
    exact h

theorem Begun.skipBytes (h : c.Begun) (n : Nat) : (c.skipBytes n).Begun := by
  unfold Cursor.skipBytes
  generalize c.position.bytes + n = goal
  induction n generalizing c with
  | zero => exact h
  | succ n ih =>
    unfold Cursor.stepUntil
    split
    · exact ih h.skip
    · exact h

theorem Begun.noteExamined (h : c.Begun) (e : Nat) : (c.noteExamined e).Begun := h

theorem begun_restart (p : Length) : (c.restart p).Begun := by
  have hbegun : Begun { (c.reset p) with
      tokenStart := (c.reset p).position, tokenEnd := none, result := 0, askedColumn := false } :=
    ⟨rfl, rfl⟩
  unfold Cursor.restart Cursor.start
  dsimp only
  split
  · exact hbegun.skip
  · exact hbegun

/-- Cursors over one text hold the same bytes. -/
theorem Valid.input_eq {c' : Cursor} (h : c.Valid X) (h' : c'.Valid X) : c.input = c'.input := by
  have hdata : c.input.data.toList = c'.input.data.toList := h.input.trans h'.input.symm
  cases hc : c.input
  cases hc' : c'.input
  rw [hc, hc'] at hdata
  simp only [ByteArray.mk.injEq]
  exact Array.toList_inj.1 hdata

@[simp] theorem restart_input (p : Length) : (c.restart p).input = c.input := by
  unfold Cursor.restart Cursor.start
  dsimp only
  split
  · simp [Cursor.skip]
  · simp

/-- A text that starts with a byte order mark, which lexing skips as padding. -/
def StartsWithMark (input : ByteArray) : Prop := (Utf8.decodeAt input 0).char = some byteOrderMark

/-- A token begun anywhere but at a byte order mark at the start begins where it is
    asked to. -/
theorem restart_position (h : c.Valid X) {p : Length} (hp : Length.At X p)
    (hmark : ¬(p.bytes = 0 ∧ StartsWithMark c.input)) : (c.restart p).position = p := by
  have hla : (c.reset p).lookahead = Utf8.decodeAt c.input (min p.bytes c.input.size) :=
    (h.reset hp).lookahead.trans (by simp)
  unfold Cursor.restart Cursor.start
  dsimp only
  rw [if_neg]
  · simp
  · rintro ⟨h0, hbom⟩
    refine hmark ⟨by simpa using h0, ?_⟩
    simp only [reset_position] at h0
    rw [hla, h0, Nat.zero_min] at hbom
    exact hbom

/-- At a byte order mark at the start, a token begins after it. -/
theorem restart_position_pos (h : c.Valid X) {p : Length} (hp : Length.At X p)
    (h0 : p.bytes = 0) (hmark : StartsWithMark c.input) : 0 < (c.restart p).position.bytes := by
  have hreset := h.reset hp
  have hla : (c.reset p).lookahead = Utf8.decodeAt c.input 0 := by
    rw [hreset.lookahead]
    simp [h0]
  have hbegun : Valid X { (c.reset p) with
      tokenStart := (c.reset p).position, tokenEnd := none, result := 0, askedColumn := false } :=
    ⟨hreset.input, hreset.position, hreset.lookahead⟩
  -- a mark is a character, so the text does not end before it
  have hend : ({ (c.reset p) with
      tokenStart := (c.reset p).position, tokenEnd := none, result := 0, askedColumn := false } :
      Cursor).atEnd = false := by
    by_contra hne
    simp only [Bool.not_eq_false, atEnd, decide_eq_true_eq, reset_position, reset_input, h0,
      Nat.le_zero] at hne
    have hnil : (c.input.extract 0 4).toList = [] := by
      rw [byteArray_toList]
      apply List.eq_nil_of_length_eq_zero
      simp [hne]
    have hempty : Utf8.decodeAt c.input 0 = ⟨none, 0⟩ := by
      simp [Utf8.decodeAt, hnil]
    rw [StartsWithMark, hempty] at hmark
    cases hmark
  unfold Cursor.restart Cursor.start
  dsimp only
  rw [if_pos ⟨by simpa using h0, by rw [hla]; exact hmark⟩]
  obtain ⟨m, -, hm, hpos⟩ := hbegun.step_position hend true
  rw [Cursor.skip, hpos, Length.bytes_add]
  omega

end Cursor


/-! ### What one scan reports -/

/-- The lexer of a table reports only terminals other than the end of the input and the
    error symbol: only those have matchers, and the scanner's tokens are among them. -/
structure ParseTable.LexesTerminals (t : ParseTable) : Prop where
  matchers : ∀ s m, t.lexTable.matchers[s]? = some (some m) → s ≠ endSymbol ∧ s ≠ errorSymbol
  externals : ∀ s ∈ t.externals, s ≠ endSymbol ∧ s ≠ errorSymbol

/-- A token found by a scan, from `b` to `e` in the text `X`: not an error, the end of the
    input only empty at the end of the text, and anything else at least one byte long. -/
structure FoundToken (X : List UInt8) (s : Nat) (b e : Length) : Prop where
  not_error : s ≠ errorSymbol
  at_end : s = endSymbol → b.bytes = X.length ∧ e.bytes = X.length
  nonempty : s ≠ endSymbol → b.bytes < e.bytes

namespace LexTable

variable {t : LexTable} {c : Cursor}

/-- Lexing after the padding answers the end of the input only at the end of the text,
    as an empty token there, and otherwise a symbol with a matcher. -/
theorem lexFrom_result {valid : List Nat} (hb : c.Begun) (hm : (t.lexFrom valid c).1 = true) :
    (c.atEnd = true ∧ (t.lexFrom valid c).2.result = endSymbol ∧
        (t.lexFrom valid c).2.finish = (c.position, c.position)) ∨
      ∃ m, t.matchers[(t.lexFrom valid c).2.result]? = some (some m) := by
  unfold lexFrom at hm ⊢
  split
  · rename_i hend
    refine .inl ⟨hend, rfl, ?_⟩
    simp [Cursor.finish, hb.1]
  · rename_i hend
    rw [if_neg hend] at hm
    dsimp only at hm ⊢
    have hmatched : t.Matched (t.scanSymbols c.input c.position.bytes valid none 1).1 :=
      scanSymbols_matched (by rintro _ _ _ ⟨⟩)
    split
    · rename_i len literal symbol hbest
      exact .inr (hmatched len literal symbol hbest)
    · rename_i hbest
      rw [hbest] at hm
      cases hm

end LexTable

section Found

variable {X : List UInt8} {c : Cursor} {p : Length} {t : ParseTable}

/-- What one run of the lex table finds is a token of the text. -/
theorem lexInternal_found (ht : t.LexesTerminals) (h : c.Valid X) (hp : Length.At X p)
    (m : Nat) {s : Nat} {b e : Length} (hfound : (lexInternal t c p m).1 = some (s, b, e)) :
    FoundToken X s b e := by
  have hpad : (t.lexTable.skipPadding (c.restart p)).Scanning X p.bytes := by
    have hr := h.restart hp
    unfold LexTable.skipPadding
    split
    · dsimp only
      split
      · exact (hr.noteExamined _).skipBytes _
      · exact hr.noteExamined _
    · exact hr
  have hbegun : (t.lexTable.skipPadding (c.restart p)).Begun := by
    have hr : (c.restart p).Begun := Cursor.begun_restart p
    unfold LexTable.skipPadding
    split
    · dsimp only
      split
      · exact (hr.noteExamined _).skipBytes _
      · exact hr.noteExamined _
    · exact hr
  unfold lexInternal at hfound
  dsimp only at hfound
  rw [LexTable.lex_eq] at hfound
  split at hfound
  · simp at hfound
  · rename_i valid hvalid
    generalize hP : t.lexTable.skipPadding (c.restart p) = P at hpad hbegun hfound
    split at hfound
    · cases hfound
    · rename_i hmatched
      have hm : (t.lexTable.lexFrom valid P).1 = true := by simpa using hmatched
      rcases LexTable.lexFrom_result hbegun hm with ⟨hend, hres, hfin⟩ | ⟨mt, hmt⟩
      · -- the end of the input, empty at the end of the text
        have hsize := hpad.valid.size_eq
        have hle := hpad.valid.position.le
        simp only [Cursor.atEnd, decide_eq_true_eq] at hend
        simp only [hres, hfin] at hfound
        split at hfound
        · rename_i hc
          exact absurd rfl hc.2
        · split at hfound
          · simp only [Option.some.injEq, Prod.mk.injEq] at hfound
            obtain ⟨rfl, rfl, rfl⟩ := hfound
            refine ⟨by simp [endSymbol, errorSymbol], fun _ => ⟨by omega, by omega⟩,
              fun hne => absurd rfl hne⟩
          · cases hfound
      · -- a symbol with a matcher, which is no end and no error
        have hsym := ht.matchers _ _ hmt
        split at hfound
        · rename_i hc
          simp only [Option.some.injEq, Prod.mk.injEq] at hfound
          obtain ⟨rfl, rfl, rfl⟩ := hfound
          exact ⟨hsym.2, fun hs => absurd hs hsym.1, fun _ => hc.1⟩
        · split at hfound
          · rename_i hc
            exact absurd hc.1 hsym.1
          · cases hfound

/-- What the scanner finds is a token of the text. -/
theorem scanExternal_found (ht : t.LexesTerminals) (scanner : Scanner) (start : Length)
    (parseState : Nat) (state : List UInt8) {s : Nat} {b e : Length} {st : List UInt8}
    (hfound : (scanExternal t scanner c start parseState state).1 = some ((s, b, e), st)) :
    FoundToken X s b e := by
  unfold scanExternal at hfound
  dsimp only at hfound
  split at hfound
  · cases hfound
  · split at hfound
    · rename_i symbol hsym
      split at hfound
      · rename_i hc
        simp only [Option.some.injEq, Prod.mk.injEq] at hfound
        obtain ⟨⟨rfl, rfl, rfl⟩, -⟩ := hfound
        have hs := ht.externals _ (Array.mem_of_getElem? hsym)
        exact ⟨hs.2, fun h => absurd h hs.1, fun _ => hc.2⟩
      · cases hfound
    · cases hfound

end Found


/-! ### Error tokens -/

/-- The byte where the character at byte `q` of a text ends; a stray byte is a character
    of its own. -/
def charEnd (input : ByteArray) (q : Nat) : Nat := q + max (Utf8.decodeAt input q).size 1

/-- The character boundaries of a text from byte `a` on: `a`, the end of the character
    there, the end of the next one, and so on. -/
def CharBoundary (input : ByteArray) (a q : Nat) : Prop := ∃ k, (charEnd input)^[k] a = q

theorem lt_charEnd (input : ByteArray) (q : Nat) : q < charEnd input q := by
  unfold charEnd
  omega

namespace CharBoundary

variable {input : ByteArray} {a q e : Nat}

theorem refl : CharBoundary input a a := ⟨0, rfl⟩

theorem next (h : CharBoundary input a q) : CharBoundary input a (charEnd input q) := by
  obtain ⟨k, rfl⟩ := h
  exact ⟨k + 1, Function.iterate_succ_apply' _ _ _⟩

theorem strictMono : StrictMono fun k => (charEnd input)^[k] a :=
  strictMono_nat_of_lt_succ fun k => by
    simp only [Function.iterate_succ_apply']
    exact lt_charEnd _ _

theorem le (h : CharBoundary input a q) : a ≤ q := by
  obtain ⟨k, rfl⟩ := h
  exact strictMono.monotone (Nat.zero_le k)

/-- No boundary lies inside a character. -/
theorem le_of_lt_charEnd (hq : CharBoundary input a q) (he : CharBoundary input a e)
    (hlt : q < charEnd input e) : q ≤ e := by
  obtain ⟨i, rfl⟩ := hq
  obtain ⟨j, rfl⟩ := he
  rw [← Function.iterate_succ_apply' (charEnd input) j a] at hlt
  have hij : i < j + 1 := strictMono.lt_iff_lt.1 hlt
  exact strictMono.monotone (Nat.lt_succ_iff.1 hij)

end CharBoundary

/-- Whether the lex table finds something when it starts at byte `q` of a text in lex
    state `m`: a token, or the end of the input after padding. -/
def ParseTable.lexesAt (t : ParseTable) (input : ByteArray) (m q : Nat) : Bool :=
  (lexInternal t (Cursor.new input) (Length.of (input.data.toList.take q)) m).1.isSome

/-- An error token grown from byte `a` to byte `b` of a text, lexing in lex state `m`: `b`
    is a character boundary after `a` in the text, the lex table finds nothing at the
    boundaries in between, and finds something at `b` unless the text ends there. -/
structure ErrorGrown (t : ParseTable) (input : ByteArray) (m a b : Nat) : Prop where
  boundary : CharBoundary input a b
  lt : a < b
  le : b ≤ input.size
  inside : ∀ q, CharBoundary input a q → a < q → q < b → t.lexesAt input m q = false
  stops : b < input.size → t.lexesAt input m b = true

section Growing

variable {X : List UInt8} {c : Cursor} {p : Length} {t : ParseTable}

/-- A run of the lex table from a position of the text finds what it finds from there on
    a fresh cursor. -/
theorem lexInternal_isSome (h : c.Valid X) (hp : Length.At X p) (m : Nat) :
    (lexInternal t c p m).1.isSome = t.lexesAt c.input m p.bytes := by
  unfold ParseTable.lexesAt
  rw [h.input, ← hp.eq, lexInternal_found_congr t (c := Cursor.new c.input) (by simp [Cursor.new])]

/-- Moving over one character from a position that is not a byte order mark at the start
    reaches the end of that character. -/
theorem advance_restart_position (h : c.Valid X) (hp : Length.At X p) (hlt : p.bytes < X.length)
    (hmark : ¬(p.bytes = 0 ∧ Cursor.StartsWithMark c.input)) :
    (c.restart p).advance.position.bytes = charEnd c.input p.bytes := by
  have hv := (h.restart hp).valid
  have hpos := Cursor.restart_position h hp hmark
  have hsize := hv.size_eq
  have hend : (c.restart p).atEnd = false := by
    simp only [Cursor.atEnd, hpos, decide_eq_false_iff_not, Nat.not_le]
    omega
  rw [Cursor.advance, Cursor.step_position_eq hend]
  have hla : (c.restart p).lookahead = Utf8.decodeAt c.input p.bytes := by
    have hsize' := h.size_eq
    rw [hv.lookahead, hpos, Cursor.restart_input, Nat.min_eq_left (by omega)]
  split <;> simp [hla, hpos, charEnd]

/-- Growing an error token from a boundary `e` after `a`, where everything between was
    refused, ends at the first boundary after `e` where the lex table finds something, or at
    the end of the text. The fuel lasts because each round reads a character. -/
theorem growError_grown (t : ParseTable) (m : Nat) {a : Nat} :
    ∀ (fuel : Nat) {c : Cursor} {e : Length}, c.Valid X → Length.At X e → e.bytes < X.length →
      ¬(e.bytes = 0 ∧ Cursor.StartsWithMark c.input) → X.length ≤ e.bytes + fuel →
      CharBoundary c.input a e.bytes →
      (∀ q, CharBoundary c.input a q → a < q → q ≤ e.bytes → t.lexesAt c.input m q = false) →
      ErrorGrown t c.input m a (growError t m fuel c e).1.bytes
  | 0, c, e, _, _, hlt, _, hfuel, _, _ => absurd hfuel (by omega)
  | fuel + 1, c, e, hc, he, hlt, hmark, hfuel, hbd, hinv => by
    have hstep := (hc.restart he).advance
    have hpos := advance_restart_position hc he hlt hmark
    have hsize := hc.size_eq
    have hin : (c.restart e).advance.input = c.input := by simp [Cursor.advance]
    -- the boundaries refused so far reach up to the end of the character at `e`
    have hupto : ∀ q, CharBoundary c.input a q → a < q → q < charEnd c.input e.bytes →
        t.lexesAt c.input m q = false :=
      fun q hq haq hq' => hinv q hq haq (hq.le_of_lt_charEnd hbd hq')
    have hae := hbd.le
    have hgt := lt_charEnd c.input e.bytes
    unfold growError
    dsimp only
    split
    · -- the text ends after this character
      rename_i hend
      have hle := hstep.valid.position.le
      simp only [Cursor.atEnd, decide_eq_true_eq, hin] at hend
      show ErrorGrown t c.input m a (c.restart e).advance.position.bytes
      refine ⟨hpos ▸ hbd.next, by omega, by omega, fun q hq haq hq' => hupto q hq haq (hpos ▸ hq'),
        fun hb => by omega⟩
    · rename_i hend
      have hfound := lexInternal_isSome (t := t) hstep.valid hstep.valid.position m
      rw [hin] at hfound
      split
      · -- the lex table finds something at the end of this character
        rename_i hsome
        have hle := hstep.valid.position.le
        show ErrorGrown t c.input m a (c.restart e).advance.position.bytes
        refine ⟨hpos ▸ hbd.next, by omega, by omega, fun q hq haq hq' => hupto q hq haq (hpos ▸ hq'),
          fun _ => ?_⟩
        rw [← hfound]
        exact hsome
      · -- it finds nothing there either, and the error grows on
        rename_i hnone
        have hnext := hstep.valid
        obtain ⟨-, hc'⟩ := lexInternal_positions t hnext hnext.position m
        have hin' := hc'.valid.input_eq hc
        simp only [Cursor.atEnd, decide_eq_true_eq, ge_iff_le, Nat.not_le, hin] at hend
        have hrefused : t.lexesAt c.input m (c.restart e).advance.position.bytes = false := by
          rw [← hfound]
          simpa using hnone
        have hgrown := growError_grown t m fuel hc'.valid hnext.position (by omega)
          (fun h0 => by omega) (by omega) (by rw [hin', hpos]; exact hbd.next)
          (fun q hq haq hqe => by
            rw [hin'] at hq ⊢
            rcases Nat.lt_or_eq_of_le hqe with hq' | rfl
            · exact hupto q hq haq (hpos ▸ hq')
            · exact hrefused)
        rw [hin'] at hgrown
        exact hgrown

end Growing

/-! ### What one call of the lexer reports -/

theorem Length.bytes_le_max_right (a b : Length) : b.bytes ≤ (a.max b).bytes := by
  unfold Length.max
  split <;> omega

namespace Cursor

variable {X : List UInt8} {c : Cursor}

/-- A begun token is scanned from where the cursor stands. -/
theorem Begun.scanning (hv : c.Valid X) (hb : c.Begun) : c.Scanning X c.position.bytes := by
  refine ⟨hv, ?_, by simp [hb.2], by rw [hb.1], Nat.le_refl _⟩
  rw [hb.1]
  exact hv.position

end Cursor

section Next

variable {X : List UInt8} {c : Cursor} {p : Length} {t : ParseTable}

/-- A run of the lex table leaves its token begun no earlier than the restart put it. -/
theorem lexInternal_tokenStart_ge (h : c.Valid X) (hp : Length.At X p) (m : Nat) :
    (c.restart p).position.bytes ≤ (lexInternal t c p m).2.2.tokenStart.bytes := by
  have hscan := ((Cursor.begun_restart p).scanning (h.restart hp).valid).lex t.lexTable m
  unfold lexInternal
  dsimp only
  split <;> exact hscan.start_ge

/-- The error token, or the end of the input when the error would start at the end of
    the text. -/
theorem lexError_token (h : c.Valid X) {errorStart : Length} (hs : Length.At X errorStart)
    (hmark : ¬(errorStart.bytes = 0 ∧ Cursor.StartsWithMark c.input)) :
    ((lexError t c errorStart).1.1 = endSymbol ∧ errorStart.bytes = X.length ∧
        (lexError t c errorStart).1.2.2 = errorStart) ∨
      ((lexError t c errorStart).1.1 = errorSymbol ∧
        ErrorGrown t c.input (t.lexMode errorState).lexState errorStart.bytes
          (lexError t c errorStart).1.2.2.bytes) := by
  have hsize := h.size_eq
  have hle := hs.le
  unfold lexError
  split
  · exact .inl ⟨rfl, by omega, rfl⟩
  · refine .inr ⟨rfl, ?_⟩
    exact growError_grown t _ _ h hs (by omega) hmark (by omega) .refl
      (fun q _ haq hq => absurd hq (by omega))

/-- The tries of `nextToken` from `p` so far: what they found is a token of the text, and
    the error would start at a position from `p` on, read by a cursor of the text. -/
structure Tried (X : List UInt8) (p : Length)
    (acc : Option (Nat × Length × Length) × Bool × Length × Cursor) : Prop where
  found : ∀ s b e, acc.1 = some (s, b, e) → FoundToken X s b e
  errorStart : Length.At X acc.2.2.1
  ge : p.bytes ≤ acc.2.2.1.bytes
  cursor : acc.2.2.2.Valid X

/-- The token of one call of the lexer is one a scan found, or an error token grown in the
    error state's lex state. -/
theorem nextToken_found_or_error (ht : t.LexesTerminals) (h : c.Valid X) (parseState : Nat)
    (state : List UInt8) :
    FoundToken X (nextToken t c parseState state).1.symbol (nextToken t c parseState state).1.start
        (nextToken t c parseState state).1.stop ∨
      ((nextToken t c parseState state).1.symbol = errorSymbol ∧
        ErrorGrown t c.input (t.lexMode errorState).lexState
          (nextToken t c parseState state).1.start.bytes
          (nextToken t c parseState state).1.stop.bytes) := by
  fun_cases nextToken t c parseState state with
  | case1 startPos mode c₀ external asked₀ c₁ hext errorMode modes attempt found asked errorStart
      c₂ hfold symbol begin stop c₃ hlast =>
    have hc₀ : c₀.Valid X := ⟨h.input, h.position, h.lookahead⟩
    -- the scanner runs first, where the lex mode enables it
    have hscan : (∀ s b e st, external = some ((s, b, e), st) → FoundToken X s b e) ∧
        c₁.Valid X := by
      split at hext
      · rename_i scanner _
        split at hext
        · have hrun := scanExternal_positions t scanner hc₀ h.position parseState state
          rw [hext] at hrun
          refine ⟨fun s b e st hsome => ?_, hrun.2⟩
          exact scanExternal_found ht scanner startPos parseState state (by rw [hext]; exact hsome)
        · simp only [Prod.mk.injEq] at hext
          obtain ⟨rfl, -, rfl⟩ := hext
          exact ⟨fun _ _ _ _ h => (by cases h), hc₀⟩
      · simp only [Prod.mk.injEq] at hext
        obtain ⟨rfl, -, rfl⟩ := hext
        exact ⟨fun _ _ _ _ h => (by cases h), hc₀⟩
    -- then the lex table in each lex state, until one finds a token; after the first try
    -- the error would not start at a byte order mark at the start
    have hstep : ∀ acc m, Tried X startPos acc → Tried X startPos (attempt acc m) ∧
        ((attempt acc m).1 = none →
          ¬((attempt acc m).2.2.1.bytes = 0 ∧ Cursor.StartsWithMark c.input)) := by
      rintro ⟨found', asked', errorStart', c'⟩ m ⟨hfound', hstart', hle', hvalid'⟩
      simp only [attempt]
      dsimp only at hfound' hstart' hle' hvalid' ⊢
      split
      · rename_i hsome
        refine ⟨⟨hfound', hstart', hle', hvalid'⟩, fun hnone => ?_⟩
        simp only at hnone
        simp [hnone] at hsome
      · dsimp only
        obtain ⟨-, hscanning⟩ : _ ∧ (lexInternal t c' startPos m).2.2.Scanning X startPos.bytes :=
          lexInternal_positions t hvalid' h.position m
        obtain ⟨hmax, hmaxle⟩ := hstart'.max hscanning.tokenStart
        have hge : (c'.restart startPos).position.bytes ≤
            (lexInternal t c' startPos m).2.2.tokenStart.bytes :=
          lexInternal_tokenStart_ge hvalid' h.position m
        have hright := Length.bytes_le_max_right errorStart'
          (lexInternal t c' startPos m).2.2.tokenStart
        refine ⟨⟨fun s b e hf => lexInternal_found ht hvalid' h.position m hf, ?_, ?_,
          hscanning.valid⟩, fun hnone => ?_⟩
        · dsimp only
          split
          · exact hmax
          · exact hstart'
        · dsimp only
          split
          · exact Nat.le_trans hle' hmaxle
          · exact hle'
        · simp only [hnone, Option.isNone_none, if_true]
          rintro ⟨h0, hmark⟩
          -- the error starts after the mark, or after a nonzero `startPos`
          by_cases hp0 : startPos.bytes = 0
          · have hpos : 0 < (c'.restart startPos).position.bytes :=
              Cursor.restart_position_pos hvalid' h.position hp0
                (by rw [hvalid'.input_eq h]; exact hmark)
            exact absurd h0 (Nat.pos_iff_ne_zero.1 (Nat.lt_of_lt_of_le hpos (Nat.le_trans hge hright)))
          · exact absurd h0 (Nat.pos_iff_ne_zero.1
              (Nat.lt_of_lt_of_le (Nat.pos_of_ne_zero hp0) (Nat.le_trans hle' hmaxle)))
    have hmodes : modes = mode.lexState :: modes.tail := by
      simp only [modes]
      split <;> rfl
    have hinit : Tried X startPos (Option.map (fun x => x.fst) external, asked₀, startPos, c₁) := by
      refine ⟨fun s b e hfound => ?_, h.position, Nat.le_refl _, hscan.2⟩
      obtain ⟨⟨token, st⟩, hsome, htoken⟩ := Option.map_eq_some_iff.1 hfound
      simp only at htoken
      subst htoken
      exact hscan.1 s b e st hsome
    have htries : Tried X startPos (modes.foldl attempt
          (Option.map (fun x => x.fst) external, asked₀, startPos, c₁)) ∧
        ((modes.foldl attempt (Option.map (fun x => x.fst) external, asked₀, startPos, c₁)).1 =
          none → ¬((modes.foldl attempt
            (Option.map (fun x => x.fst) external, asked₀, startPos, c₁)).2.2.1.bytes = 0 ∧
            Cursor.StartsWithMark c.input)) := by
      rw [hmodes, List.foldl_cons]
      refine List.foldlRecOn (motive := fun acc => Tried X startPos acc ∧
        (acc.1 = none → ¬(acc.2.2.1.bytes = 0 ∧ Cursor.StartsWithMark c.input)))
        modes.tail attempt (hstep _ _ hinit) ?_
      rintro acc ⟨hacc, -⟩ m -
      exact hstep acc m hacc
    rw [hfold] at htries
    obtain ⟨⟨hfound, hstart, -, hvalid⟩, hnomark⟩ := htries
    simp only at hfound hstart hvalid hnomark
    -- what no lex state found becomes an error token, or the end
    cases found with
    | some token =>
      simp only [Prod.mk.injEq] at hlast
      obtain ⟨rfl, rfl⟩ := hlast
      exact .inl (hfound _ _ _ rfl)
    | none =>
      simp only at hlast
      have hbegin := (lexError_positions t hvalid hstart).1
      have hin := hvalid.input_eq h
      rcases lexError_token (t := t) hvalid hstart (by rw [hin]; exact hnomark rfl) with
        ⟨hend, hat, hstop⟩ | ⟨herr, hgrown⟩
      · rw [hlast] at hbegin hend hstop
        simp only at hbegin hend hstop
        subst hbegin hend hstop
        exact .inl ⟨(by decide : endSymbol ≠ errorSymbol), fun _ => ⟨hat, hat⟩, fun hne => absurd rfl hne⟩
      · rw [hlast] at hbegin herr hgrown
        simp only at hbegin herr hgrown
        rw [hin] at hgrown
        subst hbegin
        exact .inr ⟨herr, hgrown⟩

end Next

/-! ### Token streams -/

/-- What the lexer promises of a token scanned from `p` in the text `input`: its padding
    starts at `p` and it ends inside the text; the end of the input stands empty at the end
    of the text; any other token holds at least one byte after its padding; and an error
    token runs to the first character boundary where the error state's lex state finds
    something again. -/
structure Token.Scanned (t : ParseTable) (input : ByteArray) (p : Length) (tok : Token) :
    Prop where
  paddingStart : tok.paddingStart = p
  start_ge : p.bytes ≤ tok.start.bytes
  stop_le : tok.stop.bytes ≤ input.size
  at_end : tok.isEnd = true → tok.start.bytes = input.size ∧ tok.stop.bytes = input.size
  nonempty : tok.isEnd = false → tok.start.bytes < tok.stop.bytes
  maximal : tok.isError = true →
    ErrorGrown t input (t.lexMode errorState).lexState tok.start.bytes tok.stop.bytes

/-- The tokens of a text from `p` on, scanned one after another: each token's padding
    starts where the one before it stopped, and only the last is the end of the input. -/
inductive TokenStream (t : ParseTable) (input : ByteArray) : Length → List Token → Prop
  | last {p : Length} {tok : Token} : tok.Scanned t input p → tok.isEnd = true →
      TokenStream t input p [tok]
  | cons {p : Length} {tok : Token} {rest : List Token} : tok.Scanned t input p →
      tok.isEnd = false → TokenStream t input tok.stop rest → TokenStream t input p (tok :: rest)

section Stream

variable {X : List UInt8} {c : Cursor} {t : ParseTable}

/-- One call of the lexer, in any parse state, scans a token from the cursor on. -/
theorem nextToken_scanned (ht : t.LexesTerminals) (h : c.Valid X) (parseState : Nat)
    (state : List UInt8) : (nextToken t c parseState state).1.Scanned t c.input c.position := by
  obtain ⟨hpad, ⟨-, hstop, hge, -⟩, -⟩ := nextToken_positions t h parseState state
  have hsize := h.size_eq
  have hle := hstop.le
  rcases nextToken_found_or_error ht h parseState state with hfound | ⟨herr, hgrown⟩
  · refine ⟨hpad, hge, by omega, fun hend => ?_, fun hend => ?_, fun herr => ?_⟩
    · rw [hsize]
      exact hfound.at_end (by simpa [Token.isEnd] using hend)
    · exact hfound.nonempty (by simpa [Token.isEnd] using hend)
    · exact absurd (by simpa [Token.isError] using herr) hfound.not_error
  · refine ⟨hpad, hge, by omega, fun hend => ?_, fun _ => hgrown.lt, fun _ => hgrown⟩
    simp [Token.isEnd, herr, endSymbol, errorSymbol] at hend

/-- The tokens from a cursor to the end of its text. The fuel lasts because every token
    but the last moves on by at least one byte. -/
theorem tokensFrom_stream (ht : t.LexesTerminals) :
    ∀ (fuel : Nat) {c : Cursor} (state : List UInt8), c.Valid X →
      X.length - c.position.bytes < fuel →
      TokenStream t c.input c.position (tokensFrom t fuel c state)
  | 0, _, _, _, hfuel => absurd hfuel (Nat.not_lt_zero _)
  | fuel + 1, c, state, h, hfuel => by
    have hscanned := nextToken_scanned ht h errorState state
    obtain ⟨-, ⟨-, hstop, -, -⟩, hnext⟩ := nextToken_positions t h errorState state
    unfold tokensFrom
    dsimp only
    split
    · rename_i hend
      exact .last hscanned hend
    · rename_i hend
      have hreset := hnext.reset hstop
      have hsize := h.size_eq
      have hlt := hscanned.nonempty (by simpa using hend)
      have hge := hscanned.start_ge
      have hle := hscanned.stop_le
      have hrest := tokensFrom_stream ht fuel ((nextToken t c errorState state).1.scannerState.getD state) hreset (by rw [Cursor.reset_position]; omega)
      rw [Cursor.reset_position, Cursor.reset_input, hnext.input_eq h] at hrest
      exact .cons hscanned (by simpa using hend) hrest

/-- The tokens of a whole text, from its start to the end of the input. -/
theorem tokens_stream (ht : t.LexesTerminals) (input : ByteArray) :
    TokenStream t input Length.zero (tokens t input) := by
  have h := Cursor.valid_new input
  have hpos : (Cursor.new input).position = Length.zero := by
    simp [Cursor.new, Cursor.readLookahead]
  have hstream := tokensFrom_stream ht (input.size + 2) [] h (by simp [hpos, Length.zero])
  rwa [hpos, show (Cursor.new input).input = input by simp [Cursor.new, Cursor.readLookahead]]
    at hstream

end Stream

/-! ### Tokens of built tables -/

/-- A token symbol is neither the end of the input nor the error symbol. -/
theorem IsTokenSymbol.terminal {s : Nat} (h : IsTokenSymbol s) :
    s ≠ endSymbol ∧ s ≠ errorSymbol :=
  ⟨Nat.pos_iff_ne_zero.1 h.1, Nat.ne_of_lt h.2⟩

/-- The lexer of every table the builder makes reports only terminals. -/
theorem GrammarSpec.build_lexesTerminals {spec : GrammarSpec} {t : ParseTable}
    (h : spec.build = .ok t) : t.LexesTerminals := by
  obtain ⟨g, hg, h⟩ := Except.bind_eq_ok.1 h
  obtain ⟨sets, -, h⟩ := Except.bind_eq_ok.1 h
  obtain ⟨hmatch, hext, -⟩ := Grammar.tokensNumbered_ofSpec hg
  obtain ⟨-, htext, -⟩ := Grammar.table_lexModes h
  refine ⟨fun s m hs => (hmatch s m ?_).terminal, fun s hs => (hext s ?_).terminal⟩
  · rwa [← Grammar.table_matchers h]
  · rw [htext] at hs
    simpa using hs

/-- Patching a table leaves its lexer alone. -/
theorem ParseTable.LexesTerminals.patch {t : ParseTable} (h : t.LexesTerminals)
    (p : TablePatch) : (t.patch p).LexesTerminals :=
  ⟨h.matchers, h.externals⟩

/-- The tokens of every text tile it. Take a table the builder makes, with any patch
    applied, lex modes included: the tokens of a text are scanned one after another from
    its start, each from where the one before it stopped, up to the end of the input,
    which stands empty at the end of the text and nowhere else. Every other token holds
    at least one byte, and an error token runs to the first character boundary where the
    error state's lex state finds something again. Every call of the lexer, in any parse
    state and from any place of a text, makes the same progress. -/
theorem tokens_tile_of_build {spec : GrammarSpec} {t : ParseTable}
    (h : spec.build = .ok t) (p : TablePatch) :
    (∀ input, TokenStream (t.patch p) input Length.zero (tokens (t.patch p) input)) ∧
      ∀ (X : List UInt8) (c : Cursor), c.Valid X → ∀ parseState state,
        (nextToken (t.patch p) c parseState state).1.Scanned (t.patch p) c.input c.position := by
  have ht := (GrammarSpec.build_lexesTerminals h).patch p
  exact ⟨fun input => tokens_stream ht input,
    fun X c hc parseState state => nextToken_scanned ht hc parseState state⟩

/-- With the sample's error state patched to read only `c`, the tokens of ` a ab c c` are
    an error token over `a ab`, the two `c`, each after its blank, and the end of the
    input. -/
theorem tokens_tile_of_build_sample :
    let t := ParseTable.sample.patch ⟨2, [], [], [(errorState, ⟨4, 0⟩)], [], none, none⟩
    TokenStream t sampleText Length.zero (tokens t sampleText) ∧
      (tokens t sampleText).map (fun tk => (tk.symbol, tk.paddingStart.bytes, tk.start.bytes, tk.stop.bytes)) =
        [(errorSymbol, 0, 1, 5), (1, 5, 6, 7), (1, 7, 8, 9), (endSymbol, 9, 9, 9)] ∧
      ∀ (X : List UInt8) (c : Cursor), c.Valid X → ∀ parseState state,
        (nextToken t c parseState state).1.Scanned t c.input c.position := by
  intro t
  have htile := tokens_tile_of_build GrammarSpec.build_sample
    ⟨2, [], [], [(errorState, ⟨4, 0⟩)], [], none, none⟩
  exact ⟨htile.1 sampleText, by decide +kernel, htile.2⟩

end IncrementalLR
