import Mathlib
import IncrementalLR.Proofs.Text.Geometry
import IncrementalLR.Lex.Token

/-!
# Where tokens start and stop

The lexing cursor keeps its position as a length, bytes and extent together, and moves it
one decoded character at a time.
-/

namespace IncrementalLR

/-- The bytes of a byte array, in order. -/
theorem byteArray_toList (bs : ByteArray) : bs.toList = bs.data.toList := by
  have hloop : ∀ i r, ByteArray.toList.loop bs i r = r.reverse ++ bs.data.toList.drop i := by
    intro i r
    induction i, r using ByteArray.toList.loop.induct bs with
    | case1 i r hi ih =>
      rw [ByteArray.toList.loop, if_pos hi, ih]
      have hi' : i < bs.data.toList.length := by simpa using hi
      rw [List.drop_eq_getElem_cons hi']
      simp [ByteArray.get!, hi]
    | case2 i r hi =>
      rw [ByteArray.toList.loop, if_neg hi, List.drop_of_length_le (by simpa using hi),
        List.append_nil]
  unfold ByteArray.toList
  simpa using hloop 0 []

namespace Utf8

/-- A character read off a natural number is a line feed only when the number is 10. -/
theorem eq_of_ofNat_eq_newline {n : Nat} (h : Char.ofNat n = '\n') : n = 10 := by
  have htoNat := congrArg Char.toNat h
  have hnewline : '\n'.toNat = 10 := rfl
  rw [hnewline] at htoNat
  unfold Char.ofNat at htoNat
  split at htoNat
  · simpa [Char.ofNatAux, Char.toNat] using htoNat
  · cases htoNat

theorem leadByte_width {b : UInt8} {width bits : Nat} (h : leadByte b = some (width, bits)) :
    2 ≤ width ∧ width ≤ 4 := by
  unfold leadByte at h
  split at h
  · cases h
    omega
  · split at h
    · cases h
      omega
    · split at h
      · cases h
        omega
      · cases h

/-- Continuation bytes are there and all of the form `10xxxxxx`. -/
theorem continuation_bytes {acc count cp : Nat} :
    ∀ {bs : List UInt8}, continuation acc bs count = some cp →
      count ≤ bs.length ∧ ∀ x ∈ bs.take count, x &&& 0xC0 = 0x80 := by
  induction count generalizing acc with
  | zero => simp
  | succ count ih =>
    intro bs h
    cases bs with
    | nil => simp [continuation] at h
    | cons b bs =>
      unfold continuation at h
      split at h
      · rename_i hb
        obtain ⟨hlen, hall⟩ := ih h
        refine ⟨by simpa using hlen, ?_⟩
        intro x hx
        rw [List.take_succ_cons, List.mem_cons] at hx
        rcases hx with rfl | hx
        · exact hb
        · exact hall x hx
      · cases h

theorem ne_newline_of_continuation {x : UInt8} (h : x &&& 0xC0 = 0x80) : x ≠ 10 := by
  rintro rfl
  exact absurd h (by decide)

/-- A decoded character is a line feed exactly when it is the single byte 10; the bytes
    of any other character hold no line feed. -/
theorem decode_bytes (b : UInt8) (rest : List UInt8) :
    max (decode (b :: rest)).size 1 ≤ (b :: rest).length ∧
      (((decode (b :: rest)).char = some '\n' ∧ max (decode (b :: rest)).size 1 = 1 ∧ b = 10) ∨
        ((decode (b :: rest)).char ≠ some '\n' ∧
          10 ∉ (b :: rest).take (max (decode (b :: rest)).size 1))) := by
  -- a stray byte is one byte wide, and only an ASCII byte can be a line feed
  have hstray (hb : b ≠ 10) : max stray.size 1 ≤ (b :: rest).length ∧
      (stray.char = some '\n' ∧ max stray.size 1 = 1 ∧ b = 10 ∨
        stray.char ≠ some '\n' ∧ 10 ∉ (b :: rest).take (max stray.size 1)) := by
    refine ⟨by simp [stray], .inr ⟨by simp [stray], ?_⟩⟩
    simpa [stray] using Ne.symm hb
  rw [decode]
  by_cases hb : b < 0x80
  · rw [if_pos hb]
    by_cases h10 : b = 10
    · subst h10
      exact ⟨by simp, .inl ⟨rfl, rfl, rfl⟩⟩
    · refine ⟨by simp, .inr ⟨fun hc => ?_, by simpa using Ne.symm h10⟩⟩
      have hnat := eq_of_ofNat_eq_newline (Option.some.inj hc)
      exact h10 (UInt8.toNat_inj.1 (by simpa using hnat))
  · rw [if_neg hb]
    have hb10 : b ≠ 10 := fun h => hb (h ▸ by decide)
    cases hlead : leadByte b with
    | none => exact hstray hb10
    | some lead =>
      obtain ⟨width, bits⟩ := lead
      obtain ⟨hw2, hw4⟩ := leadByte_width hlead
      dsimp only
      cases hcont : continuation bits rest (width - 1) with
      | none => exact hstray hb10
      | some cp =>
        obtain ⟨hlen, hall⟩ := continuation_bytes hcont
        dsimp only
        by_cases hfits : fitsWidth width cp = true
        · rw [if_pos hfits]
          have hcp : cp ≠ 10 := by
            unfold fitsWidth at hfits
            simp only [Bool.and_eq_true, Bool.or_eq_true, decide_eq_true_eq] at hfits
            obtain ⟨hrange, -⟩ := hfits
            split at hrange
            · omega
            · split at hrange <;> omega
          have hsize : max width 1 = width := by omega
          refine ⟨by simp only [hsize, List.length_cons]; omega, .inr ⟨?_, ?_⟩⟩
          · intro hc
            exact hcp (eq_of_ofNat_eq_newline (Option.some.inj hc))
          · simp only [hsize]
            obtain ⟨w, rfl⟩ : ∃ w, width = w + 1 := ⟨width - 1, by omega⟩
            rw [List.take_succ_cons, List.mem_cons, not_or]
            refine ⟨Ne.symm hb10, fun hm => ?_⟩
            exact ne_newline_of_continuation (hall 10 (by simpa using hm)) rfl
        · rw [if_neg hfits]
          exact hstray hb10

/-- Decoding at an offset reads the four bytes from there. -/
theorem decodeAt_eq (input : ByteArray) (offset : Nat) :
    decodeAt input offset = decode ((input.data.toList.drop offset).take 4) := by
  rw [decodeAt, byteArray_toList, ByteArray.data_extract, Array.toList_extract,
    List.extract_eq_take_drop, Nat.add_sub_cancel_left]

end Utf8

namespace Cursor

variable {X : List UInt8} {c : Cursor} {base : Nat}

/-! ### Operations that only set a field -/

@[simp] theorem readLookahead_input : c.readLookahead.input = c.input := rfl
@[simp] theorem readLookahead_position : c.readLookahead.position = c.position := rfl
@[simp] theorem readLookahead_tokenStart : c.readLookahead.tokenStart = c.tokenStart := rfl
@[simp] theorem readLookahead_tokenEnd : c.readLookahead.tokenEnd = c.tokenEnd := rfl

@[simp] theorem markEnd_input : c.markEnd.input = c.input := rfl
@[simp] theorem markEnd_position : c.markEnd.position = c.position := rfl
@[simp] theorem markEnd_lookahead : c.markEnd.lookahead = c.lookahead := rfl
@[simp] theorem markEnd_tokenStart : c.markEnd.tokenStart = c.tokenStart := rfl
@[simp] theorem markEnd_tokenEnd : c.markEnd.tokenEnd = some c.position := rfl

@[simp] theorem setResult_input (s : Nat) : (c.setResult s).input = c.input := rfl
@[simp] theorem setResult_position (s : Nat) : (c.setResult s).position = c.position := rfl
@[simp] theorem setResult_lookahead (s : Nat) : (c.setResult s).lookahead = c.lookahead := rfl
@[simp] theorem setResult_tokenStart (s : Nat) : (c.setResult s).tokenStart = c.tokenStart := rfl
@[simp] theorem setResult_tokenEnd (s : Nat) : (c.setResult s).tokenEnd = c.tokenEnd := rfl
@[simp] theorem setResult_result (s : Nat) : (c.setResult s).result = s := rfl

@[simp] theorem noteExamined_input (e : Nat) : (c.noteExamined e).input = c.input := rfl
@[simp] theorem noteExamined_position (e : Nat) : (c.noteExamined e).position = c.position := rfl
@[simp] theorem noteExamined_lookahead (e : Nat) : (c.noteExamined e).lookahead = c.lookahead := rfl
@[simp] theorem noteExamined_tokenStart (e : Nat) :
    (c.noteExamined e).tokenStart = c.tokenStart := rfl
@[simp] theorem noteExamined_tokenEnd (e : Nat) : (c.noteExamined e).tokenEnd = c.tokenEnd := rfl
@[simp] theorem noteExamined_result (e : Nat) : (c.noteExamined e).result = c.result := rfl

/-- Asking for the column reads the text and changes nothing a token is made of. -/
theorem column_fields :
    c.column.2.input = c.input ∧ c.column.2.position = c.position ∧
      c.column.2.lookahead = c.lookahead ∧ c.column.2.tokenStart = c.tokenStart ∧
      c.column.2.tokenEnd = c.tokenEnd := by
  dsimp only [column]
  split <;> exact ⟨rfl, rfl, rfl, rfl, rfl⟩

/-! ### Cursors at their text -/

/-- A cursor over the text `X`: its position is the length of the text before it, and
    the character under it is decoded from there. -/
structure Valid (X : List UInt8) (c : Cursor) : Prop where
  input : c.input.data.toList = X
  position : Length.At X c.position
  lookahead : c.lookahead = Utf8.decodeAt c.input (min c.position.bytes c.input.size)

theorem Valid.size_eq (h : c.Valid X) : c.input.size = X.length := by
  rw [← h.input]
  simp

theorem valid_readLookahead (hinput : c.input.data.toList = X) (hpos : Length.At X c.position) :
    c.readLookahead.Valid X :=
  ⟨hinput, hpos, rfl⟩

theorem valid_new (input : ByteArray) : (Cursor.new input).Valid input.data.toList :=
  valid_readLookahead rfl (Length.covers_zero (Nat.zero_le _))

theorem Valid.reset (h : c.Valid X) {p : Length} (hp : Length.At X p) : (c.reset p).Valid X := by
  unfold Cursor.reset
  split <;> exact valid_readLookahead h.input hp

theorem Valid.markEnd (h : c.Valid X) : c.markEnd.Valid X := ⟨h.input, h.position, h.lookahead⟩

theorem Valid.setResult (h : c.Valid X) (s : Nat) : (c.setResult s).Valid X :=
  ⟨h.input, h.position, h.lookahead⟩

theorem Valid.noteExamined (h : c.Valid X) (e : Nat) : (c.noteExamined e).Valid X :=
  ⟨h.input, h.position, h.lookahead⟩

theorem Valid.column (h : c.Valid X) : c.column.2.Valid X := by
  obtain ⟨hin, hpos, hla, -, -⟩ := column_fields (c := c)
  exact ⟨hin ▸ h.input, hpos ▸ h.position, by rw [hla, hin, hpos]; exact h.lookahead⟩

/-! ### Moving over one character -/

@[simp] theorem step_input (skip : Bool) : (c.step skip).input = c.input := by
  unfold step
  split
  · rfl
  · dsimp only
    split <;> split <;> rfl

@[simp] theorem step_tokenEnd (skip : Bool) : (c.step skip).tokenEnd = c.tokenEnd := by
  unfold step
  split
  · rfl
  · dsimp only
    split <;> split <;> rfl

@[simp] theorem step_result (skip : Bool) : (c.step skip).result = c.result := by
  unfold step
  split
  · rfl
  · dsimp only
    split <;> split <;> rfl

theorem step_atEnd {skip : Bool} (h : c.atEnd = true) : c.step skip = c := by
  simp [step, h]

/-- The position after a step before the end: one row on after a line feed, else the
    character's width further along the row. -/
theorem step_position_eq {skip : Bool} (hend : c.atEnd = false) :
    (c.step skip).position =
      if c.lookahead.char = some '\n' then
        ⟨c.position.bytes + max c.lookahead.size 1, ⟨c.position.extent.row + 1, 0⟩⟩
      else ⟨c.position.bytes + max c.lookahead.size 1,
        ⟨c.position.extent.row, c.position.extent.column + max c.lookahead.size 1⟩⟩ := by
  unfold step
  simp only [hend, Bool.false_eq_true, ↓reduceIte]
  split <;> split <;> rfl

/-- A step decodes the character under its new position. -/
theorem step_lookahead {skip : Bool} (hend : c.atEnd = false) :
    (c.step skip).lookahead =
      Utf8.decodeAt c.input (min (c.step skip).position.bytes c.input.size) := by
  unfold step
  simp only [hend, Bool.false_eq_true, ↓reduceIte]
  split <;> split <;> rfl

theorem step_false_tokenStart : (c.step false).tokenStart = c.tokenStart := by
  unfold step
  split
  · rfl
  · simp only [Bool.false_eq_true, ↓reduceIte]
    split <;> rfl

/-- A step over padding moves the token start along with the position. -/
theorem step_true_tokenStart (hend : c.atEnd = false) :
    (c.step true).tokenStart = (c.step true).position := by
  unfold step
  simp only [hend, Bool.false_eq_true, ↓reduceIte]
  rfl

/-- A step before the end moves over the bytes of the character under the cursor, which
    is a line feed alone or holds none. -/
theorem Valid.step_position (h : c.Valid X) (hend : c.atEnd = false) (skip : Bool) :
    ∃ m, Length.Covers X c.position.bytes m ∧ 0 < m.bytes ∧
      (c.step skip).position = c.position.add m := by
  have hlt : c.position.bytes < X.length := by
    have := h.size_eq
    simp only [atEnd, decide_eq_false_iff_not, Nat.not_le] at hend
    omega
  obtain ⟨x, rest, hbytes⟩ : ∃ x rest, (X.drop c.position.bytes).take 4 = x :: rest := by
    cases hd : (X.drop c.position.bytes).take 4 with
    | nil => simp [List.take_eq_nil_iff] at hd; omega
    | cons x rest => exact ⟨x, rest, rfl⟩
  have hla : c.lookahead = Utf8.decode (x :: rest) := by
    rw [h.lookahead, Nat.min_eq_left (by rw [h.size_eq]; omega), Utf8.decodeAt_eq, h.input, hbytes]
  obtain ⟨hsize, hcases⟩ := Utf8.decode_bytes x rest
  rw [← hla] at hsize hcases
  have hfour : (x :: rest).length ≤ 4 := by
    rw [← hbytes]
    simp only [List.length_take, List.length_drop]
    omega
  have hroom : (x :: rest).length ≤ X.length - c.position.bytes := by
    rw [← hbytes]
    simp only [List.length_take, List.length_drop]
    omega
  -- the character's bytes are the first bytes of the four it was decoded from
  have hpiece : (X.drop c.position.bytes).take (max c.lookahead.size 1) =
      (x :: rest).take (max c.lookahead.size 1) := by
    rw [← hbytes, List.take_take, Nat.min_eq_left (by omega)]
  have hwidth : ((x :: rest).take (max c.lookahead.size 1)).length = max c.lookahead.size 1 := by
    rw [List.length_take]
    exact Nat.min_eq_left hsize
  refine ⟨Length.of ((x :: rest).take (max c.lookahead.size 1)), ⟨?_, ?_⟩, ?_, ?_⟩
  · rw [Length.bytes_of, hwidth]
    omega
  · rw [Length.bytes_of, hwidth, hpiece]
  · rw [Length.bytes_of, hwidth]
    omega
  · rw [step_position_eq hend]
    rcases hcases with ⟨hnl, hone, rfl⟩ | ⟨hnl, hnone⟩
    · simp [hnl, hone, Length.add, Length.of, Point.add]
    · have hext := Point.zero_advance_of_not_mem hnone
      rw [hwidth] at hext
      simp [hnl, Length.add, Length.of, hext, hwidth, Point.add]

theorem Valid.step (h : c.Valid X) (skip : Bool) : (c.step skip).Valid X := by
  cases hend : c.atEnd
  · obtain ⟨m, hm, -, hpos⟩ := h.step_position hend skip
    refine ⟨by rw [step_input]; exact h.input, hpos ▸ h.position.add hm, ?_⟩
    rw [step_lookahead hend, step_input]
  · rw [step_atEnd hend]
    exact h

/-! ### Scanning a token -/

/-- A cursor scanning a token that began at byte `base`: the cursor, the token start and
    a marked end are positions of the text, none of them before `base`. -/
structure Scanning (X : List UInt8) (base : Nat) (c : Cursor) : Prop where
  valid : c.Valid X
  tokenStart : Length.At X c.tokenStart
  tokenEnd : ∀ e ∈ c.tokenEnd, Length.At X e ∧ base ≤ e.bytes
  start_ge : base ≤ c.tokenStart.bytes
  position_ge : base ≤ c.position.bytes

namespace Scanning

theorem step (h : c.Scanning X base) (skip : Bool) : (c.step skip).Scanning X base := by
  cases hend : c.atEnd
  · obtain ⟨m, -, -, hpos⟩ := h.valid.step_position hend skip
    have hvalid := h.valid.step skip
    have hge : base ≤ (c.step skip).position.bytes := by
      rw [hpos, Length.bytes_add]
      have := h.position_ge
      omega
    refine ⟨hvalid, ?_, by simpa using h.tokenEnd, ?_, hge⟩
    · cases skip
      · rw [step_false_tokenStart]
        exact h.tokenStart
      · rw [step_true_tokenStart hend]
        exact hvalid.position
    · cases skip
      · rw [step_false_tokenStart]
        exact h.start_ge
      · rw [step_true_tokenStart hend]
        exact hge
  · rw [step_atEnd hend]
    exact h

theorem advance (h : c.Scanning X base) : c.advance.Scanning X base := h.step false

theorem skip (h : c.Scanning X base) : c.skip.Scanning X base := h.step true

theorem stepUntil {skip : Bool} {goal : Nat} :
    ∀ {fuel : Nat} {c : Cursor}, c.Scanning X base → (stepUntil skip goal fuel c).Scanning X base
  | 0, _, h => h
  | fuel + 1, c, h => by
    unfold Cursor.stepUntil
    split
    · exact stepUntil (h.step skip)
    · exact h

theorem advanceBytes (h : c.Scanning X base) (n : Nat) : (c.advanceBytes n).Scanning X base :=
  stepUntil h

theorem skipBytes (h : c.Scanning X base) (n : Nat) : (c.skipBytes n).Scanning X base :=
  stepUntil h

theorem markEnd (h : c.Scanning X base) : c.markEnd.Scanning X base := by
  refine ⟨h.valid.markEnd, h.tokenStart, ?_, h.start_ge, h.position_ge⟩
  intro e he
  simp only [markEnd_tokenEnd, Option.mem_def, Option.some.injEq] at he
  subst he
  exact ⟨h.valid.position, h.position_ge⟩

theorem setResult (h : c.Scanning X base) (s : Nat) : (c.setResult s).Scanning X base :=
  ⟨h.valid.setResult s, h.tokenStart, h.tokenEnd, h.start_ge, h.position_ge⟩

theorem noteExamined (h : c.Scanning X base) (e : Nat) : (c.noteExamined e).Scanning X base :=
  ⟨h.valid.noteExamined e, h.tokenStart, h.tokenEnd, h.start_ge, h.position_ge⟩

theorem column (h : c.Scanning X base) : c.column.2.Scanning X base := by
  obtain ⟨-, hpos, -, hstart, hend⟩ := column_fields (c := c)
  exact ⟨h.valid.column, hstart ▸ h.tokenStart, hend ▸ h.tokenEnd, hstart ▸ h.start_ge,
    hpos ▸ h.position_ge⟩

end Scanning

end Cursor

namespace Scanner

open Cursor

variable {X : List UInt8} {base : Nat}

theorem Scanning.skipSpace : ∀ {fuel : Nat} {c : Cursor}, c.Scanning X base →
    (skipSpace fuel c).Scanning X base
  | 0, _, h => h
  | fuel + 1, c, h => by
    unfold Scanner.skipSpace
    split
    · split
      · exact Scanning.skipSpace h.skip
      · exact h
    · exact h

theorem Scanning.commentBody : ∀ {fuel depth : Nat} {c : Cursor}, c.Scanning X base →
    (commentBody fuel depth c).2.Scanning X base
  | 0, _, _, h => h
  | fuel + 1, depth, c, h => by
    unfold Scanner.commentBody
    split
    · exact h
    · dsimp only
      split
      · split
        · exact (h.advance.advance.markEnd).setResult 0
        · exact Scanning.commentBody h.advance.advance
      · exact Scanning.commentBody h.advance
    · dsimp only
      split
      · exact Scanning.commentBody h.advance.advance
      · exact Scanning.commentBody h.advance
    · exact Scanning.commentBody h.advance

theorem Scanning.scan (scanner : Scanner) {c : Cursor} (h : c.Scanning X base)
    (state : List UInt8) (valid : Array Bool) : (scanner.scan c state valid).2.1.Scanning X base := by
  cases scanner with
  | nestedComment =>
    simp only [Scanner.scan, scanComment]
    split
    · exact h
    · have hs : (Scanner.skipSpace (c.remaining + 1) c).Scanning X base := Scanning.skipSpace h
      split
      · exact hs
      · split
        · exact hs.advance
        · exact Scanning.commentBody hs.advance.advance
  | braces =>
    simp only [Scanner.scan, scanBraces]
    have hs : (Scanner.skipSpace (c.remaining + 1) c).Scanning X base := Scanning.skipSpace h
    split
    · split
      · dsimp only
        split
        · exact (hs.advance.markEnd.advance).setResult 0
        · exact hs.advance.markEnd.setResult 0
      · exact hs
    · split
      · exact hs.advance.markEnd.setResult 1
      · exact hs
    · split
      · split
        · exact hs.column
        · exact hs.column.advance.markEnd.setResult 2
      · exact hs
    · exact hs.advance.markEnd.setResult 7
    · exact hs.markEnd.setResult 0
    · exact hs.markEnd.skip.setResult 0
    · exact hs.advance.markEnd.setResult 1
    · exact hs

end Scanner

namespace Cursor

variable {X : List UInt8} {c : Cursor} {base : Nat}

/-- A lex table scans only by skipping padding, reading characters and marking. -/
theorem Scanning.lex (t : LexTable) (h : c.Scanning X base) (state : Nat) :
    (t.lex c state).2.Scanning X base := by
  unfold LexTable.lex
  split
  · exact h
  · extract_lets pos cpad pos'
    -- skipping the padding notes how far it looked and moves over what it matched
    have hpad : cpad.Scanning X base := by
      simp only [cpad]
      split
      · split
        · exact (h.noteExamined _).skipBytes _
        · exact h.noteExamined _
      · exact h
    split
    · exact (hpad.setResult 0).markEnd
    · split
      split
      · exact (((hpad.noteExamined _).advanceBytes _).markEnd).setResult _
      · exact hpad.noteExamined _

@[simp] theorem reset_position (p : Length) : (c.reset p).position = p := by
  unfold Cursor.reset
  split <;> rfl

@[simp] theorem reset_input (p : Length) : (c.reset p).input = c.input := by
  unfold Cursor.reset
  split <;> rfl

/-- A token begun at a position of the text is scanned from there. -/
theorem Valid.restart (h : c.Valid X) {p : Length} (hp : Length.At X p) :
    (c.restart p).Scanning X p.bytes := by
  have hreset := h.reset hp
  have hbegun : Scanning X p.bytes { (c.reset p) with
      tokenStart := (c.reset p).position
      tokenEnd := none
      result := 0
      askedColumn := false } :=
    ⟨⟨hreset.input, hreset.position, hreset.lookahead⟩, by simpa using hp, by simp,
      by simp, by simp⟩
  unfold Cursor.restart Cursor.start
  dsimp only
  split
  · exact hbegun.skip
  · exact hbegun

/-- A finished token lies between positions of the text, from the start of the scan on. -/
theorem Scanning.finish (h : c.Scanning X base) :
    Length.At X c.finish.1 ∧ Length.At X c.finish.2 ∧ base ≤ c.finish.1.bytes ∧
      c.finish.1.bytes ≤ c.finish.2.bytes := by
  have hstop : Length.At X (c.tokenEnd.getD c.position) ∧ base ≤ (c.tokenEnd.getD c.position).bytes := by
    cases hend : c.tokenEnd with
    | none => exact ⟨h.valid.position, h.position_ge⟩
    | some e => exact h.tokenEnd e hend
  unfold Cursor.finish
  dsimp only
  split
  · exact ⟨hstop.1, hstop.1, hstop.2, Nat.le_refl _⟩
  · rename_i hlt
    exact ⟨h.tokenStart, hstop.1, h.start_ge, Nat.le_of_not_lt hlt⟩

end Cursor

/-- Where a token lies: its start and stop are positions of the text, neither before the
    padding start `from_`, and the start not after the stop. -/
def TokenAt (X : List UInt8) (from_ start stop : Length) : Prop :=
  Length.At X start ∧ Length.At X stop ∧ from_.bytes ≤ start.bytes ∧ start.bytes ≤ stop.bytes

section Lexing

variable {X : List UInt8} {c : Cursor} {p : Length}

/-- One run of the lex table reports a token between positions, scanned from `p`. -/
theorem lexInternal_positions (table : ParseTable) (h : c.Valid X) (hp : Length.At X p)
    (lexState : Nat) :
    (∀ s b e, (lexInternal table c p lexState).1 = some (s, b, e) → TokenAt X p b e) ∧
      (lexInternal table c p lexState).2.2.Scanning X p.bytes := by
  have hlex := (h.restart hp).lex table.lexTable lexState
  have hfin := hlex.finish
  unfold lexInternal
  dsimp only
  split
  · exact ⟨fun _ _ _ h => (by cases h), hlex⟩
  · refine ⟨fun s b e hfound => ?_, hlex⟩
    split at hfound
    · cases hfound
      exact hfin
    · split at hfound
      · cases hfound
        exact hfin
      · cases hfound

/-- Growing an error token keeps its end a position of the text, never moving back. -/
theorem growError_positions (table : ParseTable) (errorMode : Nat) :
    ∀ (fuel : Nat) {c : Cursor} {e : Length}, c.Valid X → Length.At X e →
      Length.At X (growError table errorMode fuel c e).1 ∧
        e.bytes ≤ (growError table errorMode fuel c e).1.bytes ∧
        (growError table errorMode fuel c e).2.Valid X
  | 0, c, e, h, he => ⟨he, Nat.le_refl _, h⟩
  | fuel + 1, c, e, h, he => by
    have hstep := (h.restart he).advance
    unfold growError
    dsimp only
    split
    · exact ⟨hstep.valid.position, hstep.position_ge, hstep.valid⟩
    · have hinner := lexInternal_positions table hstep.valid hstep.valid.position errorMode
      split
      · exact ⟨hstep.valid.position, hstep.position_ge, hinner.2.valid⟩
      · obtain ⟨hat, hle, hvalid⟩ :=
          growError_positions table errorMode fuel hinner.2.valid hstep.valid.position
        exact ⟨hat, Nat.le_trans hstep.position_ge hle, hvalid⟩

/-- The error token starts where it is asked to, and ends at a position after that. -/
theorem lexError_positions (table : ParseTable) (h : c.Valid X) {errorStart : Length}
    (hs : Length.At X errorStart) :
    (lexError table c errorStart).1.2.1 = errorStart ∧
      TokenAt X errorStart errorStart (lexError table c errorStart).1.2.2 ∧
      (lexError table c errorStart).2.Valid X := by
  unfold lexError
  split
  · exact ⟨rfl, ⟨hs, hs, Nat.le_refl _, Nat.le_refl _⟩, h.reset hs⟩
  · obtain ⟨hat, hle, hvalid⟩ := growError_positions table _ (c.input.size + 1) h hs
    exact ⟨rfl, ⟨hs, hat, Nat.le_refl _, hle⟩, hvalid⟩

/-- A scanner's token lies between positions, scanned from `start`. -/
theorem scanExternal_positions (table : ParseTable) (scanner : Scanner) (h : c.Valid X)
    {start : Length} (hs : Length.At X start) (parseState : Nat) (state : List UInt8) :
    (∀ s b e st, (scanExternal table scanner c start parseState state).1 = some ((s, b, e), st) →
      TokenAt X start b e) ∧ (scanExternal table scanner c start parseState state).2.2.Valid X := by
  have hscan := Scanner.Scanning.scan scanner (h.restart hs) state (table.scannerValid parseState)
  have hfin := hscan.finish
  unfold scanExternal
  dsimp only
  split
  · exact ⟨fun _ _ _ _ h => (by cases h), hscan.valid⟩
  · split
    · split
      · refine ⟨fun s b e st hfound => ?_, hscan.valid⟩
        cases hfound
        exact hfin
      · exact ⟨fun _ _ _ _ h => (by cases h), hscan.valid⟩
    · exact ⟨fun _ _ _ _ h => (by cases h), hscan.valid⟩

/-- The later of two positions is a position. -/
theorem Length.At.max {a b : Length} (ha : Length.At X a) (hb : Length.At X b) :
    Length.At X (a.max b) ∧ a.bytes ≤ (a.max b).bytes := by
  unfold Length.max
  split
  · rename_i hlt
    exact ⟨hb, Nat.le_of_lt hlt⟩
  · exact ⟨ha, Nat.le_refl _⟩

/-- The state of the tries of `nextToken` at its lex states: a token found lies between
    positions, and the error token would start at a position from the padding start on. -/
def TriesAt (X : List UInt8) (from_ : Length)
    (acc : Option (Nat × Length × Length) × Bool × Length × Cursor) : Prop :=
  (∀ s b e, acc.1 = some (s, b, e) → TokenAt X from_ b e) ∧ Length.At X acc.2.2.1 ∧
    from_.bytes ≤ acc.2.2.1.bytes ∧ acc.2.2.2.Valid X

/-- Every token the lexer reports lies between positions of the text, its padding from
    where the cursor was. -/
theorem nextToken_positions (table : ParseTable) (h : c.Valid X) (parseState : Nat)
    (state : List UInt8) :
    (nextToken table c parseState state).1.paddingStart = c.position ∧
      TokenAt X c.position (nextToken table c parseState state).1.start
        (nextToken table c parseState state).1.stop ∧
      (nextToken table c parseState state).2.Valid X := by
  fun_cases nextToken table c parseState state with
  | case1 startPos mode c₀ external asked₀ c₁ hext errorMode modes attempt found asked errorStart
      c₂ hfold symbol begin stop c₃ hlast =>
    have hc₀ : c₀.Valid X := ⟨h.input, h.position, h.lookahead⟩
    -- the scanner runs first, where the lex mode enables it
    have hscan : (∀ s b e st, external = some ((s, b, e), st) → TokenAt X startPos b e) ∧
        c₁.Valid X := by
      split at hext
      · rename_i scanner _
        split at hext
        · have hrun := scanExternal_positions table scanner hc₀ h.position parseState state
          rw [hext] at hrun
          exact hrun
        · simp only [Prod.mk.injEq] at hext
          obtain ⟨rfl, -, rfl⟩ := hext
          exact ⟨fun _ _ _ _ h => (by cases h), hc₀⟩
      · simp only [Prod.mk.injEq] at hext
        obtain ⟨rfl, -, rfl⟩ := hext
        exact ⟨fun _ _ _ _ h => (by cases h), hc₀⟩
    -- then the lex table in each lex state, until one finds a token
    have htries : TriesAt X startPos (List.foldl attempt
        (Option.map (fun x => x.fst) external, asked₀, startPos, c₁) modes) := by
      refine List.foldlRecOn (motive := TriesAt X startPos) modes attempt ?_ ?_
      · refine ⟨fun s b e hfound => ?_, h.position, Nat.le_refl _, hscan.2⟩
        obtain ⟨⟨token, st⟩, hsome, htoken⟩ := Option.map_eq_some_iff.1 hfound
        simp only at htoken
        subst htoken
        exact hscan.1 s b e st hsome
      · rintro ⟨found', asked', errorStart', c'⟩ ⟨hfound', hstart', hle', hvalid'⟩ m -
        simp only [attempt]
        split
        · exact ⟨hfound', hstart', hle', hvalid'⟩
        · obtain ⟨htoken, hscanning⟩ := lexInternal_positions table hvalid' h.position m
          obtain ⟨hmax, hmaxle⟩ := hstart'.max hscanning.tokenStart
          refine ⟨htoken, ?_, ?_, hscanning.valid⟩
          · split
            · exact hmax
            · exact hstart'
          · split
            · exact Nat.le_trans hle' hmaxle
            · exact hle'
    rw [hfold] at htries
    obtain ⟨hfound, hstart, hle, hvalid⟩ := htries
    simp only at hfound hstart hle hvalid
    refine ⟨rfl, ?_⟩
    -- what no lex state found becomes an error token, or the end
    cases found with
    | some token =>
      simp only [Prod.mk.injEq] at hlast
      obtain ⟨rfl, rfl⟩ := hlast
      exact ⟨hfound _ _ _ rfl, hvalid⟩
    | none =>
      simp only at hlast
      obtain ⟨hbegin, hat, herr⟩ := lexError_positions table hvalid hstart
      rw [hlast] at hbegin hat herr
      obtain ⟨hb', hs', -, hbs⟩ := hat
      simp only at hbegin
      subst hbegin
      exact ⟨⟨hb', hs', hle, hbs⟩, herr⟩

end Lexing

end IncrementalLR
