import Mathlib
import IncrementalLR.Proofs.Lex.Decoding

/-!
# The remembered column

A cursor counts the character column of its position as it moves: a line feed sets the count
to zero, and any other character or stray byte adds one, except the byte order mark a text
may start with.
-/

namespace IncrementalLR

namespace Utf8

/-! ### Columns of a text -/

/-- The pieces of a text less a byte order mark that starts it. -/
def afterMark (ps : List (List UInt8)) : List (List UInt8) :=
  if ps.head? = some (String.utf8EncodeChar byteOrderMark) then ps.tail else ps

/-- The character column at the end of a text: the characters and stray bytes read
    after its last line feed, a byte order mark that starts the text not counted. -/
def lineColumn (before : List UInt8) : Nat :=
  ((afterMark (pieces before)).rtakeWhile (· != [10])).length

theorem encodeChar_byteOrderMark : String.utf8EncodeChar byteOrderMark = [0xEF, 0xBB, 0xBF] := by
  decide

theorem afterMark_cons (q : List UInt8) (ps : List (List UInt8)) :
    afterMark (q :: ps) = if q = String.utf8EncodeChar byteOrderMark then ps else q :: ps := by
  simp [afterMark]

theorem afterMark_append {ps : List (List UInt8)} (hne : ps ≠ []) (qs : List (List UInt8)) :
    afterMark (ps ++ qs) = afterMark ps ++ qs := by
  obtain ⟨q, ps, rfl⟩ := List.exists_cons_of_ne_nil hne
  rw [List.cons_append, afterMark_cons, afterMark_cons]
  split <;> rfl

theorem rtakeWhile_append_of_all {α : Type} {p : α → Bool} (l : List α) {m : List α}
    (h : ∀ x ∈ m, p x) : (l ++ m).rtakeWhile p = l.rtakeWhile p ++ m := by
  induction m using List.reverseRecOn with
  | nil => simp
  | append_singleton m x ih =>
    have hx : p x := h x (by simp)
    rw [← List.append_assoc, List.rtakeWhile_concat_pos _ _ x hx,
      ih (fun y hy => h y (by simp [hy])), List.append_assoc]

/-- The column after one more piece: zero after a line feed, unchanged over a byte order
    mark that starts the text, one more otherwise. -/
theorem lineColumn_append_piece {before q : List UInt8}
    (h : pieces (before ++ q) = pieces before ++ [q]) :
    lineColumn (before ++ q) =
      if q = [10] then 0
      else if before = [] ∧ q = String.utf8EncodeChar byteOrderMark then 0
      else lineColumn before + 1 := by
  unfold lineColumn
  rw [h]
  by_cases hnil : before = []
  · subst hnil
    rw [pieces_nil, List.nil_append, afterMark_cons]
    by_cases hq : q = [10]
    · subst hq
      simp [encodeChar_byteOrderMark]
    · by_cases hmark : q = String.utf8EncodeChar byteOrderMark
      · simp [hmark]
      · rw [if_neg hmark, show [q] = [] ++ [q] from rfl,
          List.rtakeWhile_concat_pos _ _ _ (by simpa using hq)]
        simp [hq, hmark, afterMark]
  · have hne : pieces before ≠ [] := fun hp => hnil (pieces_eq_nil_iff.1 hp)
    rw [afterMark_append hne, List.rtakeWhile_concat]
    by_cases hq : q = [10]
    · simp [hq]
    · simp [hq, hnil]

/-! ### Line feeds cut the reading -/

theorem newline_ne_continuation (k : Nat) : (10 : UInt8) ≠ UInt8.ofNat (k % 64) + 128 := by
  intro h
  have htoNat := congrArg UInt8.toNat h
  simp [UInt8.toNat_add, UInt8.toNat_ofNat] at htoNat
  omega

/-- Only the first byte of an encoding can be a line feed: the others are continuation
    bytes. -/
theorem newline_not_mem_encodeChar_tail (c : Char) : 10 ∉ (String.utf8EncodeChar c).tail := by
  unfold String.utf8EncodeChar
  dsimp only
  split_ifs <;> simp [newline_ne_continuation]

/-- No character is read across a line feed: cuts of a text and of a line after it make
    a cut of the two together. -/
theorem Cut.append_newline {A B : List UInt8} {ps qs : List (List UInt8)} (h : Cut A ps)
    (hB : Cut (10 :: B) qs) : Cut (A ++ 10 :: B) (ps ++ qs) := by
  induction h with
  | nil => exact hB
  | char c _ ih =>
    rw [List.append_assoc, List.cons_append]
    exact Cut.char c ih
  | @stray b rest _ hs _ ih =>
    refine Cut.stray ?_ ih
    -- an encoding that reached past `b :: rest` would hold the line feed after its first byte
    rintro c ⟨t, ht⟩
    have hsplit : String.utf8EncodeChar c ++ t = (b :: rest) ++ 10 :: B := ht
    rw [List.append_eq_append_iff] at hsplit
    rcases hsplit with ⟨a, hshort, -⟩ | ⟨d, hlong, hrest⟩
    · exact hs c ⟨a, hshort.symm⟩
    · cases d with
      | nil => exact hs c ⟨[], by simpa using hlong⟩
      | cons x d =>
        obtain ⟨rfl, -⟩ := List.cons.inj hrest
        apply newline_not_mem_encodeChar_tail c
        rw [hlong]
        simp

theorem pieces_newline_cons (B : List UInt8) : pieces (10 :: B) = [10] :: pieces B := by
  have hcut := Cut.char '\n' (cut_pieces B)
  rw [encodeChar_newline] at hcut
  exact hcut.eq_pieces.symm

/-- A text is read up to a line feed, then the line feed, then the rest. -/
theorem pieces_append_newline (A B : List UInt8) :
    pieces (A ++ 10 :: B) = pieces A ++ [10] :: pieces B := by
  have hB := cut_pieces (10 :: B)
  rw [pieces_newline_cons] at hB
  exact ((cut_pieces A).append_newline hB).eq_pieces.symm

/-- The pieces of a text without line feeds are none of them a line feed. -/
theorem ne_newline_of_mem_pieces {L : List UInt8} (h : 10 ∉ L) :
    ∀ q ∈ pieces L, (q != [10]) = true := by
  intro q hq
  have hsub : q ⊆ L := by
    intro x hx
    rw [← (cut_pieces L).flatten_eq]
    exact List.mem_flatten.2 ⟨q, hq, hx⟩
  simpa using fun hq10 : q = [10] => h (hsub (by simp [hq10]))

theorem afterMark_append_newline (ps : List (List UInt8)) :
    afterMark (ps ++ [[10]]) = afterMark ps ++ [[10]] := by
  cases ps with
  | nil => simp [afterMark, encodeChar_byteOrderMark]
  | cons q ps => exact afterMark_append (List.cons_ne_nil q ps) _

/-- On a first line the column counts every piece but a starting mark. -/
theorem lineColumn_of_not_mem {L : List UInt8} (h : 10 ∉ L) :
    lineColumn L = (afterMark (pieces L)).length := by
  unfold lineColumn
  rw [List.rtakeWhile_eq_self_iff.2]
  intro q hq
  apply ne_newline_of_mem_pieces h
  unfold afterMark at hq
  split at hq
  · exact List.mem_of_mem_tail hq
  · exact hq

/-- After a line feed the column counts the pieces of the last line. -/
theorem lineColumn_append_newline (A : List UInt8) {L : List UInt8} (h : 10 ∉ L) :
    lineColumn (A ++ 10 :: L) = (pieces L).length := by
  unfold lineColumn
  have hcut : pieces A ++ [10] :: pieces L = (pieces A ++ [[10]]) ++ pieces L := by simp
  rw [pieces_append_newline, hcut, afterMark_append (by simp), afterMark_append_newline,
    rtakeWhile_append_of_all _ (ne_newline_of_mem_pieces h),
    List.rtakeWhile_concat_neg _ _ _ (by simp), List.nil_append]

/-- The column of a text is counted over its last line alone, a starting mark only where
    that line starts the text. -/
theorem lineColumn_eq_lastLine (P : List UInt8) :
    lineColumn P =
      (if P.length - (P.rtakeWhile (· != 10)).length = 0
        then afterMark (pieces (P.rtakeWhile (· != 10)))
        else pieces (P.rtakeWhile (· != 10))).length := by
  have hline : 10 ∉ P.rtakeWhile (· != 10) := fun hm => by
    simpa using List.mem_rtakeWhile_imp hm
  have hsplit : P.rdropWhile (· != 10) ++ P.rtakeWhile (· != 10) = P :=
    List.rdropWhile_append_rtakeWhile
  split
  case isTrue hfirst =>
    -- no line feed: the last line is the whole text
    have hsuffix := List.rtakeWhile_suffix (· != 10) P
    rw [hsuffix.eq_of_length (by have := hsuffix.length_le; omega)] at hline ⊢
    exact lineColumn_of_not_mem hline
  case isFalse hlater =>
    -- the text before the last line ends with its line feed
    have hne : P.rdropWhile (· != 10) ≠ [] := by
      intro hnil
      rw [hnil, List.nil_append] at hsplit
      exact hlater (by rw [hsplit]; simp)
    have hlast := List.rdropWhile_last_not (· != 10) P hne
    rw [← List.dropLast_append_getLast hne] at hsplit
    have hten : (P.rdropWhile (· != 10)).getLast hne = 10 := by simpa using hlast
    rw [hten, List.append_assoc, List.singleton_append] at hsplit
    conv_lhs => rw [← hsplit]
    exact lineColumn_append_newline _ hline

/-! ### Where reading steps end -/

/-- `n` is where some first steps of reading `X` end. -/
def Boundary (X : List UInt8) (n : Nat) : Prop :=
  ∃ k, ((pieces X).take k).flatten.length = n

theorem boundary_zero (X : List UInt8) : Boundary X 0 := ⟨0, rfl⟩

/-- The text before a boundary and the text after it are read in the steps before it
    and the steps after it. -/
theorem Boundary.split {X : List UInt8} {n : Nat} (h : Boundary X n) :
    ∃ k, pieces (X.take n) = (pieces X).take k ∧ pieces (X.drop n) = (pieces X).drop k := by
  obtain ⟨k, hk⟩ := h
  have hX : ((pieces X).take k).flatten ++ ((pieces X).drop k).flatten = X := by
    rw [← List.flatten_append, List.take_append_drop, (cut_pieces X).flatten_eq]
  have htake : X.take n = ((pieces X).take k).flatten := by
    conv_lhs => rw [← hX]
    exact List.take_left' hk
  have hdrop : X.drop n = ((pieces X).drop k).flatten := by
    conv_lhs => rw [← hX]
    exact List.drop_left' hk
  exact ⟨k, by rw [htake, pieces_flatten_take], by rw [hdrop, pieces_flatten_drop]⟩

/-- One more step from a boundary ends at a boundary, and the text before it is read in
    one more piece: the bytes of that step. -/
theorem Boundary.step {X : List UInt8} {n : Nat} (h : Boundary X n) (hn : n < X.length) :
    Boundary X (n + stepWidth (X.drop n)) ∧
      pieces (X.take (n + stepWidth (X.drop n))) =
        pieces (X.take n) ++ [(X.drop n).take (stepWidth (X.drop n))] := by
  obtain ⟨k, htake, hdrop⟩ := h.split
  have hne : X.drop n ≠ [] := by
    simpa [List.drop_eq_nil_iff] using hn
  have hroom : stepWidth (X.drop n) ≤ (X.drop n).length := size_le_length hne
  -- the pieces after the boundary begin with the bytes of this step
  have hmore : (pieces X).take (k + 1) =
      (pieces X).take k ++ [(X.drop n).take (stepWidth (X.drop n))] := by
    rw [List.take_add, ← hdrop, pieces_of_ne_nil hne]
    rfl
  have hflat : X.take (n + stepWidth (X.drop n)) = ((pieces X).take (k + 1)).flatten := by
    rw [List.take_add, hmore, ← htake, List.flatten_append, List.flatten_singleton,
      (cut_pieces _).flatten_eq]
  refine ⟨⟨k + 1, ?_⟩, by rw [hflat, pieces_flatten_take, hmore, htake]⟩
  rw [← hflat, List.length_take]
  have hfit : n + stepWidth (X.drop n) ≤ X.length := by
    rw [List.length_drop] at hroom
    omega
  omega

/-- The column after one more step from a boundary, read off the character stepped over:
    zero after a line feed and after a starting mark, one more otherwise. -/
theorem Boundary.lineColumn_step {X : List UInt8} {n : Nat} (h : Boundary X n)
    (hn : n < X.length) :
    lineColumn (X.take (n + stepWidth (X.drop n))) =
      if (decode (X.drop n)).char = some '\n' then 0
      else if n = 0 ∧ (decode (X.drop n)).char = some byteOrderMark then 0
      else lineColumn (X.take n) + 1 := by
  have hne : X.drop n ≠ [] := by
    simpa [List.drop_eq_nil_iff] using hn
  have hpieces := (h.step hn).2
  rw [List.take_add] at hpieces ⊢
  rw [lineColumn_append_piece hpieces]
  -- the piece read is a line feed or the mark exactly when that character is decoded
  have hnewline : (X.drop n).take (stepWidth (X.drop n)) = [10] ↔
      (decode (X.drop n)).char = some '\n' := by
    rw [char_decode_eq_some_iff hne, encodeChar_newline]
  have hmark : (X.drop n).take (stepWidth (X.drop n)) = String.utf8EncodeChar byteOrderMark ↔
      (decode (X.drop n)).char = some byteOrderMark :=
    (char_decode_eq_some_iff hne).symm
  have hstart : X.take n = [] ↔ n = 0 := by
    rw [List.take_eq_nil_iff]
    constructor
    · rintro (hzero | rfl)
      · exact hzero
      · simp at hn
    · exact Or.inl
  simp only [hnewline, hmark, hstart]

end Utf8

namespace Cursor

open Utf8

variable {X : List UInt8} {c : Cursor}

/-! ### Counting a line afresh -/

/-- Past the first byte of the text, counting adds one for every step left in the line. -/
theorem countColumns_eq_of_pos (line : ByteArray) (lineStart : Nat) :
    ∀ (fuel offset acc : Nat), line.size - offset ≤ fuel → 0 < lineStart + offset →
      countColumns line lineStart fuel offset acc =
        acc + (pieces (line.data.toList.drop offset)).length := by
  intro fuel
  induction fuel with
  | zero =>
    intro offset acc hfuel _
    have hsize : line.data.toList.length = line.size := by simp
    rw [List.drop_eq_nil_of_le (by omega), pieces_nil]
    rfl
  | succ fuel ih =>
    intro offset acc hfuel hpos
    rw [countColumns]
    dsimp only
    split
    case isTrue hlt =>
      have hne : line.data.toList.drop offset ≠ [] := by
        simpa [List.drop_eq_nil_iff] using hlt
      have hnotMark : ¬(lineStart + offset = 0 ∧
          (decodeAt line offset).char = some byteOrderMark) := by
        rintro ⟨hzero, -⟩
        omega
      have hwidth : max (decodeAt line offset).size 1 = stepWidth (line.data.toList.drop offset) := by
        rw [decodeAt_eq_decode]
        rfl
      have hpos := stepWidth_pos (line.data.toList.drop offset)
      rw [if_neg hnotMark, hwidth, ih _ _ (by omega) (by omega), pieces_of_ne_nil hne,
        List.length_cons, List.drop_drop]
      omega
    case isFalse hge =>
      have hsize : line.data.toList.length = line.size := by simp
      rw [List.drop_eq_nil_of_le (by omega), pieces_nil]
      rfl

/-- Counting a whole line: every step counts but a byte order mark that starts the text. -/
theorem countColumns_line (line : ByteArray) (lineStart : Nat) :
    countColumns line lineStart line.size 0 0 =
      (if lineStart = 0 then afterMark (pieces line.data.toList)
        else pieces line.data.toList).length := by
  have hlength : line.data.toList.length = line.size := by simp
  cases hsize : line.size with
  | zero =>
    have hnil : line.data.toList = [] := List.eq_nil_of_length_eq_zero (by omega)
    simp [countColumns, hnil, pieces_nil, afterMark]
  | succ n =>
    have hne : line.data.toList ≠ [] := List.ne_nil_of_length_pos (by omega)
    have hpos := stepWidth_pos line.data.toList
    have hwidth : max (decodeAt line 0).size 1 = stepWidth line.data.toList := by
      rw [decodeAt_eq_decode]
      rfl
    rw [countColumns]
    dsimp only
    rw [if_pos (by omega), hwidth, countColumns_eq_of_pos _ _ _ _ _ (by omega) (by omega),
      pieces_of_ne_nil hne, afterMark_cons, decodeAt_eq_decode, List.drop_zero]
    by_cases hstart : lineStart = 0
    · by_cases hmark : (decode line.data.toList).char = some byteOrderMark
      · have hq := (char_decode_eq_some_iff hne).1 hmark
        simp [hstart, hmark, hq]
      · have hq : ¬line.data.toList.take (stepWidth line.data.toList) =
            String.utf8EncodeChar byteOrderMark :=
          fun hq => hmark ((char_decode_eq_some_iff hne).2 hq)
        simp [hstart, hmark, hq]
        omega
    · simp [hstart]
      omega

/-- Counted afresh, the column of a cursor over `X` is the column of the text before it. -/
theorem Valid.column_of_none (h : c.Valid X) (hnone : c.cachedColumn = none) :
    c.column.1 = lineColumn (X.take c.position.bytes) := by
  have hle := h.position.le
  have hlen : (X.take c.position.bytes).length = c.position.bytes := by
    simp only [List.length_take]
    omega
  -- the column of the position is the length of the last line
  have hcol : c.position.extent.column =
      ((X.take c.position.bytes).rtakeWhile (· != 10)).length := by
    rw [congrArg Length.extent h.position.eq, Length.extent_of, Point.zero_advance,
      List.rtakeWhile, List.length_reverse]
  have hline : (c.input.extract (c.position.bytes - c.position.extent.column)
      c.position.bytes).data.toList = (X.take c.position.bytes).rtakeWhile (· != 10) := by
    rw [ByteArray.data_extract, Array.toList_extract, List.extract_eq_take_drop, h.input,
      ← List.drop_take, List.suffix_iff_eq_drop.1 (List.rtakeWhile_suffix _ _), hlen, hcol]
  simp only [Cursor.column, hnone]
  rw [countColumns_line, hline, lineColumn_eq_lastLine, hlen, hcol]

/-! ### The kept column -/

/-- A position of `X` where steps of reading it from the start end. -/
def Landing (X : List UInt8) (p : Length) : Prop := Length.At X p ∧ Boundary X p.bytes

/-- A cursor over `X` at a landing position, whose token bounds are landing positions and
    whose kept column, if any, is the column of the text before it. -/
structure Tracked (X : List UInt8) (c : Cursor) : Prop where
  valid : c.Valid X
  boundary : Boundary X c.position.bytes
  tokenStart : Landing X c.tokenStart
  tokenEnd : ∀ p ∈ c.tokenEnd, Landing X p
  cached : ∀ v ∈ c.cachedColumn, v = lineColumn (X.take c.position.bytes)

theorem Tracked.landing (h : c.Tracked X) : Landing X c.position := ⟨h.valid.position, h.boundary⟩

theorem tracked_new (input : ByteArray) : (Cursor.new input).Tracked input.data.toList :=
  ⟨valid_new input, boundary_zero _, ⟨Length.covers_zero (Nat.zero_le _), boundary_zero _⟩,
    (fun _ hp => by cases hp), (fun _ hv => by cases hv)⟩

/-- The kept column after a step: zero after a line feed, kept over a starting mark, one
    more otherwise. -/
theorem step_cachedColumn {skip : Bool} (hend : c.atEnd = false) :
    (c.step skip).cachedColumn =
      if c.lookahead.char = some '\n' then some 0
      else if c.position.bytes = 0 ∧ c.lookahead.char = some byteOrderMark then c.cachedColumn
      else c.cachedColumn.map (· + 1) := by
  unfold step
  simp only [hend, Bool.false_eq_true, ↓reduceIte]
  split <;> split <;> rfl

theorem Tracked.step (h : c.Tracked X) (skip : Bool) : (c.step skip).Tracked X := by
  cases hend : c.atEnd
  case true =>
    rw [step_atEnd hend]
    exact h
  case false =>
    have hlt : c.position.bytes < X.length := by
      have := h.valid.size_eq
      simp only [atEnd, decide_eq_false_iff_not, Nat.not_le] at hend
      omega
    have hla : c.lookahead = decode (X.drop c.position.bytes) := by
      rw [h.valid.lookahead, Nat.min_eq_left (by rw [h.valid.size_eq]; omega), decodeAt_eq_decode,
        h.valid.input]
    have hpos : (c.step skip).position.bytes =
        c.position.bytes + stepWidth (X.drop c.position.bytes) := by
      rw [step_position_eq hend, hla]
      split <;> rfl
    have hvalid := h.valid.step skip
    refine ⟨hvalid, hpos ▸ (h.boundary.step hlt).1, ?_, by rw [step_tokenEnd]; exact h.tokenEnd, ?_⟩
    · cases skip
      · rw [step_false_tokenStart]
        exact h.tokenStart
      · rw [step_true_tokenStart hend]
        exact ⟨hvalid.position, hpos ▸ (h.boundary.step hlt).1⟩
    · -- the kept column follows the character stepped over
      rw [step_cachedColumn hend, hpos, h.boundary.lineColumn_step hlt, ← hla]
      intro v hv
      by_cases hnewline : c.lookahead.char = some '\n'
      · rw [if_pos hnewline] at hv ⊢
        exact Option.mem_some_iff.1 hv |>.symm
      · rw [if_neg hnewline] at hv ⊢
        by_cases hmark : c.position.bytes = 0 ∧ c.lookahead.char = some byteOrderMark
        · rw [if_pos hmark] at hv ⊢
          rw [h.cached v hv, hmark.1]
          simp [lineColumn, afterMark]
        · rw [if_neg hmark] at hv ⊢
          obtain ⟨w, hw, rfl⟩ := Option.mem_map.1 hv
          rw [h.cached w hw]

theorem Tracked.stepUntil {skip : Bool} {goal : Nat} :
    ∀ {fuel : Nat} {c : Cursor}, c.Tracked X → (Cursor.stepUntil skip goal fuel c).Tracked X
  | 0, _, h => h
  | fuel + 1, c, h => by
    unfold Cursor.stepUntil
    split
    · exact Tracked.stepUntil (h.step skip)
    · exact h

theorem Tracked.markEnd (h : c.Tracked X) : c.markEnd.Tracked X := by
  refine ⟨h.valid.markEnd, h.boundary, h.tokenStart, ?_, h.cached⟩
  intro p hp
  rw [markEnd_tokenEnd, Option.mem_def, Option.some.injEq] at hp
  rw [← hp]
  exact h.landing

theorem Tracked.column (h : c.Tracked X) : c.column.2.Tracked X := by
  obtain ⟨-, hpos, -, hstart, hend⟩ := column_fields (c := c)
  have hvalue : c.column.1 = lineColumn (X.take c.position.bytes) := by
    cases hcache : c.cachedColumn with
    | none => exact h.valid.column_of_none hcache
    | some v =>
      rw [show c.column.1 = v by simp [Cursor.column, hcache]]
      exact h.cached v hcache
  have hkept : c.column.2.cachedColumn = some c.column.1 := by
    cases hcache : c.cachedColumn <;> simp [Cursor.column, hcache]
  refine ⟨h.valid.column, hpos ▸ h.boundary, hstart ▸ h.tokenStart, hend ▸ h.tokenEnd, ?_⟩
  intro v hv
  rw [hkept, Option.mem_def, Option.some.injEq] at hv
  rw [← hv, hvalue, hpos]

theorem reset_cachedColumn (p : Length) :
    (c.reset p).cachedColumn = if p.bytes ≠ c.position.bytes then none else c.cachedColumn := by
  unfold Cursor.reset
  split <;> rfl

theorem reset_tokenStart (p : Length) : (c.reset p).tokenStart = c.tokenStart := by
  unfold Cursor.reset
  split <;> rfl

theorem reset_tokenEnd (p : Length) : (c.reset p).tokenEnd = c.tokenEnd := by
  unfold Cursor.reset
  split <;> rfl

/-- A move keeps the column only where the byte offset stays, and there the text before
    the cursor is the same. -/
theorem Tracked.reset (h : c.Tracked X) {p : Length} (hp : Landing X p) : (c.reset p).Tracked X := by
  refine ⟨h.valid.reset hp.1, by rw [reset_position]; exact hp.2,
    by rw [reset_tokenStart]; exact h.tokenStart, by rw [reset_tokenEnd]; exact h.tokenEnd, ?_⟩
  rw [reset_cachedColumn, reset_position]
  split
  case isTrue => exact fun _ hv => by cases hv
  case isFalse hsame =>
    intro v hv
    rw [h.cached v hv, not_not.1 hsame]

theorem Tracked.start (h : c.Tracked X) : c.start.Tracked X := by
  have hbegun : Tracked X { c with
      tokenStart := c.position
      tokenEnd := none
      result := 0
      askedColumn := false } :=
    ⟨⟨h.valid.input, h.valid.position, h.valid.lookahead⟩, h.boundary, h.landing,
      (fun _ hp => by cases hp), h.cached⟩
  unfold Cursor.start
  dsimp only
  split
  · exact hbegun.step true
  · exact hbegun

theorem Tracked.perform (h : c.Tracked X) (op : Op) : (c.perform op).1.Tracked X := by
  cases op with
  | advance => exact h.step false
  | skip => exact h.step true
  | advanceBytes => exact h.stepUntil
  | skipBytes => exact h.stepUntil
  | markEnd => exact h.markEnd
  | column => exact h.column
  | noteExamined e => exact ⟨h.valid.noteExamined e, h.boundary, h.tokenStart, h.tokenEnd, h.cached⟩
  | setResult s => exact ⟨h.valid.setResult s, h.boundary, h.tokenStart, h.tokenEnd, h.cached⟩

/-! ### Every run -/

/-- The cursors a scan over `input` reaches: a new cursor, then any operation, a new
    token, or a move to where a reachable cursor was, or began or ended a token. -/
inductive Reachable (input : ByteArray) : Cursor → Prop
  | new : Reachable input (Cursor.new input)
  | perform {c : Cursor} (op : Op) : Reachable input c → Reachable input (c.perform op).1
  | start {c : Cursor} : Reachable input c → Reachable input c.start
  | reset {c d : Cursor} {p : Length} : Reachable input c → Reachable input d →
      (p = d.position ∨ p = d.tokenStart ∨ d.tokenEnd = some p) → Reachable input (c.reset p)

theorem Reachable.tracked {input : ByteArray} {c : Cursor} (h : c.Reachable input) :
    c.Tracked input.data.toList := by
  induction h with
  | new => exact tracked_new input
  | perform op _ ih => exact ih.perform op
  | start _ ih => exact ih.start
  | reset _ _ hp ihc ihd =>
    refine ihc.reset ?_
    rcases hp with rfl | rfl | hend
    · exact ihd.landing
    · exact ihd.tokenStart
    · exact ihd.tokenEnd _ hend

/-- Over every run of a cursor on a text, the extent of its position is that of the text
    before it, so the start of the line is never before the start of the text; counted
    afresh, the column is the number of characters and stray bytes on the line before the
    cursor, a starting byte order mark not counted; and a kept column is that count. -/
theorem Reachable.column_agrees {input : ByteArray} {c : Cursor} (h : c.Reachable input) :
    c.position.extent = (Length.of (input.data.toList.take c.position.bytes)).extent ∧
      c.position.extent.column ≤ c.position.bytes ∧
      ({ c with cachedColumn := none }.column).1 =
        lineColumn (input.data.toList.take c.position.bytes) ∧
      ∀ v ∈ c.cachedColumn, v = ({ c with cachedColumn := none }.column).1 := by
  have ht := h.tracked
  have hextent := congrArg Length.extent ht.valid.position.eq
  have hfresh : ({ c with cachedColumn := none }.column).1 =
      lineColumn (input.data.toList.take c.position.bytes) :=
    Valid.column_of_none ⟨ht.valid.input, ht.valid.position, ht.valid.lookahead⟩ rfl
  refine ⟨hextent, ?_, hfresh, fun v hv => by rw [ht.cached v hv, hfresh]⟩
  -- the column counts bytes of the text before the cursor
  have hle := ht.valid.position.le
  rw [hextent, Length.extent_of, Point.zero_advance]
  calc _ ≤ (input.data.toList.take c.position.bytes).reverse.length :=
        (List.takeWhile_prefix _).length_le
    _ ≤ c.position.bytes := by simp

/-- A text that starts with a byte order mark and holds `é`, a line feed and a stray byte:
    the cursor starts past the mark at byte 3, moves over `é` to byte 5, where the column is
    asked for, then over the line feed to byte 6 and over the stray byte to byte 7, the end
    of the text; the column it keeps there agrees with a count afresh. -/
theorem column_agrees_past_stray_byte :
    let input : ByteArray := ⟨#[0xEF, 0xBB, 0xBF, 0xC3, 0xA9, 0x0A, 0xFF]⟩
    let c := ((((((Cursor.new input).start.perform .advance).1.perform .column).1.perform
      .advance).1.perform .advance).1)
    c.position.extent = (Length.of (input.data.toList.take c.position.bytes)).extent ∧
      c.position.extent.column ≤ c.position.bytes ∧
      ({ c with cachedColumn := none }.column).1 =
        lineColumn (input.data.toList.take c.position.bytes) ∧
      ∀ v ∈ c.cachedColumn, v = ({ c with cachedColumn := none }.column).1 :=
  Reachable.column_agrees (.perform _ (.perform _ (.perform _ (.perform _ (.start .new)))))

/- The last move crosses the stray byte: the cursor ends at byte 7. -/
example :
    let c := (Cursor.new ⟨#[0xEF, 0xBB, 0xBF, 0xC3, 0xA9, 0x0A, 0xFF]⟩).start
    ((((c.perform .advance).1.perform .column).1.perform .advance).1.perform
      .advance).1.position.bytes = 7 := by
  decide +kernel

/- Past a starting mark and `é`, the cursor is five bytes into its row but in column 1. -/
example : ((Cursor.new ⟨#[0xEF, 0xBB, 0xBF, 0xC3, 0xA9, 0x0A]⟩).start.advance.column).1 = 1 := by
  decide +kernel

end Cursor

end IncrementalLR
