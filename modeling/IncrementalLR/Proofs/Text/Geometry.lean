import Mathlib.Data.List.Induction
import IncrementalLR.Text.Length

/-!
# Lengths of texts

A length read off a text adds up the way the text concatenates: the length of two texts read
one after the other is the sum of their lengths (`Length.of_append`).
-/

namespace IncrementalLR

namespace Point

@[simp] theorem zero_row : Point.zero.row = 0 := rfl

@[simp] theorem zero_column : Point.zero.column = 0 := rfl

@[simp] theorem add_zero (p : Point) : p.add Point.zero = p := by
  simp [add]

@[simp] theorem zero_add (p : Point) : Point.zero.add p = p := by
  unfold add
  split
  · simp
  · rename_i h
    cases p
    simp only [zero_row, zero_column, Nat.zero_add, Point.mk.injEq, and_true]
    simp at h
    omega

theorem add_assoc (p q r : Point) : (p.add q).add r = p.add (q.add r) := by
  unfold add
  by_cases hr : r.row > 0
  · have hqr : q.row + r.row > 0 := by omega
    by_cases hq : q.row > 0 <;> simp [hr, hq, hqr, Nat.add_assoc]
    omega
  · by_cases hq : q.row > 0 <;> simp [hr, hq, Nat.add_assoc]

/-- Subtracting what was added gives it back. -/
@[simp] theorem add_sub_cancel (p q : Point) : (p.add q).sub p = q := by
  unfold add sub
  by_cases hq : q.row > 0
  · simp only [hq, ↓reduceIte, gt_iff_lt, Nat.lt_add_right_iff_pos, Nat.add_sub_cancel_left]
  · cases q
    simp only [gt_iff_lt, Nat.not_lt, Nat.le_zero] at hq
    simp [hq]

theorem add_left_cancel {p q q' : Point} (h : p.add q = p.add q') : q = q' := by
  rw [← add_sub_cancel p q, h, add_sub_cancel]

/-- Stepping back over an added extent and reading it again lands where it was, even
    though stepping back over a line forgets the column. -/
@[simp] theorem retreat_add_cancel (p q : Point) :
    (if q.row > 0 then (⟨(p.add q).row - q.row, 0⟩ : Point)
      else ⟨(p.add q).row, (p.add q).column - q.column⟩).add q = p.add q := by
  unfold add
  by_cases hq : q.row > 0 <;> simp [hq]

@[simp] theorem advanceByte_newline (p : Point) : p.advanceByte 10 = ⟨p.row + 1, 0⟩ := rfl

theorem advanceByte_of_ne {p : Point} {b : UInt8} (h : b ≠ 10) :
    p.advanceByte b = ⟨p.row, p.column + 1⟩ := by
  simp [advanceByte, h]

/-- Reading bytes from `p` adds the extent they have from the start. -/
theorem advance_eq_add (p : Point) (bs : List UInt8) : p.advance bs = p.add (Point.zero.advance bs) := by
  induction bs generalizing p with
  | nil => simp
  | cons b bs ih =>
    rw [advance_cons, advance_cons, ih, ih (Point.zero.advanceByte b), ← add_assoc]
    congr 1
    by_cases hb : b = 10
    · subst hb
      simp [add]
    · rw [advanceByte_of_ne hb, advanceByte_of_ne hb]
      simp [add]

theorem zero_advance_append (as bs : List UInt8) :
    Point.zero.advance (as ++ bs) = (Point.zero.advance as).add (Point.zero.advance bs) := by
  rw [advance_append, advance_eq_add]

/-- Bytes without a line feed only move the column. -/
theorem zero_advance_of_not_mem {bs : List UInt8} (h : 10 ∉ bs) :
    Point.zero.advance bs = ⟨0, bs.length⟩ := by
  induction bs using List.reverseRecOn with
  | nil => rfl
  | append_singleton bs b ih =>
    have hb : b ≠ 10 := fun hb => h (by simp [hb])
    rw [advance_append, ih (fun hm => h (List.mem_append_left _ hm)), advance_cons, advance_nil,
      advanceByte_of_ne hb]
    simp

/-- The point of a text: its line feeds, and the bytes after the last one. -/
theorem zero_advance (bs : List UInt8) :
    Point.zero.advance bs = ⟨bs.count 10, (bs.reverse.takeWhile (· != 10)).length⟩ := by
  induction bs using List.reverseRecOn with
  | nil => rfl
  | append_singleton bs b ih =>
    rw [advance_append, ih, advance_cons, advance_nil]
    by_cases hb : b = 10
    · subst hb
      simp
    · rw [advanceByte_of_ne hb]
      simp [List.count_append, hb]

end Point

namespace Length

@[simp] theorem zero_bytes : Length.zero.bytes = 0 := rfl

@[simp] theorem zero_extent : Length.zero.extent = Point.zero := rfl

@[simp] theorem add_extent (a b : Length) : (a.add b).extent = a.extent.add b.extent := rfl

@[simp] theorem sub_bytes (a b : Length) : (a.sub b).bytes = a.bytes - b.bytes := rfl

@[simp] theorem sub_extent (a b : Length) : (a.sub b).extent = a.extent.sub b.extent := rfl

@[simp] theorem extent_of (text : List UInt8) : (of text).extent = Point.zero.advance text := rfl

@[simp] theorem add_zero (a : Length) : a.add Length.zero = a := by
  simp [add, zero]

@[simp] theorem zero_add (a : Length) : Length.zero.add a = a := by
  simp [add, zero]

theorem add_assoc (a b c : Length) : (a.add b).add c = a.add (b.add c) := by
  simp [add, Nat.add_assoc, Point.add_assoc]

@[simp] theorem add_sub_cancel (a b : Length) : (a.add b).sub a = b := by
  simp [add, sub]

theorem add_left_cancel {a b b' : Length} (h : a.add b = a.add b') : b = b' := by
  rw [← add_sub_cancel a b, h, add_sub_cancel]

/-- Stepping back over what was added and adding it again gives the same length. -/
@[simp] theorem retreat_add_cancel (a b : Length) : ((a.add b).retreat b).add b = a.add b := by
  simp only [retreat, add]
  congr 1
  · omega
  · exact Point.retreat_add_cancel a.extent b.extent

@[simp] theorem of_nil : of [] = Length.zero := rfl

/-- The length of two texts read one after the other. -/
theorem of_append (xs ys : List UInt8) : of (xs ++ ys) = (of xs).add (of ys) := by
  simp [of, add, Point.zero_advance_append]

/-- Stepping back over a length within one row gives back what it was added to. -/
theorem retreat_add_of_row_eq_zero (a b : Length) (h : b.extent.row = 0) :
    (a.add b).retreat b = a := by
  obtain ⟨bytes, row, column⟩ := a
  simp [retreat, add, Point.add, h]

/-- The text between two cuts of a text is what the longer prefix adds to the shorter. -/
theorem take_eq_take_append {X : List UInt8} {i j : Nat} (hij : i ≤ j) :
    X.take j = X.take i ++ (X.drop i).take (j - i) := by
  rw [← List.take_add, Nat.add_sub_cancel' hij]

/-- The difference of the lengths of two prefixes is the length of the text between them. -/
theorem of_take_sub (X : List UInt8) {i j : Nat} (hij : i ≤ j) :
    (of (X.take j)).sub (of (X.take i)) = of ((X.drop i).take (j - i)) := by
  rw [take_eq_take_append hij, of_append, add_sub_cancel]

theorem of_take_add_sub (X : List UInt8) {i j : Nat} (hij : i ≤ j) :
    (of (X.take i)).add ((of (X.take j)).sub (of (X.take i))) = of (X.take j) := by
  rw [of_take_sub X hij, ← of_append, ← take_eq_take_append hij]

/-- Lengths and points add up the way texts concatenate: reading two texts one after
    the other, adding is associative with zero on either side, the length between two
    prefixes is their difference, and stepping back over an added length gives back the
    same end, and the same start when the length stays on one row. -/
theorem arithmetic_matches_concatenation :
    (∀ a b : List UInt8, of (a ++ b) = (of a).add (of b)) ∧
    (∀ (p : Point) (a b : List UInt8), p.advance (a ++ b) = (p.advance a).advance b) ∧
    (∀ a b c : Length, (a.add b).add c = a.add (b.add c)) ∧
    (∀ p q r : Point, (p.add q).add r = p.add (q.add r)) ∧
    (∀ a : Length, a.add zero = a ∧ zero.add a = a) ∧
    (∀ p : Point, p.add Point.zero = p ∧ Point.zero.add p = p) ∧
    (∀ (X : List UInt8) (i j : Nat), i ≤ j →
      (of (X.take j)).sub (of (X.take i)) = of ((X.drop i).take (j - i)) ∧
        (of (X.take i)).add ((of (X.take j)).sub (of (X.take i))) = of (X.take j)) ∧
    (∀ s d : Length, ((s.add d).retreat d).add d = s.add d) ∧
    (∀ s d : Length, d.extent.row = 0 → (s.add d).retreat d = s) :=
  ⟨of_append, Point.advance_append, add_assoc, Point.add_assoc,
    fun a => ⟨add_zero a, zero_add a⟩, fun p => ⟨Point.add_zero p, Point.zero_add p⟩,
    fun X _ _ hij => ⟨of_take_sub X hij, of_take_add_sub X hij⟩, retreat_add_cancel,
    retreat_add_of_row_eq_zero⟩

/-! ### Lengths of pieces of a text -/

/-- `l` is the length of the `l.bytes` bytes of `X` from byte `a` on. -/
def Covers (X : List UInt8) (a : Nat) (l : Length) : Prop :=
  a + l.bytes ≤ X.length ∧ l = of ((X.drop a).take l.bytes)

/-- `l` is the position after the first `l.bytes` bytes of `X`. -/
def At (X : List UInt8) (l : Length) : Prop := Covers X 0 l

variable {X : List UInt8} {a : Nat} {l m : Length}

theorem covers_zero (h : a ≤ X.length) : Covers X a Length.zero :=
  ⟨by simpa using h, by simp⟩

theorem Covers.le (h : Covers X a l) : a + l.bytes ≤ X.length := h.1

theorem at_of_take (b : Nat) (h : b ≤ X.length) : At X (of (X.take b)) := by
  refine ⟨by simp [h], ?_⟩
  simp [Nat.min_eq_left h]

theorem At.eq (h : At X l) : l = of (X.take l.bytes) := by
  simpa using h.2

/-- The length of a whole text is its end. -/
theorem at_of (X : List UInt8) : At X (of X) := by
  simpa using at_of_take X.length (Nat.le_refl _)

/-- Texts at adjacent places cover the text they make together. -/
theorem Covers.add (hl : Covers X a l) (hm : Covers X (a + l.bytes) m) : Covers X a (l.add m) := by
  refine ⟨by simpa [Nat.add_assoc] using hm.1, ?_⟩
  have hdrop : ((X.drop a).drop l.bytes).take m.bytes = (X.drop (a + l.bytes)).take m.bytes := by
    rw [List.drop_drop]
  rw [bytes_add, List.take_add, of_append, hdrop, ← hl.2, ← hm.2]

/-- What is left of a covering length after the length of its beginning covers the rest. -/
theorem Covers.of_add (hl : Covers X a l) (h : Covers X a (l.add m)) : Covers X (a + l.bytes) m := by
  refine ⟨by simpa [Nat.add_assoc] using h.1, ?_⟩
  have htext := h.2
  rw [bytes_add, List.take_add, of_append, ← hl.2, List.drop_drop] at htext
  exact add_left_cancel htext

theorem At.add (hp : At X l) (hm : Covers X l.bytes m) : At X (l.add m) :=
  Covers.add hp (by simpa using hm)

/-- Between two positions lies the text their difference covers. -/
theorem At.sub (hp : At X l) (hq : At X m) (hle : l.bytes ≤ m.bytes) : Covers X l.bytes (m.sub l) := by
  have hlen : m = l.add (m.sub l) := by
    have htake : X.take m.bytes = X.take l.bytes ++ (X.drop l.bytes).take (m.bytes - l.bytes) := by
      rw [← List.take_add, Nat.add_sub_cancel' hle]
    rw [hq.eq, hp.eq, htake, of_append, ← hp.eq, add_sub_cancel]
  have hcov : Covers X 0 (l.add (m.sub l)) := by
    rw [← hlen]
    exact hq
  simpa using Covers.of_add hp hcov

@[simp] theorem bytes_saturatingSub (l m : Length) : (l.saturatingSub m).bytes = l.bytes - m.bytes := by
  unfold saturatingSub
  split
  · rfl
  · simp only [zero_bytes]
    omega

theorem saturatingSub_of_le (h : l.bytes ≤ m.bytes) : l.saturatingSub m = Length.zero := by
  unfold saturatingSub
  rw [if_neg (Nat.not_lt.2 h)]

section Shifted

variable {Y : List UInt8} {b : Nat}

/-- Covering from byte `a + b` of a text is covering from byte `b` of what follows its
    first `a` bytes, when the text has them. -/
theorem covers_drop_iff (ha : a ≤ X.length) : Covers X (a + b) l ↔ Covers (X.drop a) b l := by
  unfold Covers
  rw [List.length_drop, List.drop_drop]
  constructor
  · rintro ⟨hle, heq⟩
    exact ⟨by omega, heq⟩
  · rintro ⟨hle, heq⟩
    exact ⟨by omega, heq⟩

/-- Between two lengths that cover a text from the same byte lies the text their
    difference covers. -/
theorem Covers.sub (hl : Covers X a l) (hm : Covers X a m) (hle : l.bytes ≤ m.bytes) :
    Covers X (a + l.bytes) (m.sub l) := by
  have ha : a ≤ X.length := Nat.le_trans (Nat.le_add_right a _) hl.le
  have hl' : At (X.drop a) l := (covers_drop_iff ha).1 (by simpa using hl)
  have hm' : At (X.drop a) m := (covers_drop_iff ha).1 (by simpa using hm)
  exact (covers_drop_iff ha).2 (hl'.sub hm' hle)

/-- A length that covers a text is determined by its bytes. -/
theorem Covers.eq (hl : Covers X a l) (hm : Covers X a m) (h : l.bytes = m.bytes) : l = m := by
  rw [hl.2, hm.2, h]

theorem Covers.eq_zero (hl : Covers X a l) (h : l.bytes = 0) : l = Length.zero :=
  hl.eq (covers_zero (Nat.le_trans (Nat.le_add_right a _) hl.le)) h

/-- The saturating difference of two lengths covering a text from one byte covers the
    text after the shorter, which is empty when `m` is not the longer. -/
theorem Covers.saturatingSub (hl : Covers X a l) (hm : Covers X a m) :
    Covers X (a + l.bytes) (m.saturatingSub l) := by
  by_cases hle : l.bytes < m.bytes
  · rw [Length.saturatingSub, if_pos hle]
    exact hl.sub hm (Nat.le_of_lt hle)
  · rw [saturatingSub_of_le (Nat.not_lt.1 hle)]
    exact covers_zero hl.le

/-- The `k` bytes of `X` from byte `a` are those of `Y` from byte `b`, which has them. -/
def Agree (X : List UInt8) (a : Nat) (Y : List UInt8) (b k : Nat) : Prop :=
  b + k ≤ Y.length ∧ (X.drop a).take k = (Y.drop b).take k

theorem Agree.take {j k : Nat} (h : Agree X a Y b k) (hj : j ≤ k) : Agree X a Y b j := by
  refine ⟨Nat.le_trans (Nat.add_le_add_left hj b) h.1, ?_⟩
  have htake := congrArg (List.take j) h.2
  simpa only [List.take_take, Nat.min_eq_left hj] using htake

theorem Agree.drop {j k : Nat} (h : Agree X a Y b (j + k)) : Agree X (a + j) Y (b + j) k := by
  refine ⟨by have := h.1; omega, ?_⟩
  have hdrop := congrArg (List.drop j) h.2
  simpa only [List.drop_take, List.drop_drop, Nat.add_sub_cancel_left] using hdrop

/-- Texts with the same rest after `a` and `b` agree there. -/
theorem agree_of_drop_eq {k : Nat} (h : X.drop a = Y.drop b) (hb : b ≤ Y.length)
    (hk : a + k ≤ X.length) : Agree X a Y b k := by
  have hlen := congrArg List.length h
  simp only [List.length_drop] at hlen
  exact ⟨by omega, by rw [h]⟩

/-- Texts with the same first `c` bytes agree on every piece of them. -/
theorem agree_of_take_eq {c k : Nat} (h : X.take c = Y.take c) (hc : c ≤ Y.length)
    (hk : a + k ≤ c) : Agree X a Y a k := by
  refine ⟨by omega, ?_⟩
  have hpiece : ∀ Z : List UInt8, (Z.drop a).take k = ((Z.take c).drop a).take k := by
    intro Z
    rw [List.drop_take, List.take_take, Nat.min_eq_left (by omega)]
  rw [hpiece X, hpiece Y, h]

/-- A length covers the same bytes wherever they stand. -/
theorem Covers.transfer (hl : Covers X a l) (h : Agree X a Y b l.bytes) : Covers Y b l :=
  ⟨h.1, by rw [← h.2]; exact hl.2⟩

end Shifted

end Length

end IncrementalLR
