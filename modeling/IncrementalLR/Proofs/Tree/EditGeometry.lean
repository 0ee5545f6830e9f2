import IncrementalLR.Proofs.Tree.Spans
import IncrementalLR.Parse.Parser

/-!
# Edits keep trees over their text

An edit replaces bytes `s` to `o` of a text `X` by new text that ends at byte `n`, giving
`Y` (`Splice`).
-/

namespace IncrementalLR

/-! ### The edited text -/

/-- `Y` is `X` with bytes `s` to `o` replaced by new text that ends at byte `n` of `Y`. -/
structure Splice (X Y : List UInt8) (s o n : Nat) : Prop where
  start_le : s ≤ o
  le_length : o ≤ X.length
  text : ∃ r : List UInt8, Y = X.take s ++ r ++ X.drop o ∧ n = s + r.length

namespace Splice

variable {X Y : List UInt8} {s o n a k : Nat}

theorem take_eq (h : Splice X Y s o n) : Y.take s = X.take s := by
  obtain ⟨r, rfl, -⟩ := h.text
  have hs : (X.take s).length = s := List.length_take_of_le (Nat.le_trans h.start_le h.le_length)
  rw [List.append_assoc, List.take_left' hs]

theorem drop_eq (h : Splice X Y s o n) : Y.drop n = X.drop o := by
  obtain ⟨r, rfl, rfl⟩ := h.text
  have hs : (X.take s ++ r).length = s + r.length := by
    rw [List.length_append, List.length_take_of_le (Nat.le_trans h.start_le h.le_length)]
  rw [List.drop_left' hs]

theorem length_eq (h : Splice X Y s o n) : Y.length = n + (X.length - o) := by
  obtain ⟨r, rfl, rfl⟩ := h.text
  have hs := Nat.le_trans h.start_le h.le_length
  simp only [List.length_append, List.length_take_of_le hs, List.length_drop]

theorem start_le_new (h : Splice X Y s o n) : s ≤ n := by
  obtain ⟨r, -, rfl⟩ := h.text
  exact Nat.le_add_right s _

/-- Before the replaced bytes the texts agree. -/
theorem agree_before (h : Splice X Y s o n) (hk : a + k ≤ s) : Length.Agree X a Y a k := by
  have hlen := h.length_eq
  have hn := h.start_le_new
  exact Length.agree_of_take_eq h.take_eq.symm (by omega) hk

/-- After the replaced bytes the texts agree, moved by the difference in length. -/
theorem agree_after (h : Splice X Y s o n) (ha : o ≤ a) (hk : a + k ≤ X.length) :
    Length.Agree X a Y (n + (a - o)) k := by
  have hdrop : X.drop a = Y.drop (n + (a - o)) := by
    rw [← List.drop_drop, h.drop_eq, List.drop_drop, Nat.add_sub_cancel' ha]
  have hlen := h.length_eq
  exact Length.agree_of_drop_eq hdrop (by omega) hk

end Splice

theorem Splice.eq_of_empty {X Y : List UInt8} {s : Nat} (h : Splice X Y s s s) : Y = X := by
  obtain ⟨r, rfl, hn⟩ := h.text
  have hr : r = [] := List.eq_nil_of_length_eq_zero (by omega)
  rw [hr, List.append_nil, List.take_append_drop]

theorem splice_self {X : List UInt8} {s : Nat} (hs : s ≤ X.length) : Splice X X s s s :=
  ⟨Nat.le_refl s, hs, [], by simp, by simp⟩

/-- Cutting from byte `x` to the later of `x` and `o`. -/
theorem splice_cut {X : List UInt8} {x o : Nat} (hx : x ≤ X.length) (ho : o ≤ X.length) :
    Splice X (X.take x ++ X.drop (x + (o - x))) x (x + (o - x)) x :=
  ⟨Nat.le_add_right x _, by omega, [], by simp, by simp⟩

/-- Where an offset of the old text that ends a piece of text lands in the new one.
    Offsets before the replaced bytes stay; the others move with the text after them,
    and an end at an insertion takes the inserted text in. -/
def movedEnd (s o n x : Nat) : Nat := if x < s ∨ (x = s ∧ s < o) then x else n + (x - o)

theorem movedEnd_of_before {s o n x : Nat} (h : x < s ∨ (x = s ∧ s < o)) : movedEnd s o n x = x :=
  if_pos h

theorem movedEnd_of_after {s o n x : Nat} (h : s < x ∨ (x = s ∧ s = o)) :
    movedEnd s o n x = n + (x - o) :=
  if_neg (by omega)

theorem movedEnd_self (s x : Nat) : movedEnd s s s x = x := by
  unfold movedEnd
  split <;> omega

/-! ### One node -/

/-- The edit as seen from byte `a` of the old text, at or before its start: it removes
    bytes `s` to `o`. -/
structure LocalEdit.Removes (e : LocalEdit) (X : List UInt8) (s o a : Nat) : Prop where
  le_start : a ≤ s
  start : Length.Covers X a e.start
  start_bytes : e.start.bytes = s - a
  oldEnd : Length.Covers X a e.oldEnd
  oldEnd_bytes : e.oldEnd.bytes = o - a

/-- The edit as seen from byte `a`: it replaces bytes `s` to `o` of `X` by the text of
    `Y` up to byte `n`. -/
structure LocalEdit.Replaces (e : LocalEdit) (X Y : List UInt8) (s o n a : Nat) : Prop
    extends e.Removes X s o a where
  newEnd : Length.Covers Y a e.newEnd
  newEnd_bytes : e.newEnd.bytes = n - a

/-- The padding and size `Subtree.editLocal` gives a node the edit reaches, by where the
    edit falls: the removed text ends in the padding, or starts in it, or starts in the
    node's text or at its end, or lies past it. -/
inductive Resized (e : LocalEdit) (p S : Length) : Length → Length → Prop
  | inPadding : e.oldEnd.bytes ≤ p.bytes → Resized e p S (e.newEnd.add (p.sub e.oldEnd)) S
  | overPadding : p.bytes < e.oldEnd.bytes → e.start.bytes < p.bytes →
      Resized e p S e.newEnd (S.saturatingSub (e.oldEnd.sub p))
  | inSize : p.bytes < e.oldEnd.bytes → p.bytes ≤ e.start.bytes →
      (e.start.bytes < p.bytes + S.bytes ∨
        (e.start.bytes = p.bytes + S.bytes ∧ e.oldEnd.bytes = e.start.bytes)) →
      Resized e p S p ((e.newEnd.sub p).add (S.saturatingSub (e.oldEnd.sub p)))
  | past : p.bytes < e.oldEnd.bytes → p.bytes ≤ e.start.bytes →
      ¬(e.start.bytes < p.bytes + S.bytes ∨
        (e.start.bytes = p.bytes + S.bytes ∧ e.oldEnd.bytes = e.start.bytes)) →
      Resized e p S p S

section Geometry

variable {X Y : List UInt8} {s o n a : Nat} {e : LocalEdit} {p S p' S' : Length}

/-- What follows the removed text, cut at the end of the padding, stands in the new text
    right after the new text. -/
theorem Resized.rest_covers (hspl : Splice X Y s o n) (he : e.Replaces X Y s o n a)
    (hp : Length.Covers X a p) (hS : Length.Covers X (a + p.bytes) S) (hpo : p.bytes < e.oldEnd.bytes) :
    Length.Covers Y n (S.saturatingSub (e.oldEnd.sub p)) := by
  have hcut : Length.Covers X (a + p.bytes) (e.oldEnd.sub p) := hp.sub he.oldEnd (Nat.le_of_lt hpo)
  have hrest := hcut.saturatingSub hS
  have hob := he.oldEnd_bytes
  have hle := he.le_start
  have hso := hspl.start_le
  rw [Length.sub_bytes, show a + p.bytes + (e.oldEnd.bytes - p.bytes) = o by omega] at hrest
  have htr := hrest.transfer (hspl.agree_after (Nat.le_refl o) hrest.le)
  rwa [Nat.sub_self, Nat.add_zero] at htr

/-- The new padding and size cover the new text, and end where the old ones moved to. -/
theorem Resized.geometry (hres : Resized e p S p' S') (hspl : Splice X Y s o n)
    (he : e.Replaces X Y s o n a) (hp : Length.Covers X a p) (hS : Length.Covers X (a + p.bytes) S) :
    Length.Covers Y a p' ∧ Length.Covers Y (a + p'.bytes) S' ∧
      a + p'.bytes = movedEnd s o n (a + p.bytes) ∧
      a + p'.bytes + S'.bytes = movedEnd s o n (a + p.bytes + S.bytes) := by
  have hsb := he.start_bytes
  have hob := he.oldEnd_bytes
  have hnb := he.newEnd_bytes
  have hle := he.le_start
  have hso := hspl.start_le
  have hsn := hspl.start_le_new
  have hSle := hS.le
  cases hres with
  | inPadding hin =>
    -- the removed text ends in the padding: the rest of the padding and the node's text move
    have hcut : Length.Covers X (a + e.oldEnd.bytes) (p.sub e.oldEnd) := he.oldEnd.sub hp hin
    rw [show a + e.oldEnd.bytes = o by omega] at hcut
    have hmoved := hcut.transfer (hspl.agree_after (Nat.le_refl o) hcut.le)
    rw [Nat.sub_self, Nat.add_zero, show n = a + e.newEnd.bytes by omega] at hmoved
    have hsize := hS.transfer (hspl.agree_after (by omega) hSle)
    refine ⟨he.newEnd.add hmoved, ?_, ?_, ?_⟩
    · convert hsize using 1
      simp only [Length.bytes_add, Length.sub_bytes]
      omega
    · rw [movedEnd_of_after (by omega)]
      simp only [Length.bytes_add, Length.sub_bytes]
      omega
    · rw [movedEnd_of_after (by omega)]
      simp only [Length.bytes_add, Length.sub_bytes]
      omega
  | overPadding hpo hsp =>
    -- the removed text starts in the padding and ends past it
    have hrest := Resized.rest_covers hspl he hp hS hpo
    refine ⟨he.newEnd, by rwa [hnb, Nat.add_sub_cancel' (by omega)], ?_, ?_⟩
    · rw [movedEnd_of_after (by omega)]
      omega
    · rw [movedEnd_of_after (by omega), Length.bytes_saturatingSub, Length.sub_bytes]
      omega
  | inSize hpo hps hin =>
    -- the padding stays; the node's text takes the new text in place of the removed
    have hpY : Length.Covers Y a p := hp.transfer (hspl.agree_before (by omega))
    have hnew : Length.Covers Y (a + p.bytes) (e.newEnd.sub p) := hpY.sub he.newEnd (by omega)
    have hrest := Resized.rest_covers hspl he hp hS hpo
    refine ⟨hpY, hnew.add ?_, (movedEnd_of_before (by omega)).symm, ?_⟩
    · convert hrest using 1
      simp only [Length.sub_bytes]
      omega
    · rw [movedEnd_of_after (by omega), Length.bytes_add, Length.bytes_saturatingSub,
        Length.sub_bytes, Length.sub_bytes]
      omega
  | past hpo hps hpast =>
    -- the node's text lies before the removed text
    refine ⟨hp.transfer (hspl.agree_before (by omega)), hS.transfer (hspl.agree_before (by omega)),
      (movedEnd_of_before (by omega)).symm, (movedEnd_of_before (by omega)).symm⟩

end Geometry

/-! ### Edits passed on to children -/

section Parts

variable {X Y : List UInt8} {s o n a x : Nat} {e : LocalEdit}

/-- An empty edit changes no text. -/
theorem LocalEdit.Replaces.eq_of_empty (he : e.Replaces X Y s o n a) (hspl : Splice X Y s o n)
    (hoe : e.oldEnd.bytes = e.start.bytes) (hne : e.start.bytes = e.newEnd.bytes) :
    Y = X ∧ o = s ∧ n = s := by
  have hsb := he.start_bytes
  have hob := he.oldEnd_bytes
  have hnb := he.newEnd_bytes
  have hle := he.le_start
  have hso := hspl.start_le
  have hsn := hspl.start_le_new
  have hos : o = s := by omega
  have hns : n = s := by omega
  subst hos hns
  exact ⟨Splice.eq_of_empty hspl, rfl, rfl⟩

/-- The edit passed on is an insertion exactly when it removes nothing. -/
theorem LocalEdit.Removes.isInsertion (h : e.Removes X s o a) (hso : s ≤ o) :
    (e.oldEnd.bytes == e.start.bytes) = true ↔ o = s := by
  have hob := h.oldEnd_bytes
  have hsb := h.start_bytes
  have hle := h.le_start
  rw [beq_iff_eq]
  omega

theorem LocalEdit.Removes.withNewEnd (h : e.Removes X s o a) (m : Length) :
    LocalEdit.Removes { e with newEnd := m } X s o a :=
  ⟨h.le_start, h.start, h.start_bytes, h.oldEnd, h.oldEnd_bytes⟩

/-- The edit passed on to a child from byte `x`, which the removed text starts at or
    after. -/
theorem LocalEdit.Replaces.part {cl : Length} (he : e.Replaces X Y s o n a) (hspl : Splice X Y s o n)
    (hcl : Length.Covers X a cl) (hx : a + cl.bytes = x) (hxs : x ≤ s) :
    LocalEdit.Replaces ⟨e.start.saturatingSub cl, e.oldEnd.saturatingSub cl,
      e.newEnd.saturatingSub cl⟩ X Y s o n x := by
  have hsb := he.start_bytes
  have hob := he.oldEnd_bytes
  have hnb := he.newEnd_bytes
  have hso := hspl.start_le
  have hsn := hspl.start_le_new
  have hclY : Length.Covers Y a cl := hcl.transfer (hspl.agree_before (by omega))
  refine ⟨⟨hxs, ?_, ?_, ?_, ?_⟩, ?_, ?_⟩
  · exact hx ▸ hcl.saturatingSub he.start
  · simp only [Length.bytes_saturatingSub]
    omega
  · exact hx ▸ hcl.saturatingSub he.oldEnd
  · simp only [Length.bytes_saturatingSub]
    omega
  · exact hx ▸ hclY.saturatingSub he.newEnd
  · simp only [Length.bytes_saturatingSub]
    omega

/-- The empty edit at the removed text's start, passed on to a child that ends at or
    before it. -/
theorem LocalEdit.Removes.noop {cl : Length} (hrm : e.Removes X s o a) (hcl : Length.Covers X a cl) (hx : a + cl.bytes = x) (hxs : x ≤ s) :
    LocalEdit.Replaces ⟨e.start.saturatingSub cl, e.start.saturatingSub cl,
      e.start.saturatingSub cl⟩ X X s s s x := by
  have hsb := hrm.start_bytes
  have hstart : Length.Covers X x (e.start.saturatingSub cl) := hx ▸ hcl.saturatingSub hrm.start
  have hbytes : (e.start.saturatingSub cl).bytes = s - x := by
    simp only [Length.bytes_saturatingSub]
    omega
  exact ⟨⟨hxs, hstart, hbytes, hstart, hbytes⟩, hstart, hbytes⟩

/-- The removal passed on to a child from byte `x`, at or after the removed text's
    start, once the new text is placed: it cuts the child's text up to byte `o`. -/
theorem LocalEdit.Removes.cut {cl : Length} (hrm : e.Removes X s o a) (hne : e.newEnd = e.start)
    (hcl : Length.Covers X a cl) (hx : a + cl.bytes = x) (hsx : s ≤ x) (hxX : x ≤ X.length) :
    LocalEdit.Replaces ⟨e.start.saturatingSub cl, e.oldEnd.saturatingSub cl,
      e.newEnd.saturatingSub cl⟩ X (X.take x ++ X.drop (x + (o - x))) x (x + (o - x)) x x := by
  have hsb := hrm.start_bytes
  have hob := hrm.oldEnd_bytes
  have hzero : e.start.saturatingSub cl = Length.zero := Length.saturatingSub_of_le (by omega)
  have hZ : x ≤ (X.take x ++ X.drop (x + (o - x))).length := by
    simp only [List.length_append, List.length_take_of_le hxX]
    omega
  refine ⟨⟨Nat.le_refl x, ?_, ?_, ?_, ?_⟩, ?_, ?_⟩
  · rw [hzero]
    exact Length.covers_zero hxX
  · rw [hzero, Length.zero_bytes, Nat.sub_self]
  · exact hx ▸ hcl.saturatingSub hrm.oldEnd
  · simp only [Length.bytes_saturatingSub]
    omega
  · rw [hne, hzero]
    exact Length.covers_zero hZ
  · rw [hne, hzero, Length.zero_bytes, Nat.sub_self]

end Parts

namespace Subtree

/-- The edit starts past the text the node examined, or is empty and starts right at its
    end: `editLocal` then leaves the node as it is. -/
def Skips (e : LocalEdit) (i : NodeInfo) : Prop :=
  i.padding.bytes + i.size.bytes + i.lookaheadBytes < e.start.bytes ∨
    (e.oldEnd.bytes = e.start.bytes ∧ e.start.bytes = e.newEnd.bytes ∧
      e.start.bytes = i.padding.bytes + i.size.bytes + i.lookaheadBytes)

theorem editLocal_of_skips {e : LocalEdit} {i : NodeInfo} {cs : List Subtree} {next : Nat}
    (h : Skips e i) : (mk i cs).editLocal e next = (mk i cs, next) := by
  unfold editLocal
  rw [if_pos]
  simpa [Skips, Length.bytes_add, and_assoc] using h

/-- A node the edit reaches is rebuilt with a new identity, the padding and size of
    `Resized`, and its children edited from the start of its padding. -/
theorem editLocal_of_not_skips {e : LocalEdit} {i : NodeInfo} (cs : List Subtree) (next : Nat)
    (h : ¬Skips e i) : ∃ p' S', Resized e i.padding i.size p' S' ∧
      (mk i cs).editLocal e next =
        (mk { i with padding := p', size := S', hasChanges := true, id := next }
          (editChildren i.dependsOnColumn p' (e.oldEnd.bytes == e.start.bytes) cs e Length.zero 0
            (next + 1)).1,
          (editChildren i.dependsOnColumn p' (e.oldEnd.bytes == e.start.bytes) cs e Length.zero 0
            (next + 1)).2) := by
  unfold editLocal
  rw [if_neg (by simpa [Skips, Length.bytes_add, and_assoc] using h)]
  split_ifs with h₁ h₂ h₃
  · exact ⟨_, _, .inPadding h₁, rfl⟩
  · exact ⟨_, _, .overPadding (Nat.lt_of_not_le h₁) h₂, rfl⟩
  · simp only [Bool.or_eq_true, Bool.and_eq_true, beq_iff_eq, Length.bytes_add] at h₃
    exact ⟨_, _, .inSize (Nat.lt_of_not_le h₁) (Nat.le_of_not_lt h₂)
      (h₃.imp_left of_decide_eq_true), rfl⟩
  · simp only [Bool.or_eq_true, Bool.and_eq_true, beq_iff_eq, Length.bytes_add] at h₃
    exact ⟨_, _, .past (Nat.lt_of_not_le h₁) (Nat.le_of_not_lt h₂)
      (fun h => h₃ (h.imp_left decide_eq_true)), rfl⟩

/-! ### Edited subtrees and lists of children -/

/-- What the edit makes of subtree `t` from byte `a` of the old text: a subtree `t'` that
    spans the new text from byte `b`, with its padding and its text ending where those of
    `t` moved to. -/
structure Edited (Y : List UInt8) (s o n : Nat) (t : Subtree) (a : Nat) (t' : Subtree) (b : Nat) :
    Prop where
  spans : Spans Y b t'
  padding_end : b + t'.padding.bytes = movedEnd s o n (a + t.padding.bytes)
  total_end : b + t'.totalBytes = movedEnd s o n (a + t.totalBytes)

/-- The same for a list of children from byte `x` after `index` others: the edited list
    spans the new text from `y` and ends where the old one moved to (an empty list at the
    start of a node moves nothing), and its first child's padding ends where the old
    first child's moved to. -/
structure EditedList (Y : List UInt8) (s o n : Nat) (cs : List Subtree) (x : Nat)
    (cs' : List Subtree) (y index : Nat) : Prop where
  spans : SpansList Y y cs'
  total_end : cs ≠ [] ∨ 0 < index → y + (totalOf cs').bytes = movedEnd s o n (x + (totalOf cs).bytes)
  head : ∀ c ∈ cs.head?, ∃ c' ∈ cs'.head?, y + c'.padding.bytes = movedEnd s o n (x + c.padding.bytes)

/-- Where `editChildren` stands in a list of children from byte `x`, which the edited list
    places at byte `y`: either no child has taken the new text yet, and the children so far
    end before the removed text or at its start, or one has, and the edit passed on is
    only a removal. -/
inductive EditPhase (X Y : List UInt8) (s o n a : Nat) : LocalEdit → Nat → Nat → Nat → Prop
  | pending {e : LocalEdit} {x index : Nat} : e.Replaces X Y s o n a → x ≤ s →
      (0 < index → x < s ∨ (x = s ∧ s < o)) → EditPhase X Y s o n a e x x index
  | taken {e : LocalEdit} {x index : Nat} : e.Removes X s o a → e.newEnd = e.start →
      (s < x ∨ (x = s ∧ s = o)) → EditPhase X Y s o n a e x (movedEnd s o n x) index

section Step

variable {X Y : List UInt8} {s o n a x y index : Nat} {e : LocalEdit} {c : Subtree}
  {rest : List Subtree}

theorem EditPhase.removes (h : EditPhase X Y s o n a e x y index) : e.Removes X s o a := by
  cases h with
  | pending he => exact he.toRemoves
  | taken hrm => exact hrm

/-- A subtree before the removed text stays where it is. -/
theorem Edited.of_before (hspl : Splice X Y s o n) (hc : Spans X x c)
    (h : x + c.totalBytes < s ∨ (x + c.totalBytes = s ∧ s < o)) : Edited Y s o n c x c x := by
  have hT : c.padding.bytes ≤ c.totalBytes := Nat.le_add_right _ _
  refine ⟨hc.transfer (hspl.agree_before (by omega)), (movedEnd_of_before (by omega)).symm,
    (movedEnd_of_before h).symm⟩

/-- A node the edit skips stays as it is. -/
theorem Edited.of_skips {i : NodeInfo} {cs : List Subtree} (hspl : Splice X Y s o n)
    (he : e.Replaces X Y s o n a) (ht : Spans X a (Subtree.mk i cs)) (hskip : Skips e i) :
    Edited Y s o n (Subtree.mk i cs) a (Subtree.mk i cs) a := by
  have hsb := he.start_bytes
  have hle := he.le_start
  rcases hskip with hpast | ⟨hoe, hne, -⟩
  · -- the edit starts past the examined text, so past the node's text
    exact Edited.of_before hspl ht (Or.inl (by simp only [totalBytes, padding, size, info_mk]; omega))
  · -- an empty edit changes no text
    obtain ⟨rfl, rfl, rfl⟩ := he.eq_of_empty hspl hoe hne
    refine ⟨ht, ?_, ?_⟩ <;> rw [movedEnd_self]

theorem EditedList.nil (hspl : Splice X Y s o n) (hx : x ≤ X.length)
    (hph : EditPhase X Y s o n a e x y index) : EditedList Y s o n [] x [] y index := by
  have hlen := hspl.length_eq
  have hso := hspl.start_le
  have hsn := hspl.start_le_new
  cases hph with
  | pending _ hxs hidx =>
    refine ⟨.nil (by omega), fun h => ?_, by simp⟩
    have hidx' : 0 < index := by simpa using h
    simp only [totalOf_nil, Length.zero_bytes, Nat.add_zero]
    exact (movedEnd_of_before (hidx hidx')).symm
  | taken _ _ hx' =>
    refine ⟨.nil ?_, fun _ => rfl, by simp⟩
    rw [movedEnd_of_after hx']
    omega

theorem EditedList.cons {c' : Subtree} {rest' : List Subtree} (hc : Edited Y s o n c x c' y)
    (hrest : EditedList Y s o n rest (x + c.totalBytes) rest' (y + c'.totalBytes) (index + 1)) :
    EditedList Y s o n (c :: rest) x (c' :: rest') y index := by
  refine ⟨.cons hc.spans hrest.spans, fun _ => ?_, ?_⟩
  · have htot := hrest.total_end (.inr (Nat.succ_pos index))
    simp only [totalOf_cons, Length.bytes_add, totalSize_bytes, ← Nat.add_assoc]
    exact htot
  · intro d hd
    rw [List.head?_cons, Option.mem_some_iff] at hd
    subst hd
    exact ⟨c', rfl, hc.padding_end⟩

/-- A child is left with the rest only past the removed text, once the new text is
    placed. -/
theorem EditPhase.past (hspl : Splice X Y s o n) (hph : EditPhase X Y s o n a e x y index)
    (hpast : o < x ∨ (x = o ∧ 0 < c.totalBytes ∧ 0 < index)) :
    o ≤ x ∧ o < x + c.totalBytes ∧ y = n + (x - o) := by
  have hso := hspl.start_le
  cases hph with
  | pending _ hxs hidx =>
    rcases hpast with hox | ⟨hxo, -, hi⟩
    · omega
    · have := hidx hi
      omega
  | taken _ _ hx => exact ⟨by omega, by omega, movedEnd_of_after hx⟩

/-- Children at or past the end of the removed text, once the new text is placed, move
    unchanged. -/
theorem EditedList.of_past (hspl : Splice X Y s o n) (hcs : SpansList X x (c :: rest))
    (hph : EditPhase X Y s o n a e x y index)
    (hpast : o < x ∨ (x = o ∧ 0 < c.totalBytes ∧ 0 < index)) :
    EditedList Y s o n (c :: rest) x (c :: rest) y index := by
  have hso := hspl.start_le
  have hlen := hspl.length_eq
  obtain ⟨hxo, -, rfl⟩ := hph.past hspl hpast
  have htot := hcs.covers.le
  refine ⟨hcs.transfer (hspl.agree_after hxo htot), fun _ => ?_, ?_⟩
  · rw [movedEnd_of_after (by omega)]
    omega
  · intro d hd
    rw [List.head?_cons, Option.mem_some_iff] at hd
    subst hd
    refine ⟨c, rfl, ?_⟩
    rw [movedEnd_of_after (by omega)]
    omega

theorem EditPhase.skip {k : Nat} (hph : EditPhase X Y s o n a e x y index) (h : x + k < s) :
    y = x ∧ EditPhase X Y s o n a e (x + k) (x + k) (index + 1) := by
  cases hph with
  | pending he _ _ => exact ⟨rfl, .pending he (by omega) fun _ => .inl h⟩
  | taken _ _ hx => omega

theorem movedEnd_cut {x o z : Nat} (hz : x ≤ z) :
    movedEnd x (x + (o - x)) x z = x + (z - (x + (o - x))) := by
  unfold movedEnd
  split <;> omega

/-- A child cut up to byte `o` lands after the new text, where its start moved to. -/
theorem Edited.of_cut {c' : Subtree} (hspl : Splice X Y s o n) (hxX : x ≤ X.length)
    (hsx : s < x ∨ (x = s ∧ s = o))
    (h : Edited (X.take x ++ X.drop (x + (o - x))) x (x + (o - x)) x c x c' x) :
    Edited Y s o n c x c' (movedEnd s o n x) := by
  have hlen := hspl.length_eq
  have hoX := hspl.le_length
  have hafter : Y.drop (n + (x - o)) = X.drop (o + (x - o)) := by
    rw [← List.drop_drop, hspl.drop_eq, List.drop_drop]
  have hdrop : (X.take x ++ X.drop (x + (o - x))).drop x = Y.drop (movedEnd s o n x) := by
    rw [List.drop_left' (List.length_take_of_le hxX), movedEnd_of_after hsx, hafter,
      show o + (x - o) = x + (o - x) by omega]
  have hT : c.padding.bytes ≤ c.totalBytes := Nat.le_add_right _ _
  have hpad := h.padding_end
  have htot := h.total_end
  rw [movedEnd_cut (Nat.le_add_right _ _)] at hpad htot
  refine ⟨h.spans.transfer (Length.agree_of_drop_eq hdrop ?_ h.spans.le), ?_, ?_⟩
  · rw [movedEnd_of_after hsx]
    omega
  · rw [movedEnd_of_after hsx, movedEnd_of_after (by omega)]
    omega
  · rw [movedEnd_of_after hsx, movedEnd_of_after (by omega)]
    omega

/-- A child that the empty edit leaves in place stays in place under the edit. -/
theorem Edited.of_noop {c' : Subtree} (hspl : Splice X Y s o n) (h : Edited X s s s c x c' x)
    (hend : x + c.totalBytes < s ∨ (x + c.totalBytes = s ∧ s < o)) : Edited Y s o n c x c' x := by
  have hpad := h.padding_end
  have htot := h.total_end
  rw [movedEnd_self] at hpad htot
  have hT : c.padding.bytes ≤ c.totalBytes := Nat.le_add_right _ _
  refine ⟨h.spans.transfer (hspl.agree_before (by omega)), ?_, ?_⟩
  · rw [movedEnd_of_before (by omega)]
    exact hpad
  · rw [movedEnd_of_before hend]
    exact htot

/-- A leaf rebuilt with the new geometry. -/
theorem Edited.rebuilt_leaf {i i' : NodeInfo}
    (hg : Length.Covers Y a i'.padding ∧ Length.Covers Y (a + i'.padding.bytes) i'.size ∧
      a + i'.padding.bytes = movedEnd s o n (a + i.padding.bytes) ∧
      a + i'.padding.bytes + i'.size.bytes = movedEnd s o n (a + i.padding.bytes + i.size.bytes)) :
    Edited Y s o n (Subtree.mk i []) a (Subtree.mk i' []) a := by
  obtain ⟨hp, hS, hpad, htot⟩ := hg
  exact ⟨.leaf hp hS, hpad, by simpa only [totalBytes, padding, size, info_mk, Nat.add_assoc] using htot⟩

/-- A node rebuilt with the new geometry over its edited children: its padding is its
    first child's, and its padding and size add up to its children, because both cover
    the new text from the same byte to the same ends. -/
theorem Edited.rebuilt_node {i i' : NodeInfo} {cs' : List Subtree}
    (hg : Length.Covers Y a i'.padding ∧ Length.Covers Y (a + i'.padding.bytes) i'.size ∧
      a + i'.padding.bytes = movedEnd s o n (a + i.padding.bytes) ∧
      a + i'.padding.bytes + i'.size.bytes = movedEnd s o n (a + i.padding.bytes + i.size.bytes))
    (hlist : EditedList Y s o n (c :: rest) a cs' a 0) (hpad : i.padding = c.padding)
    (htotal : i.padding.add i.size = totalOf (c :: rest)) :
    Edited Y s o n (Subtree.mk i (c :: rest)) a (Subtree.mk i' cs') a := by
  obtain ⟨hp, hS, hpadEnd, htotEnd⟩ := hg
  obtain ⟨c', hc', hc'End⟩ := hlist.head c rfl
  obtain ⟨rest', rfl⟩ : ∃ rest', cs' = c' :: rest' := by
    cases cs' with
    | nil => simp at hc'
    | cons d rest' =>
      rw [List.head?_cons, Option.mem_some_iff] at hc'
      exact ⟨rest', by rw [hc']⟩
  have hlistEnd := hlist.total_end (.inl (List.cons_ne_nil c rest))
  have htotBytes : i.padding.bytes + i.size.bytes = (totalOf (c :: rest)).bytes := by
    rw [← htotal, Length.bytes_add]
  have hpad' : i'.padding = c'.padding := by
    refine hp.eq hlist.spans.head_padding ?_
    rw [hpad] at hpadEnd
    omega
  have htotal' : i'.padding.add i'.size = totalOf (c' :: rest') := by
    refine (hp.add hS).eq hlist.spans.covers ?_
    rw [Nat.add_assoc a i.padding.bytes, htotBytes] at htotEnd
    simp only [Length.bytes_add]
    omega
  exact ⟨.node hlist.spans hpad' htotal', hpadEnd,
    by simpa only [totalBytes, padding, size, info_mk, Nat.add_assoc] using htotEnd⟩

/-- What one step of `editChildren` does with the child `c` at byte `x`, read in bytes of the
    old text: it keeps the child when the child and what it examined end before the edit; it
    keeps the child and the rest past the removed text; or it edits the child, passing on the
    edit when the child reaches past the removed text's start or takes an insertion at its
    end, and the empty edit at that start otherwise. -/
theorem editChildren_cons_cases {cl : Length} (f : Bool) (pad : Length) (ins : Bool) (next : Nat)
    (c : Subtree) (rest : List Subtree) (index : Nat) (hins : ins = true ↔ o = s) (hso : s ≤ o)
    (hrm : e.Removes X s o a) (hx : a + cl.bytes = x) :
    (x + c.totalBytes + c.lookaheadBytes < s ∧
      (editChildren f pad ins (c :: rest) e cl index next).1 =
        c :: (editChildren f pad ins rest e (cl.add c.totalSize) (index + 1) next).1) ∨
    ((o < x ∨ (x = o ∧ 0 < c.totalBytes ∧ 0 < index)) ∧
      (editChildren f pad ins (c :: rest) e cl index next).1 = c :: rest) ∨
    ((s < x + c.totalBytes ∨ (x + c.totalBytes = s ∧ s = o)) ∧
      (editChildren f pad ins (c :: rest) e cl index next).1 =
        (c.editLocal ⟨e.start.saturatingSub cl, e.oldEnd.saturatingSub cl,
          e.newEnd.saturatingSub cl⟩ next).1 ::
        (editChildren f pad ins rest { e with newEnd := e.start } (cl.add c.totalSize) (index + 1)
          (c.editLocal ⟨e.start.saturatingSub cl, e.oldEnd.saturatingSub cl,
            e.newEnd.saturatingSub cl⟩ next).2).1) ∨
    ((x + c.totalBytes < s ∨ (x + c.totalBytes = s ∧ s < o)) ∧
      (editChildren f pad ins (c :: rest) e cl index next).1 =
        (c.editLocal ⟨e.start.saturatingSub cl, e.start.saturatingSub cl,
          e.start.saturatingSub cl⟩ next).1 ::
        (editChildren f pad ins rest e (cl.add c.totalSize) (index + 1)
          (c.editLocal ⟨e.start.saturatingSub cl, e.start.saturatingSub cl,
            e.start.saturatingSub cl⟩ next).2).1) := by
  have hsb := hrm.start_bytes
  have hob := hrm.oldEnd_bytes
  have hle := hrm.le_start
  have hright : (cl.add c.totalSize).bytes = x + c.totalBytes - a := by
    simp only [Length.bytes_add, totalSize_bytes]
    omega
  rw [editChildren.eq_2]
  dsimp only
  split
  · -- the child and the text it examined end before the edit
    rename_i hskip
    rw [hright] at hskip
    exact .inl ⟨by omega, rfl⟩
  · split
    · -- the child starts past the removed text
      rename_i _ hbreak
      simp only [Bool.and_eq_true, Bool.or_eq_true, beq_iff_eq] at hbreak
      refine .inr (.inl ⟨?_, rfl⟩)
      rcases hbreak.1 with hgt | ⟨⟨heq, hsize⟩, hidx⟩
      · exact .inl (by have := of_decide_eq_true hgt; omega)
      · exact .inr ⟨by omega, by simpa using of_decide_eq_true hsize, of_decide_eq_true hidx⟩
    · split
      · -- the child reaches past the removed text's start, or takes an insertion at its end
        rename_i _ _ htake
        simp only [Bool.or_eq_true, Bool.and_eq_true, beq_iff_eq, hright] at htake
        refine .inr (.inr (.inl ⟨?_, rfl⟩))
        rcases htake with hgt | ⟨heq, hi⟩
        · exact .inl (by have := of_decide_eq_true hgt; omega)
        · exact .inr ⟨by omega, (hins.1 hi).symm⟩
      · -- the child ends at the removed text's start and takes nothing
        rename_i _ _ hnot
        simp only [Bool.or_eq_true, Bool.and_eq_true, beq_iff_eq, hright, not_or, not_and] at hnot
        refine .inr (.inr (.inr ⟨?_, rfl⟩))
        have h₁ : ¬(x + c.totalBytes - a > e.start.bytes) := fun h => hnot.1 (decide_eq_true h)
        by_cases hlt : x + c.totalBytes < s
        · exact .inl hlt
        · refine .inr ⟨by omega, ?_⟩
          have h₂ : o ≠ s := fun h => hnot.2 (by omega) (hins.2 h)
          omega

/-- One step of `editChildren`: the first child is left before the edit, or the rest is
    left past it, or the child is edited, and the rest follows from the phase after it. -/
theorem editedChildren_cons {cl : Length} (f : Bool) (pad : Length) (ins : Bool) (next : Nat)
    (hspl : Splice X Y s o n) (hins : ins = true ↔ o = s) (hcl : Length.Covers X a cl)
    (hx : a + cl.bytes = x) (hph : EditPhase X Y s o n a e x y index) (hc : Spans X x c)
    (hrest : SpansList X (x + c.totalBytes) rest)
    (ihc : ∀ {Z : List UInt8} {s' o' n' : Nat} {e' : LocalEdit} (m : Nat), Splice X Z s' o' n' →
      e'.Replaces X Z s' o' n' x → Edited Z s' o' n' c x (c.editLocal e' m).1 x)
    (ihrest : ∀ {e' : LocalEdit} {y' : Nat} (m : Nat),
      EditPhase X Y s o n a e' (x + c.totalBytes) y' (index + 1) →
      EditedList Y s o n rest (x + c.totalBytes)
        (editChildren f pad ins rest e' (cl.add c.totalSize) (index + 1) m).1 y' (index + 1)) :
    EditedList Y s o n (c :: rest) x (editChildren f pad ins (c :: rest) e cl index next).1 y index := by
  have hrm := hph.removes
  have hso := hspl.start_le
  have hoX := hspl.le_length
  have hxX : x + c.totalBytes ≤ X.length := hc.le
  rcases editChildren_cons_cases f pad ins next c rest index hins hso hrm hx with
    ⟨hskip, heq⟩ | ⟨hpast, heq⟩ | ⟨htake, heq⟩ | ⟨hend, heq⟩
  · -- the child and the text it examined end before the edit: it stays
    rw [heq]
    obtain ⟨rfl, hph'⟩ := hph.skip (show x + c.totalBytes < s by omega)
    exact .cons (Edited.of_before hspl hc (.inl (by omega))) (ihrest next hph')
  · -- the child starts past the removed text: the rest moves unchanged
    rw [heq]
    exact EditedList.of_past hspl (.cons hc hrest) hph hpast
  · rw [heq]
    cases hph with
    | pending he hxs _ =>
      -- the first child that reaches the edit takes the new text
      have hk := ihc next hspl (he.part hspl hcl hx hxs)
      refine .cons hk (ihrest _ ?_)
      rw [hk.total_end]
      exact .taken (hrm.withNewEnd _) rfl htake
    | taken _ hne hsx =>
      -- the new text is placed: the child loses what was removed of it
      have hk := Edited.of_cut hspl (Nat.le_trans (Nat.le_add_right _ _) hxX) hsx
        (ihc next (splice_cut (Nat.le_trans (Nat.le_add_right _ _) hxX) hoX)
          (hrm.cut hne hcl hx (by omega) (Nat.le_trans (Nat.le_add_right _ _) hxX)))
      refine .cons hk (ihrest _ ?_)
      rw [hk.total_end]
      exact .taken (hrm.withNewEnd _) rfl (by omega)
  · -- the child ends at the removed text's start and takes nothing
    rw [heq]
    cases hph with
    | pending he hxs _ =>
      have hk := Edited.of_noop hspl
        (ihc next (splice_self (Nat.le_trans hso hoX)) (hrm.noop hcl hx hxs)) hend
      have hsame : x + (c.editLocal ⟨e.start.saturatingSub cl, e.start.saturatingSub cl,
          e.start.saturatingSub cl⟩ next).1.totalBytes = x + c.totalBytes := by
        rw [hk.total_end, movedEnd_of_before hend]
      refine .cons hk ?_
      rw [hsame]
      exact ihrest _ (.pending he (by omega) fun _ => hend)
    | taken _ _ hsx => omega

end Step

/-! ### Every subtree -/

variable {X : List UInt8}

mutual

/-- An edit seen from byte `a`, at or before its start, makes of a subtree spanning the
    old text from `a` one spanning the new text from `a`, whose padding and text end
    where the old ones moved to. -/
theorem Spans.edited : ∀ {a : Nat} {t : Subtree}, Spans X a t → ∀ {Y : List UInt8} {s o n : Nat}
    {e : LocalEdit} (next : Nat), Splice X Y s o n → e.Replaces X Y s o n a →
    Edited Y s o n t a (t.editLocal e next).1 a
  | _, _, @Spans.leaf _ _ i hp hS, _, _, _, _, e, next, hspl, he => by
    by_cases hskip : Skips e i
    · rw [editLocal_of_skips hskip]
      exact Edited.of_skips hspl he (.leaf hp hS) hskip
    · obtain ⟨p', S', hres, heq⟩ := editLocal_of_not_skips [] next hskip
      rw [heq]
      exact Edited.rebuilt_leaf (hres.geometry hspl he hp hS)
  | _, _, @Spans.node _ _ i c cs hcs hpad htotal, _, s, o, _, e, next, hspl, he => by
    have ht : Spans X _ (Subtree.mk i (c :: cs)) := .node hcs hpad htotal
    by_cases hskip : Skips e i
    · rw [editLocal_of_skips hskip]
      exact Edited.of_skips hspl he ht hskip
    · obtain ⟨p', S', hres, heq⟩ := editLocal_of_not_skips (c :: cs) next hskip
      rw [heq]
      exact Edited.rebuilt_node (hres.geometry hspl he ht.padding_covers ht.size_covers)
        (hcs.editedChildren i.dependsOnColumn p' _ (next + 1) hspl
          (he.isInsertion hspl.start_le)
          (Length.covers_zero hcs.le) (Nat.add_zero _) (.pending he he.le_start (by omega)))
        hpad htotal

/-- The same for the children of a node the edit reaches, passed on from the phase
    `editChildren` is in. -/
theorem SpansList.editedChildren : ∀ {x : Nat} {cs : List Subtree}, SpansList X x cs →
    ∀ {Y : List UInt8} {s o n a y index : Nat} {e : LocalEdit} {cl : Length} (f : Bool) (pad : Length)
    (ins : Bool) (next : Nat), Splice X Y s o n → (ins = true ↔ o = s) → Length.Covers X a cl →
    a + cl.bytes = x → EditPhase X Y s o n a e x y index →
    EditedList Y s o n cs x (editChildren f pad ins cs e cl index next).1 y index
  | _, _, .nil hx, _, _, _, _, _, _, _, _, _, _, _, _, _, hspl, _, _, _, hph =>
    EditedList.nil hspl hx hph
  | _, _, .cons hc hrest, _, _, _, _, _, _, _, _, _, f, pad, ins, next, hspl, hins, hcl, hx, hph =>
    editedChildren_cons f pad ins next hspl hins hcl hx hph hc hrest
      (fun m hspl' he' => Spans.edited hc m hspl' he')
      (fun m hph' => SpansList.editedChildren hrest f pad ins m hspl hins
        (hcl.add (by rw [hx]; exact hc.covers))
        (by rw [Length.bytes_add, totalSize_bytes, ← Nat.add_assoc, hx]) hph')

end

/-! ### Roots -/

/-- A root tiles a text: it has no padding, its size is the text's length, and its
    children span the text from its start. -/
structure Tiles (X : List UInt8) (t : Subtree) : Prop where
  padding : t.padding = Length.zero
  size : t.size = Length.of X
  children : SpansList X 0 t.children

variable {Y : List UInt8} {t : Subtree}

theorem Tiles.totalBytes (h : Tiles X t) : t.totalBytes = X.length := by
  rw [Subtree.totalBytes, h.padding, h.size, Length.zero_bytes, Length.bytes_of, Nat.zero_add]

/-- A root whose padding and size cover all of a text, with children spanning it, tiles
    the text once its padding is folded into its size. -/
theorem tiles_intoRoot (hp : Length.Covers Y 0 t.padding) (hS : Length.Covers Y t.padding.bytes t.size)
    (htot : t.totalBytes = Y.length) (hcs : SpansList Y 0 t.children) (id : Nat) :
    Tiles Y (t.intoRoot id) := by
  have hall : Length.At Y (t.padding.add t.size) := hp.add (by simpa using hS)
  have hof : t.padding.add t.size = Length.of Y :=
    Length.Covers.eq hall (Length.at_of Y) (by simpa [totalBytes] using htot)
  unfold intoRoot
  split
  · rename_i hz
    have hzero : t.padding = Length.zero := hp.eq_zero (by simpa [Length.isZero] using hz)
    exact ⟨hzero, by rw [← hof, hzero, Length.zero_add], hcs⟩
  · exact ⟨rfl, hof, hcs⟩

/-- An edit skips a root that tiles a text only when it is empty: it cannot start past the
    text, whose end the root examined past. -/
theorem Tiles.eq_of_skips {i : NodeInfo} {cs : List Subtree} {s o n : Nat} {e : LocalEdit}
    (h : Tiles X (Subtree.mk i cs)) (hspl : Splice X Y s o n) (he : e.Replaces X Y s o n 0)
    (hskip : Skips e i) : Y = X := by
  have hp : i.padding = Length.zero := h.padding
  have hS : i.size = Length.of X := h.size
  have hsb := he.start_bytes
  have hso := hspl.start_le
  have hoX := hspl.le_length
  rcases hskip with hpast | ⟨hoe, hne, -⟩
  · rw [hp, hS] at hpast
    simp only [Length.zero_bytes, Length.bytes_of] at hpast
    omega
  · exact (he.eq_of_empty hspl hoe hne).1

/-- An edit seen from the start of a tiled text gives the root a padding and size that
    cover all of the new text, over children that span it. -/
theorem Tiles.edited {s o n : Nat} {e : LocalEdit} (h : Tiles X t) (hspl : Splice X Y s o n)
    (he : e.Replaces X Y s o n 0) (next : Nat) :
    Length.Covers Y 0 (t.editLocal e next).1.padding ∧
      Length.Covers Y (t.editLocal e next).1.padding.bytes (t.editLocal e next).1.size ∧
      (t.editLocal e next).1.totalBytes = Y.length ∧ SpansList Y 0 (t.editLocal e next).1.children := by
  obtain ⟨i, cs⟩ := t
  have hp : i.padding = Length.zero := h.padding
  have hS : i.size = Length.of X := h.size
  have hso := hspl.start_le
  have hoX := hspl.le_length
  have hlen := hspl.length_eq
  by_cases hskip : Skips e i
  · rw [editLocal_of_skips hskip]
    -- only an empty edit skips the root: the text and the root stay
    obtain rfl := h.eq_of_skips hspl he hskip
    refine ⟨?_, ?_, h.totalBytes, h.children⟩
    · rw [h.padding]
      exact Length.covers_zero (Nat.zero_le _)
    · rw [h.padding, h.size, Length.zero_bytes]
      exact Length.at_of Y
  · obtain ⟨p', S', hres, heq⟩ := editLocal_of_not_skips cs next hskip
    rw [heq]
    have hpX : Length.Covers X 0 i.padding := by
      rw [hp]
      exact Length.covers_zero (Nat.zero_le _)
    have hSX : Length.Covers X (0 + i.padding.bytes) i.size := by
      rw [hp, hS, Length.zero_bytes]
      exact Length.at_of X
    obtain ⟨hp', hS', -, hend⟩ := hres.geometry hspl he hpX hSX
    have hlist := h.children.editedChildren i.dependsOnColumn p' (e.oldEnd.bytes == e.start.bytes)
      (next + 1) hspl (he.isInsertion hso) (Length.covers_zero (Nat.zero_le _)) rfl
      (.pending he (Nat.zero_le _) fun h => absurd h (Nat.lt_irrefl 0))
    refine ⟨hp', by rw [Nat.zero_add] at hS'; exact hS', ?_, hlist.spans⟩
    rw [hp, hS] at hend
    simp only [Length.bytes_of, Length.zero_bytes, Nat.add_zero, Nat.zero_add] at hend
    rw [movedEnd_of_after (show s < X.length ∨ (X.length = s ∧ s = o) by omega)] at hend
    show p'.bytes + S'.bytes = Y.length
    omega

end Subtree

/-! ### Edits made from texts -/

theorem byteArray_toList_extract (X : ByteArray) (a b : Nat) :
    (X.extract a b).toList = (X.toList.drop a).take (b - a) := by
  rw [byteArray_toList, byteArray_toList, ByteArray.data_extract, Array.toList_extract,
    List.extract_eq_take_drop]

theorem byteArray_length_toList (X : ByteArray) : X.toList.length = X.size := by
  rw [byteArray_toList, Array.length_toList]
  rfl

/-- Replacing bytes `s` to `o` of a text splices the replacement in. -/
theorem splice_replacing {X r : ByteArray} {s o : Nat} (hso : s ≤ o) (ho : o ≤ X.size) :
    Splice X.toList (X.toList.take s ++ r.toList ++ X.toList.drop o) s o (s + r.size) :=
  ⟨hso, by rw [byteArray_length_toList]; exact ho, r.toList, rfl, by rw [byteArray_length_toList]⟩

/-- The edit that replaces bytes `s` to `o` of a text, seen from the start of the text,
    has the lengths of the text before it, before its end, and before the end of the
    replacement in the new text. -/
theorem Edit.replacing_replaces {X r : ByteArray} {s o : Nat} (hso : s ≤ o) (ho : o ≤ X.size) :
    LocalEdit.Replaces
      ⟨⟨(Edit.replacing X s o r).startByte, (Edit.replacing X s o r).startPoint⟩,
        ⟨(Edit.replacing X s o r).oldEndByte, (Edit.replacing X s o r).oldEndPoint⟩,
        ⟨(Edit.replacing X s o r).newEndByte, (Edit.replacing X s o r).newEndPoint⟩⟩
      X.toList (X.toList.take s ++ r.toList ++ X.toList.drop o) s o (s + r.size) 0 := by
  have hlen := byteArray_length_toList X
  have hrlen := byteArray_length_toList r
  have hs : (X.toList.take s).length = s := List.length_take_of_le (by omega)
  have hstart : (⟨s, (Length.of (X.toList.take s)).extent⟩ : Length) = Length.of (X.toList.take s) := by
    rw [Length.of, hs]
  have hold : (⟨o, (Length.of (X.toList.take s)).extent.advance ((X.toList.drop s).take (o - s))⟩ :
      Length) = Length.of (X.toList.take o) := by
    have htake : X.toList.take s ++ (X.toList.drop s).take (o - s) = X.toList.take o := by
      rw [← List.take_add, Nat.add_sub_cancel' hso]
    simp only [Length.of, ← Point.advance_append, htake,
      List.length_take_of_le (show o ≤ X.toList.length by omega)]
  have hnew : (⟨s + r.size, (Length.of (X.toList.take s)).extent.advance r.toList⟩ : Length) =
      Length.of ((X.toList.take s ++ r.toList ++ X.toList.drop o).take (s + r.size)) := by
    rw [List.take_left' (by rw [List.length_append, hs, hrlen])]
    simp only [Length.of, ← Point.advance_append, List.length_append, hs, hrlen]
  have hYlen := (splice_replacing (r := r) hso ho).length_eq
  simp only [Edit.replacing, Nat.min_eq_left ho, Nat.min_eq_left hso, byteArray_toList_extract,
    List.drop_zero, Nat.sub_zero]
  refine ⟨⟨Nat.zero_le s, ?_, rfl, ?_, rfl⟩, ?_, rfl⟩
  · rw [hstart]
    exact Length.at_of_take s (by omega)
  · rw [hold]
    exact Length.at_of_take o (by omega)
  · rw [hnew]
    exact Length.at_of_take _ (by omega)

/-- Editing a tree that tiles a text gives a tree that tiles the edited text. -/
theorem SyntaxTree.edit_tiles {t : SyntaxTree} {X Y : List UInt8} {s o n : Nat} {edit : Edit}
    (h : t.root.Tiles X) (hspl : Splice X Y s o n)
    (he : LocalEdit.Replaces ⟨⟨edit.startByte, edit.startPoint⟩, ⟨edit.oldEndByte, edit.oldEndPoint⟩,
      ⟨edit.newEndByte, edit.newEndPoint⟩⟩ X Y s o n 0) (next : Nat) :
    (t.edit edit next).1.root.Tiles Y := by
  obtain ⟨hp, hS, htot, hcs⟩ := h.edited hspl he next
  exact Subtree.tiles_intoRoot hp hS htot hcs _

/-! ### Lengths -/

/-- What an edit inside a node's text does to the node's length, by bytes alone. -/
theorem Resized.totalBytes {e : LocalEdit} {p S p' S' : Length} (hres : Resized e p S p' S')
    (hso : e.start.bytes ≤ e.oldEnd.bytes) (hsn : e.start.bytes ≤ e.newEnd.bytes)
    (ho : e.oldEnd.bytes ≤ p.bytes + S.bytes) :
    p'.bytes + S'.bytes = p.bytes + S.bytes - (e.oldEnd.bytes - e.start.bytes) +
      (e.newEnd.bytes - e.start.bytes) := by
  cases hres with
  | inPadding hin =>
    simp only [Length.bytes_add, Length.sub_bytes]
    omega
  | overPadding hpo hsp =>
    simp only [Length.bytes_saturatingSub, Length.sub_bytes]
    omega
  | inSize hpo hps hin =>
    simp only [Length.bytes_add, Length.bytes_saturatingSub, Length.sub_bytes]
    omega
  | past hpo hps hpast =>
    -- an edit inside the text that starts at or past its end is an insertion at its end
    omega

namespace Subtree


theorem totalBytes_intoRoot (t : Subtree) (id : Nat) : (t.intoRoot id).totalBytes = t.totalBytes := by
  unfold intoRoot
  split
  · rfl
  · simp [Subtree.totalBytes, Subtree.padding, Subtree.size]

/-- An edit inside the text of a node changes its length by what it inserts less what
    it removes. -/
theorem totalBytes_editLocal (t : Subtree) (e : LocalEdit) (next : Nat)
    (hso : e.start.bytes ≤ e.oldEnd.bytes) (hsn : e.start.bytes ≤ e.newEnd.bytes)
    (ho : e.oldEnd.bytes ≤ t.totalBytes) :
    (t.editLocal e next).1.totalBytes =
      t.totalBytes - (e.oldEnd.bytes - e.start.bytes) + (e.newEnd.bytes - e.start.bytes) := by
  obtain ⟨i, cs⟩ := t
  by_cases hskip : Skips e i
  · rw [editLocal_of_skips hskip]
    rcases hskip with hpast | ⟨hoe, hne, -⟩
    · simp only [Subtree.totalBytes, padding, size, info_mk] at ho
      omega
    · show (mk i cs).totalBytes = _
      omega
  · obtain ⟨p', S', hres, heq⟩ := editLocal_of_not_skips cs next hskip
    rw [heq]
    exact hres.totalBytes hso hsn ho

end Subtree

/-- An edit inside a tree's text changes its length by what it inserts less what it
    removes. -/
theorem SyntaxTree.sourceLength_edit (t : SyntaxTree) (edit : Edit) (next : Nat)
    (hso : edit.startByte ≤ edit.oldEndByte) (hsn : edit.startByte ≤ edit.newEndByte)
    (ho : edit.oldEndByte ≤ t.sourceLength) :
    (t.edit edit next).1.sourceLength =
      t.sourceLength - (edit.oldEndByte - edit.startByte) + (edit.newEndByte - edit.startByte) := by
  simp only [SyntaxTree.edit, SyntaxTree.sourceLength, Subtree.totalBytes_intoRoot]
  exact Subtree.totalBytes_editLocal t.root _ next hso hsn ho

/-- Edits that `validateEdits` accepts from a tree's length, applied one after another,
    give a tree as long as it checked them against. -/
theorem validateEdits_go_sourceLength (edits : List Edit) (newLength : Nat) :
    ∀ (es : List Edit) (acc : SyntaxTree × Nat) (index : Nat) (previous : Option Edit),
      validateEdits.go edits newLength index acc.1.sourceLength previous es = .ok () →
      (es.foldl (fun (t, next) e => t.edit e next) acc).1.sourceLength = newLength
  | [], acc, index, previous, h => by
    rw [validateEdits.go] at h
    split at h
    · cases h
    · rename_i hlen
      exact not_not.1 hlen
  | e :: rest, ⟨t, next⟩, index, previous, h => by
    unfold validateEdits.go at h
    simp only at h
    -- the edit is in order and inside the text, and the rest is checked from its result
    split at h
    · cases h
    · rename_i hordered
      split at h
      · cases h
      · rename_i hbound
        have hso : e.startByte ≤ e.oldEndByte ∧ e.startByte ≤ e.newEndByte := by
          split at hordered
          · cases hordered
          · rename_i hinv
            omega
        rw [List.foldl_cons]
        refine validateEdits_go_sourceLength edits newLength rest (t.edit e next) (index + 1) (some e) ?_
        rw [SyntaxTree.sourceLength_edit t e next hso.1 hso.2 (by omega)]
        exact h

/-- The tree that reparsing edits before it parses has the length of the new text,
    whenever `validateEdits` accepts the edits. -/
theorem Parser.applyEdits_sourceLength {old : SyntaxTree} {edits : List Edit} {input : ByteArray}
    (h : validateEdits old.sourceLength edits input.size = .ok ()) (next : Nat) :
    (Parser.applyEdits old edits next).1.sourceLength = input.size :=
  validateEdits_go_sourceLength edits input.size edits (old, next) 0 none h

end IncrementalLR
