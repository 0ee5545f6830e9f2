import IncrementalLR.Proofs.Tree.EditGeometry

/-!
# Edits keep the text that kept subtrees examined

To decide where a token ends the lexer may look past it, and every subtree records how far
past its text the tokens below it looked: its lookahead.
-/

namespace IncrementalLR

/-- Bytes `p` to `p + w` of `X`, as far as `X` goes, are bytes `p'` to `p' + w` of `Y`, as far
    as `Y` goes, and both texts stop short of the end or neither does. -/
def ExaminedAgree (X : List UInt8) (p : Nat) (Y : List UInt8) (p' w : Nat) : Prop :=
  (X.drop p).take w = (Y.drop p').take w ∧ (X.length < p + w ↔ Y.length < p' + w)

/-- After the replaced bytes the texts are the same, moved by the difference in length. -/
theorem Splice.drop_after {X Y : List UInt8} {s o n a : Nat} (h : Splice X Y s o n) (ha : o ≤ a) :
    X.drop a = Y.drop (n + (a - o)) := by
  rw [← List.drop_drop, h.drop_eq, List.drop_drop, Nat.add_sub_cancel' ha]

namespace Subtree

/-- The bytes a subtree examined from the start of its padding: its padding, its text and
    the lookahead past them. -/
def examinedBytes (t : Subtree) : Nat := t.totalBytes + t.lookaheadBytes

/-- `u` stands in `t` with its padding at byte `p`, `t`'s padding being at byte `a`: it is
    `t`, or it stands in one of `t`'s children, which follow one another from `a`. -/
inductive Occurs : Subtree → Nat → Subtree → Nat → Prop
  | self (t : Subtree) (a : Nat) : Occurs t a t a
  | child {i : NodeInfo} {pre post : List Subtree} {c u : Subtree} {a p : Nat} :
      Occurs c (a + (totalOf pre).bytes) u p → Occurs (.mk i (pre ++ c :: post)) a u p

/-- `u` stands in one of the subtrees `cs`, which follow one another from byte `x`. -/
def OccursAmong (cs : List Subtree) (x : Nat) (u : Subtree) (p : Nat) : Prop :=
  ∃ pre c post, cs = pre ++ c :: post ∧ Occurs c (x + (totalOf pre).bytes) u p

/-! ### Where subtrees stand -/

section Occurrences

variable {t u c : Subtree} {rest : List Subtree} {a p x : Nat}

theorem occurs_mk_iff {i : NodeInfo} {cs : List Subtree} :
    Occurs (mk i cs) a u p ↔ (u = mk i cs ∧ p = a) ∨ OccursAmong cs a u p := by
  constructor
  · intro h
    cases h with
    | self => exact .inl ⟨rfl, rfl⟩
    | child h => exact .inr ⟨_, _, _, rfl, h⟩
  · rintro (⟨rfl, rfl⟩ | ⟨pre, c, post, rfl, h⟩)
    · exact .self _ _
    · exact .child h

theorem not_occursAmong_nil : ¬OccursAmong [] x u p := by
  rintro ⟨pre, c, post, h, -⟩
  simp at h

theorem occursAmong_cons_iff :
    OccursAmong (c :: rest) x u p ↔ Occurs c x u p ∨ OccursAmong rest (x + c.totalBytes) u p := by
  constructor
  · rintro ⟨_ | ⟨d, pre⟩, c', post, h, hc⟩
    · simp only [List.nil_append, List.cons.injEq] at h
      obtain ⟨rfl, rfl⟩ := h
      exact .inl (by simpa using hc)
    · simp only [List.cons_append, List.cons.injEq] at h
      obtain ⟨rfl, rfl⟩ := h
      exact .inr ⟨pre, c', post, rfl, by simpa [Nat.add_assoc] using hc⟩
  · rintro (hc | ⟨pre, c', post, rfl, hc⟩)
    · exact ⟨[], c, rest, rfl, by simpa using hc⟩
    · exact ⟨c :: pre, c', post, rfl, by simpa [Nat.add_assoc] using hc⟩

theorem Occurs.le (h : Occurs t a u p) : a ≤ p := by
  induction h with
  | self => exact Nat.le_refl _
  | child _ ih => exact Nat.le_trans (Nat.le_add_right _ _) ih

/-- Where a subtree stands in `t`, counted from `t`'s start, depends only on `t`. -/
theorem Occurs.rebase (h : Occurs t a u p) (b : Nat) : Occurs t b u (b + (p - a)) := by
  induction h generalizing b with
  | self t a =>
    rw [Nat.sub_self, Nat.add_zero]
    exact .self t b
  | @child i pre post c u a p hc ih =>
    have hle := hc.le
    have hmoved := ih (b + (totalOf pre).bytes)
    rw [show b + (totalOf pre).bytes + (p - (a + (totalOf pre).bytes)) = b + (p - a) by omega]
      at hmoved
    exact .child hmoved

theorem OccursAmong.le {cs : List Subtree} (h : OccursAmong cs x u p) : x ≤ p := by
  obtain ⟨pre, c, post, -, hc⟩ := h
  exact Nat.le_trans (Nat.le_add_right _ _) hc.le

theorem OccursAmong.rebase {cs : List Subtree} (h : OccursAmong cs x u p) (y : Nat) :
    OccursAmong cs y u (y + (p - x)) := by
  obtain ⟨pre, c, post, rfl, hc⟩ := h
  have hle := hc.le
  have hmoved := hc.rebase (y + (totalOf pre).bytes)
  rw [show y + (totalOf pre).bytes + (p - (x + (totalOf pre).bytes)) = y + (p - x) by omega]
    at hmoved
  exact ⟨pre, c, post, rfl, hmoved⟩

variable {X : List UInt8}

/-- A subtree standing in one that spans a text spans the text where it stands, within the
    text of the outer one. -/
theorem Spans.occurs (ht : Spans X a t) (h : Occurs t a u p) :
    Spans X p u ∧ p + u.totalBytes ≤ a + t.totalBytes := by
  induction h with
  | self => exact ⟨ht, Nat.le_refl _⟩
  | @child i pre post c u a p hc ih =>
    obtain ⟨hcs, htotal⟩ := ht.children (by simp)
    simp only [children_mk] at hcs htotal
    cases (SpansList.of_append hcs).2 with
    | cons hcspan _ =>
      obtain ⟨hu, hle⟩ := ih hcspan
      have hbytes := congrArg Length.bytes htotal
      simp only [totalOf_append, totalOf_cons, Length.bytes_add, totalSize_bytes] at hbytes
      exact ⟨hu, by omega⟩

theorem SpansList.occursAmong {cs : List Subtree} (h : SpansList X x cs) (ho : OccursAmong cs x u p) :
    Spans X p u ∧ p + u.totalBytes ≤ x + (totalOf cs).bytes := by
  obtain ⟨pre, c, post, rfl, hc⟩ := ho
  cases (SpansList.of_append h).2 with
  | cons hcspan _ =>
    obtain ⟨hu, hle⟩ := hcspan.occurs hc
    refine ⟨hu, ?_⟩
    simp only [totalOf_append, totalOf_cons, Length.bytes_add, totalSize_bytes]
    omega

end Occurrences

/-! ### Subtrees that examined as far as their children -/

/-- Each child of `t`, the children following one another from the start of its padding,
    examined no further than `t` did. -/
def ExaminesChildren (t : Subtree) : Prop :=
  ∀ pre c post, t.children = pre ++ c :: post →
    (totalOf pre).bytes + c.examinedBytes ≤ t.examinedBytes

/-- Every subtree standing in `t` examined as far as each of its children. -/
def Examines (t : Subtree) : Prop := ∀ v a q, Occurs t a v q → v.ExaminesChildren

section Examines

variable {t u : Subtree} {a p : Nat}

theorem Examines.here (h : t.Examines) : t.ExaminesChildren := h t 0 0 (.self t 0)

theorem Examines.of_children {i : NodeInfo} {cs : List Subtree} (h : (mk i cs).ExaminesChildren)
    (hcs : ∀ c ∈ cs, c.Examines) : (mk i cs).Examines := by
  intro v a q hv
  rcases occurs_mk_iff.1 hv with ⟨rfl, -⟩ | ⟨pre, c, post, rfl, hc⟩
  · exact h
  · exact hcs c (by simp) v _ q hc

theorem Examines.child {c : Subtree} (h : t.Examines) (hc : c ∈ t.children) : c.Examines := by
  obtain ⟨i, cs⟩ := t
  rw [children_mk] at hc
  obtain ⟨pre, post, rfl⟩ := List.append_of_mem hc
  intro v a q hv
  exact h v 0 _ (.child (hv.rebase _))

/-- A subtree standing in one that examines as far as its children examined no further
    than the outer one. -/
theorem Examines.occurs (hx : t.Examines) (h : Occurs t a u p) :
    p + u.examinedBytes ≤ a + t.examinedBytes := by
  induction h with
  | self => exact Nat.le_refl _
  | @child i pre post c u a p hc ih =>
    have hle := ih (hx.child (by simp))
    have hchild := hx.here pre c post rfl
    omega

end Examines

/-! ### Where the edit leaves the subtrees it keeps -/

/-- Where the edit of bytes `s` to `o` into new text ending at byte `n` leaves a subtree it
    kept, which stood at byte `p` of the old text and stands at `p'` of the new: before byte
    `s` with all it examined; or past byte `o`, moved with the text after it, in a part of
    the old tree (`old`) that reached past byte `o`; or examining nothing. -/
def KeptAt (old : Subtree → Nat → Prop) (s o n : Nat) (u : Subtree) (p p' : Nat) : Prop :=
  (p' = p ∧ p + u.examinedBytes ≤ s) ∨
    (o ≤ p ∧ p' = n + (p - o) ∧ ∃ v q, old v q ∧ o < q + v.totalBytes) ∨
    u.examinedBytes = 0

/-- Every subtree that the edit kept in `t'`, the edited `t`, where `t` stands at byte `a` of
    the old text and `t'` at byte `b` of the new, stands in `t` as `KeptAt` says. -/
def KeptIn (s o n : Nat) (t : Subtree) (a : Nat) (t' : Subtree) (b : Nat) : Prop :=
  ∀ u p', Occurs t' b u p' → u.hasChanges = false →
    ∃ p, Occurs t a u p ∧ KeptAt (Occurs t a) s o n u p p'

/-- The same for the edited children `cs'` of the children `cs`. -/
def KeptAmong (s o n : Nat) (cs : List Subtree) (x : Nat) (cs' : List Subtree) (y : Nat) : Prop :=
  ∀ u p', OccursAmong cs' y u p' → u.hasChanges = false →
    ∃ p, OccursAmong cs x u p ∧ KeptAt (OccursAmong cs x) s o n u p p'

section Kept

variable {X Y : List UInt8} {s o n a x y : Nat} {u c c' : Subtree} {rest rest' : List Subtree}

theorem KeptAt.mono {old old' : Subtree → Nat → Prop} {p p' : Nat} (h : KeptAt old s o n u p p')
    (hold : ∀ v q, old v q → old' v q) : KeptAt old' s o n u p p' := by
  rcases h with h | ⟨hop, hp', v, q, hv, hoq⟩ | h
  · exact .inl h
  · exact .inr (.inl ⟨hop, hp', v, q, hold v q hv, hoq⟩)
  · exact .inr (.inr h)

/-- A kept subtree examined the same text in the old and the new text. -/
theorem KeptAt.agree {old : Subtree → Nat → Prop} {p p' : Nat} (hspl : Splice X Y s o n)
    (h : KeptAt old s o n u p p') (hp : p ≤ X.length) (hp' : p' ≤ Y.length) :
    ExaminedAgree X p Y p' u.examinedBytes := by
  have hlen := hspl.length_eq
  have hso := hspl.start_le
  have hoX := hspl.le_length
  have hsn := hspl.start_le_new
  rcases h with ⟨rfl, hw⟩ | ⟨hop, rfl, -⟩ | hw
  · -- before the replaced bytes the texts agree
    exact ⟨(hspl.agree_before hw).2, by omega⟩
  · -- past them the new text is the old one, moved
    exact ⟨by rw [hspl.drop_after hop], by omega⟩
  · rw [hw]
    exact ⟨by simp, by omega⟩

theorem KeptIn.of_before (hx : c.Examines) (h : x + c.examinedBytes ≤ s) : KeptIn s o n c x c x :=
  fun _ p' hu _ => ⟨p', hu, .inl ⟨rfl, Nat.le_trans (hx.occurs hu) h⟩⟩

/-- A node whose edited children keep their subtrees, marked as changed, keeps them. -/
theorem KeptIn.of_rebuilt {i i' : NodeInfo} {cs cs' : List Subtree} (h : KeptAmong s o n cs a cs' a)
    (hch : i'.hasChanges = true) : KeptIn s o n (mk i cs) a (mk i' cs') a := by
  intro u p' hu hkept
  rcases occurs_mk_iff.1 hu with ⟨rfl, -⟩ | hu
  · simp [hasChanges, hch] at hkept
  · obtain ⟨p, hp, hk⟩ := h u p' hu hkept
    exact ⟨p, occurs_mk_iff.2 (.inr hp), hk.mono fun v q hv => occurs_mk_iff.2 (.inr hv)⟩

/-- A child cut up to byte `o` once the new text is placed keeps, in the frame of the cut,
    subtrees that the edit keeps where the child's start moved to. -/
theorem KeptIn.of_cut (h : KeptIn x (x + (o - x)) x c x c' x) (hsx : s < x ∨ (x = s ∧ s = o)) :
    KeptIn s o n c x c' (movedEnd s o n x) := by
  intro u p' hu hkept
  have hle := hu.le
  obtain ⟨q, hq, hk⟩ := h u _ (hu.rebase x) hkept
  have hxq := hq.le
  refine ⟨q, hq, ?_⟩
  rw [movedEnd_of_after hsx] at hle hk
  rcases hk with ⟨heq, hw⟩ | ⟨hoq, heq, v, pv, hv, hov⟩ | hw
  · -- a subtree at the cut examines nothing
    exact .inr (.inr (by omega))
  · exact .inr (.inl ⟨by omega, by omega, v, pv, hv, by omega⟩)
  · exact .inr (.inr hw)

/-- A child that the empty edit at byte `s` passes over, ending at or before `s`, keeps
    subtrees that the edit keeps in place: none of them can be past the removed text. -/
theorem KeptIn.of_noop (h : KeptIn s s s c x c' x) (hc : Spans X x c) (hend : x + c.totalBytes ≤ s) :
    KeptIn s o n c x c' x := by
  intro u p' hu hkept
  obtain ⟨p, hp, hk⟩ := h u p' hu hkept
  refine ⟨p, hp, ?_⟩
  rcases hk with hk | ⟨-, -, v, q, hv, hsv⟩ | hk
  · exact .inl hk
  · have := (hc.occurs hv).2
    omega
  · exact .inr (.inr hk)

theorem KeptAmong.nil {cs : List Subtree} : KeptAmong s o n cs x [] y :=
  fun _ _ hu => absurd hu not_occursAmong_nil

theorem KeptAmong.cons (hc : KeptIn s o n c x c' y)
    (hrest : KeptAmong s o n rest (x + c.totalBytes) rest' (y + c'.totalBytes)) :
    KeptAmong s o n (c :: rest) x (c' :: rest') y := by
  intro u p' hu hkept
  have hlift : ∀ v q, OccursAmong rest (x + c.totalBytes) v q → OccursAmong (c :: rest) x v q :=
    fun v q hv => occursAmong_cons_iff.2 (.inr hv)
  rcases occursAmong_cons_iff.1 hu with hu | hu
  · obtain ⟨p, hp, hk⟩ := hc u p' hu hkept
    exact ⟨p, occursAmong_cons_iff.2 (.inl hp),
      hk.mono fun v q hv => occursAmong_cons_iff.2 (.inl hv)⟩
  · obtain ⟨p, hp, hk⟩ := hrest u p' hu hkept
    exact ⟨p, hlift u p hp, hk.mono hlift⟩

/-- Children past the removed text, the first reaching past its end, move with the text
    after it. -/
theorem KeptAmong.of_past (hox : o ≤ x) (hreach : o < x + c.totalBytes) :
    KeptAmong s o n (c :: rest) x (c :: rest) (n + (x - o)) := by
  intro u p' hu _
  have hle := hu.le
  refine ⟨x + (p' - (n + (x - o))), hu.rebase x, .inr (.inl ⟨by omega, by omega, c, x, ?_, hreach⟩)⟩
  exact occursAmong_cons_iff.2 (.inl (.self c x))

end Kept

/-! ### The edit keeps subtrees as `KeptAt` says -/

section Step

variable {X Y : List UInt8} {s o n a x y index : Nat} {e : LocalEdit} {c : Subtree}
  {rest : List Subtree}

/-- A node the edit skips ends, with all it examined, before the edit's start, or at the
    start of an empty edit. -/
theorem KeptIn.of_skips {i : NodeInfo} {cs : List Subtree} (hx : (mk i cs).Examines)
    (he : e.Replaces X Y s o n a) (hskip : Skips e i) : KeptIn s o n (mk i cs) a (mk i cs) a := by
  have hsb := he.start_bytes
  have hle := he.le_start
  refine KeptIn.of_before hx ?_
  simp only [examinedBytes, totalBytes, padding, size, lookaheadBytes, info_mk]
  rcases hskip with hpast | ⟨-, -, hend⟩ <;> omega

/-- One step of `editChildren`, as in `editedChildren_cons`: the first child is kept before
    the edit, or the rest is kept past it, or the child is edited in the frame its phase
    gives, and the rest follows from the phase after it. -/
theorem keptChildren_cons {cl : Length} (f : Bool) (pad : Length) (ins : Bool) (next : Nat)
    (hspl : Splice X Y s o n) (hins : ins = true ↔ o = s) (hcl : Length.Covers X a cl)
    (hx : a + cl.bytes = x) (hph : EditPhase X Y s o n a e x y index) (hc : Spans X x c)
    (hex : c.Examines)
    (ihc : ∀ {Z : List UInt8} {s' o' n' : Nat} {e' : LocalEdit} (m : Nat), Splice X Z s' o' n' →
      e'.Replaces X Z s' o' n' x → KeptIn s' o' n' c x (c.editLocal e' m).1 x)
    (ihrest : ∀ {e' : LocalEdit} {y' : Nat} (m : Nat),
      EditPhase X Y s o n a e' (x + c.totalBytes) y' (index + 1) →
      KeptAmong s o n rest (x + c.totalBytes)
        (editChildren f pad ins rest e' (cl.add c.totalSize) (index + 1) m).1 y') :
    KeptAmong s o n (c :: rest) x (editChildren f pad ins (c :: rest) e cl index next).1 y := by
  have hrm := hph.removes
  have hso := hspl.start_le
  have hoX := hspl.le_length
  have hxX : x + c.totalBytes ≤ X.length := hc.le
  rcases editChildren_cons_cases f pad ins next c rest index hins hso hrm hx with
    ⟨hskip, heq⟩ | ⟨hpast, heq⟩ | ⟨htake, heq⟩ | ⟨hend, heq⟩
  · -- the child and the text it examined end before the edit: it is kept
    rw [heq]
    obtain ⟨rfl, hph'⟩ := hph.skip (show x + c.totalBytes < s by omega)
    exact .cons (KeptIn.of_before hex (by simp only [examinedBytes]; omega)) (ihrest next hph')
  · -- the child starts past the removed text: the rest moves unchanged
    rw [heq]
    obtain ⟨hox, hreach, rfl⟩ := hph.past hspl hpast
    exact KeptAmong.of_past hox hreach
  · rw [heq]
    cases hph with
    | pending he hxs _ =>
      -- the first child that reaches the edit takes the new text, in the edit's own frame
      have hk := Spans.edited hc next hspl (he.part hspl hcl hx hxs)
      refine .cons (ihc next hspl (he.part hspl hcl hx hxs)) (ihrest _ ?_)
      rw [hk.total_end]
      exact .taken (hrm.withNewEnd _) rfl htake
    | taken _ hne hsx =>
      -- the new text is placed: the child loses what was removed of it
      have hcut := splice_cut (Nat.le_trans (Nat.le_add_right _ _) hxX) hoX
      have hpart := hrm.cut hne hcl hx (by omega) (Nat.le_trans (Nat.le_add_right _ _) hxX)
      have hk := Edited.of_cut hspl (Nat.le_trans (Nat.le_add_right _ _) hxX) hsx
        (Spans.edited hc next hcut hpart)
      refine .cons ((ihc next hcut hpart).of_cut hsx) (ihrest _ ?_)
      rw [hk.total_end]
      exact .taken (hrm.withNewEnd _) rfl (by omega)
  · -- the child ends at the removed text's start and takes nothing
    rw [heq]
    cases hph with
    | pending he hxs _ =>
      have hself := splice_self (Nat.le_trans hso hoX)
      have hk := Edited.of_noop hspl (Spans.edited hc next hself (hrm.noop hcl hx hxs)) hend
      have hsame : x + (c.editLocal ⟨e.start.saturatingSub cl, e.start.saturatingSub cl,
          e.start.saturatingSub cl⟩ next).1.totalBytes = x + c.totalBytes := by
        rw [hk.total_end, movedEnd_of_before hend]
      refine .cons ((ihc next hself (hrm.noop hcl hx hxs)).of_noop hc (by omega)) ?_
      rw [hsame]
      exact ihrest _ (.pending he (by omega) fun _ => hend)
    | taken _ _ hsx => omega

end Step

variable {X : List UInt8}

mutual

/-- An edit seen from byte `a`, at or before its start, keeps the subtrees of a subtree
    spanning the old text from `a`, whose nodes examined as far as their children, as
    `KeptAt` says. -/
theorem Spans.kept : ∀ {a : Nat} {t : Subtree}, Spans X a t → t.Examines →
    ∀ {Y : List UInt8} {s o n : Nat} {e : LocalEdit} (next : Nat), Splice X Y s o n →
      e.Replaces X Y s o n a → KeptIn s o n t a (t.editLocal e next).1 a
  | _, _, @Spans.leaf _ _ i _ _, hex, _, _, _, _, e, next, _, he => by
    by_cases hskip : Skips e i
    · rw [editLocal_of_skips hskip]
      exact KeptIn.of_skips hex he hskip
    · obtain ⟨p', S', -, heq⟩ := editLocal_of_not_skips [] next hskip
      rw [heq]
      exact KeptIn.of_rebuilt KeptAmong.nil rfl
  | _, _, @Spans.node _ _ i c cs hcs _ _, hex, _, s, o, _, e, next, hspl, he => by
    by_cases hskip : Skips e i
    · rw [editLocal_of_skips hskip]
      exact KeptIn.of_skips hex he hskip
    · obtain ⟨p', S', -, heq⟩ := editLocal_of_not_skips (c :: cs) next hskip
      rw [heq]
      exact KeptIn.of_rebuilt (hcs.keptChildren (fun d hd => hex.child hd) i.dependsOnColumn p' _
        (next + 1) hspl (he.isInsertion hspl.start_le) (Length.covers_zero hcs.le) (Nat.add_zero _)
        (.pending he he.le_start (by omega))) rfl

/-- The same for the children of a node the edit reaches, passed on from the phase
    `editChildren` is in. -/
theorem SpansList.keptChildren : ∀ {x : Nat} {cs : List Subtree}, SpansList X x cs →
    (∀ c ∈ cs, c.Examines) → ∀ {Y : List UInt8} {s o n a y index : Nat} {e : LocalEdit}
    {cl : Length} (f : Bool) (pad : Length) (ins : Bool) (next : Nat), Splice X Y s o n →
    (ins = true ↔ o = s) → Length.Covers X a cl → a + cl.bytes = x →
    EditPhase X Y s o n a e x y index →
    KeptAmong s o n cs x (editChildren f pad ins cs e cl index next).1 y
  | _, _, .nil _, _, _, _, _, _, _, _, _, _, _, _, _, _, _, _, _, _, _, _ => KeptAmong.nil
  | _, _, .cons hc hrest, hex, _, _, _, _, _, _, _, _, _, f, pad, ins, next, hspl, hins, hcl, hx,
      hph =>
    keptChildren_cons f pad ins next hspl hins hcl hx hph hc (hex _ List.mem_cons_self)
      (fun m hspl' he' => Spans.kept hc (hex _ List.mem_cons_self) m hspl' he')
      (fun m hph' => SpansList.keptChildren hrest (fun d hd => hex d (List.mem_cons_of_mem _ hd))
        f pad ins m hspl hins (hcl.add (by rw [hx]; exact hc.covers))
        (by rw [Length.bytes_add, totalSize_bytes, ← Nat.add_assoc, hx]) hph')

end

/-! ### Roots -/

theorem intoRoot_eq (t : Subtree) (id : Nat) :
    ∃ i, t.intoRoot id = mk i t.children ∧ i.hasChanges = t.hasChanges := by
  unfold intoRoot
  split
  · exact ⟨t.info, by cases t; rfl, rfl⟩
  · exact ⟨_, rfl, rfl⟩

/-- A subtree stands in a root that tiles a text no further than the text's end. -/
theorem Tiles.occurs_le {t u : Subtree} {p : Nat} (h : Tiles X t) (hu : Occurs t 0 u p) :
    p ≤ X.length := by
  obtain ⟨i, cs⟩ := t
  rcases occurs_mk_iff.1 hu with ⟨-, rfl⟩ | hu
  · exact Nat.zero_le _
  · exact Nat.le_trans (Nat.le_add_right _ _) (h.children.occursAmong hu).1.le

/-- An edit of a root that tiles a text, over children that examined as far as theirs,
    changes no text and keeps the root, or keeps the subtrees of the edited root as
    `KeptAt` says. -/
theorem Tiles.kept {Y : List UInt8} {t : Subtree} {s o n : Nat} {e : LocalEdit} (h : Tiles X t)
    (hex : ∀ c ∈ t.children, c.Examines) (hspl : Splice X Y s o n)
    (he : e.Replaces X Y s o n 0) (next : Nat) :
    (Y = X ∧ (t.editLocal e next).1.intoRoot (t.editLocal e next).2 = t) ∨
      KeptIn s o n t 0 ((t.editLocal e next).1.intoRoot (t.editLocal e next).2) 0 := by
  obtain ⟨i, cs⟩ := t
  by_cases hskip : Skips e i
  · -- only an empty edit skips the root: the text and the root stay
    rw [editLocal_of_skips hskip]
    obtain rfl := h.eq_of_skips hspl he hskip
    refine .inl ⟨rfl, ?_⟩
    have hpad : (Subtree.mk i cs).padding = Length.zero := h.padding
    unfold intoRoot
    rw [if_pos (by simp [hpad, Length.isZero])]
  · obtain ⟨p', S', -, heq⟩ := editLocal_of_not_skips cs next hskip
    rw [heq]
    obtain ⟨i', hi', hch⟩ := intoRoot_eq _ _
    rw [hi']
    refine .inr (KeptIn.of_rebuilt ?_ hch)
    exact h.children.keptChildren hex i.dependsOnColumn p' (e.oldEnd.bytes == e.start.bytes)
      (next + 1) hspl (he.isInsertion hspl.start_le) (Length.covers_zero (Nat.zero_le _)) rfl
      (.pending he (Nat.zero_le _) fun h => absurd h (Nat.lt_irrefl 0))

end Subtree

/-- Editing a tree that tiles a text, over children that examined as far as theirs, marks
    every subtree whose examined text changed: a subtree of the edited tree that is not
    marked as changed stands in the old tree, and the text it examined, its padding, its
    text and its lookahead, is the same in the old and the new text, as far as each goes. -/
theorem SyntaxTree.edit_keeps_examined {t : SyntaxTree} {X Y : List UInt8} {s o n : Nat}
    {edit : Edit} (h : t.root.Tiles X) (hex : ∀ c ∈ t.root.children, c.Examines)
    (hspl : Splice X Y s o n)
    (he : LocalEdit.Replaces ⟨⟨edit.startByte, edit.startPoint⟩, ⟨edit.oldEndByte, edit.oldEndPoint⟩,
      ⟨edit.newEndByte, edit.newEndPoint⟩⟩ X Y s o n 0) (next : Nat) {u : Subtree} {p' : Nat}
    (hu : Subtree.Occurs (t.edit edit next).1.root 0 u p') (hkept : u.hasChanges = false) :
    ∃ p, Subtree.Occurs t.root 0 u p ∧ ExaminedAgree X p Y p' u.examinedBytes := by
  have hp' : p' ≤ Y.length := (SyntaxTree.edit_tiles h hspl he next).occurs_le hu
  rcases Subtree.Tiles.kept h hex hspl he next with ⟨rfl, hsame⟩ | hk
  · -- an empty edit at the end of the text changes nothing
    rw [show (t.edit edit next).1.root = t.root from hsame] at hu
    exact ⟨p', hu, rfl, Iff.rfl⟩
  · obtain ⟨p, hp, hat⟩ := hk u p' hu hkept
    exact ⟨p, hp, hat.agree hspl (h.occurs_le hp) hp'⟩

end IncrementalLR
