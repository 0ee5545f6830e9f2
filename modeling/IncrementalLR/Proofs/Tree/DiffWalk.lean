import IncrementalLR.Proofs.Tree.EditGeometry
import IncrementalLR.Tree.Diff

/-!
# Walks through a tree for comparison

A walk that compares two trees keeps the path from the root down to its current subtree.
-/

namespace IncrementalLR

open Subtree

theorem nodeCountList_append (xs ys : List Subtree) :
    nodeCountList (xs ++ ys) = nodeCountList xs + nodeCountList ys := by
  induction xs with
  | nil => simp [nodeCountList]
  | cons x xs ih => simp only [List.cons_append, nodeCountList, ih]; omega

/-- The children of a spanning subtree span the text from its start and end within it. -/
theorem Subtree.Spans.children_within {X : List UInt8} {a : Nat} {t : Subtree} (h : Spans X a t) :
    SpansList X a t.children ∧ (totalOf t.children).bytes ≤ t.totalBytes := by
  by_cases hcs : t.children = []
  · rw [hcs]
    exact ⟨.nil (Nat.le_trans (Nat.le_add_right _ _) h.le), by simp⟩
  · obtain ⟨hlist, htotal⟩ := h.children hcs
    exact ⟨hlist, by rw [htotal]; rfl⟩

/-- Where the subtree of an entry ends, in bytes. -/
def DiffEntry.endBytes (e : DiffEntry) : Nat := e.position.bytes + e.tree.totalBytes

namespace DiffWalk

/-! ### Paths and what is left to pass -/

/-- The path of a walk through `root`, top first: the bottom entry holds `root`, with its
    padding at the start of the text, and every other entry holds a child of the entry
    below it, with its later siblings and where its padding starts. -/
inductive Path (root : Subtree) : List DiffEntry → Prop
  | root {e : DiffEntry} : e.tree = root → e.position.bytes = 0 → e.later = [] → Path root [e]
  | child {e p : DiffEntry} {rest : List DiffEntry} {earlier : List Subtree} :
      Path root (p :: rest) → p.tree.children = earlier ++ e.tree :: e.later →
      e.position.bytes = p.position.bytes + (totalOf earlier).bytes → Path root (e :: p :: rest)

/-- The nodes of the later siblings along a path. -/
def laterNodes : List DiffEntry → Nat
  | [] => 0
  | e :: rest => nodeCountList e.later + laterNodes rest

/-- What a walk has still to pass: every node after the start of its current piece, twice,
    for its padding and for its text, and the current subtree's text when the walk stands
    in its padding. -/
def remaining (w : DiffWalk) : Nat :=
  match w.stack with
  | [] => 0
  | e :: rest =>
    2 * (nodeCountList e.tree.children + laterNodes (e :: rest)) + if w.inPadding then 1 else 0

@[simp] theorem laterNodes_nil : laterNodes [] = 0 := rfl

@[simp] theorem laterNodes_cons (e : DiffEntry) (rest : List DiffEntry) :
    laterNodes (e :: rest) = nodeCountList e.later + laterNodes rest := rfl

@[simp] theorem onto_tree (t : Subtree) (position : Length) (index : Nat) (later : List Subtree)
    (below : List DiffEntry) : (DiffEntry.onto t position index later below).tree = t := rfl

@[simp] theorem onto_position (t : Subtree) (position : Length) (index : Nat)
    (later : List Subtree) (below : List DiffEntry) :
    (DiffEntry.onto t position index later below).position = position := rfl

@[simp] theorem onto_later (t : Subtree) (position : Length) (index : Nat) (later : List Subtree)
    (below : List DiffEntry) : (DiffEntry.onto t position index later below).later = later := rfl

@[simp] theorem note_stack (w : DiffWalk) (t : Subtree) : (w.note t).stack = w.stack := by
  unfold note; split <;> rfl

@[simp] theorem note_inPadding (w : DiffWalk) (t : Subtree) : (w.note t).inPadding = w.inPadding := by
  unfold note; split <;> rfl

theorem remaining_eq {w : DiffWalk} {e : DiffEntry} {rest : List DiffEntry} (h : w.stack = e :: rest) :
    w.remaining = 2 * (nodeCountList e.tree.children + laterNodes (e :: rest)) +
      if w.inPadding then 1 else 0 := by
  rw [remaining, h]

/-- Where the current piece ends, in bytes: after the top subtree's padding, and after its
    text unless the walk stands in the padding. -/
theorem endPosition_bytes_eq {w : DiffWalk} {e : DiffEntry} {rest : List DiffEntry}
    (h : w.stack = e :: rest) :
    w.endPosition.bytes = e.position.bytes + e.tree.padding.bytes +
      if w.inPadding then 0 else e.tree.size.bytes := by
  simp only [endPosition, h]
  cases w.inPadding <;> simp

/-- The measure and the end of the current piece depend only on the path and on whether
    the walk stands in padding. -/
theorem remaining_congr {w w' : DiffWalk} (hs : w'.stack = w.stack) (hp : w'.inPadding = w.inPadding) :
    w'.remaining = w.remaining := by
  rw [remaining, remaining, hs, hp]

@[simp] theorem remaining_mk (e : DiffEntry) (rest : List DiffEntry) (d : Nat) (p : Bool)
    (l : Option Subtree) :
    remaining ⟨e :: rest, d, p, l⟩ =
      2 * (nodeCountList e.tree.children + laterNodes (e :: rest)) + if p then 1 else 0 := rfl

@[simp] theorem endPosition_bytes_mk (e : DiffEntry) (rest : List DiffEntry) (d : Nat) (p : Bool)
    (l : Option Subtree) :
    (⟨e :: rest, d, p, l⟩ : DiffWalk).endPosition.bytes =
      e.position.bytes + e.tree.padding.bytes + if p then 0 else e.tree.size.bytes :=
  endPosition_bytes_eq rfl

theorem endPosition_congr {w w' : DiffWalk} (hs : w'.stack = w.stack) (hp : w'.inPadding = w.inPadding) :
    w'.endPosition = w.endPosition := by
  rw [endPosition, endPosition, hs, hp]

namespace Path

variable {root : Subtree}

theorem ne_nil {stack : List DiffEntry} (h : Path root stack) : stack ≠ [] := by
  cases h <;> simp

theorem tail {e p : DiffEntry} {rest : List DiffEntry} (h : Path root (e :: p :: rest)) :
    Path root (p :: rest) := by
  cases h with
  | child hp _ _ => exact hp

/-- Every nonempty suffix of a path is a path. -/
theorem drop {stack : List DiffEntry} (h : Path root stack) (k : Nat) (hk : k < stack.length) :
    Path root (stack.drop k) := by
  induction k generalizing stack with
  | zero => simpa using h
  | succ k ih =>
    match stack, h with
    | [_], _ => simp at hk
    | _ :: p :: rest, h =>
      rw [List.drop_succ_cons]
      exact ih h.tail (by simp at hk ⊢; omega)

/-- The later siblings along a path, the current subtree and the entries below it are
    different nodes of the root. -/
theorem count_le {e : DiffEntry} {rest : List DiffEntry} (h : Path root (e :: rest)) :
    laterNodes (e :: rest) + e.tree.nodeCount + rest.length ≤ root.nodeCount := by
  generalize hs : e :: rest = stack at h
  induction h generalizing e rest with
  | root htree _ hlater =>
    obtain ⟨rfl, rfl⟩ := List.cons.inj hs
    simp [hlater, htree, nodeCountList]
  | @child e' p rest' earlier hp hchildren _ ih =>
    obtain ⟨rfl, rfl⟩ := List.cons.inj hs
    have hp' := ih rfl
    have hcount := ReuseCursor.nodeCount_eq p.tree
    rw [hchildren, nodeCountList_append] at hcount
    simp only [laterNodes_cons, List.length_cons, nodeCountList] at hp' hcount ⊢
    omega

theorem length_le {stack : List DiffEntry} (h : Path root stack) : stack.length ≤ root.nodeCount := by
  match stack, h with
  | e :: rest, h =>
    have := h.count_le
    have := ReuseCursor.nodeCount_pos e.tree
    simp only [List.length_cons]
    omega

/-- A walk on a path has less than twice its tree's nodes left to pass. -/
theorem remaining_lt {w : DiffWalk} (h : Path root w.stack) : w.remaining < 2 * root.nodeCount := by
  match hs : w.stack, h with
  | e :: rest, h =>
    have hcount := h.count_le
    have hnode := ReuseCursor.nodeCount_eq e.tree
    rw [remaining_eq hs]
    split <;> omega

end Path

/-! ### Descending -/

/-- What a descent from `w` towards `goal` gives: the walk as it was, up to the scanner
    tokens it passed, or a longer path whose current piece ends after `goal`, with less
    than `bound` left to pass. -/
structure Descent (root : Subtree) (goal bound : Nat) (w : DiffWalk) (r : Bool × DiffWalk) : Prop where
  path : Path root r.2.stack
  moved : (r.1 = false ∧ r.2.stack = w.stack ∧ r.2.inPadding = w.inPadding) ∨
    (goal < r.2.endPosition.bytes ∧ r.2.remaining < bound)

namespace Descent

variable {root : Subtree} {goal bound : Nat} {w : DiffWalk} {r : Bool × DiffWalk}

/-- A descent from a walk that differs only in the scanner tokens it passed is one from
    the walk, with any larger bound. -/
theorem of_same {w' : DiffWalk} {bound' : Nat} (h : Descent root goal bound w' r)
    (hs : w'.stack = w.stack) (hp : w'.inPadding = w.inPadding) (hb : bound ≤ bound') :
    Descent root goal bound' w r := by
  refine ⟨h.path, ?_⟩
  rcases h.moved with ⟨h1, hs', hp'⟩ | ⟨hg, hr⟩
  · exact .inl ⟨h1, hs'.trans hs, hp'.trans hp⟩
  · exact .inr ⟨hg, by omega⟩

theorem remaining_le (h : Descent root goal w.remaining w r) : r.2.remaining ≤ w.remaining := by
  rcases h.moved with ⟨-, hs, hp⟩ | ⟨-, hr⟩
  · exact (remaining_congr hs hp).le
  · exact hr.le

theorem le_end (h : Descent root goal bound w r) (hw : goal ≤ w.endPosition.bytes) :
    goal ≤ r.2.endPosition.bytes := by
  rcases h.moved with ⟨-, hs, hp⟩ | ⟨hg, -⟩
  · rwa [endPosition_congr hs hp]
  · exact hg.le

theorem lt_end (h : Descent root goal bound w r) (h1 : r.1 = true) : goal < r.2.endPosition.bytes := by
  rcases h.moved with ⟨h1', -, -⟩ | ⟨hg, -⟩
  · rw [h1] at h1'; cases h1'
  · exact hg

end Descent

variable {root : Subtree} {goal : Nat}

mutual

/-- Descending into the top subtree of a walk on a path. -/
theorem descendInto_descent : ∀ (t : Subtree) (w : DiffWalk) (position : Length) {e : DiffEntry}
    {below : List DiffEntry}, w.stack = e :: below → e.tree = t → e.position = position →
    Path root w.stack → w.inPadding = false →
    Descent root goal (2 * (nodeCountList t.children + laterNodes w.stack)) w
      (diffDescendInto goal w t position)
  | .mk _ cs, w, position, e, below, hw, ht, hpos, hp, hpad => by
    rw [diffDescendInto]
    exact descendAmong_descent cs w position 0 [] hw hp hpad (by rw [ht]; rfl)
      (by simp [hpos])

/-- Descending into the first of the remaining children `cs` of the top subtree that ends
    after the goal; `earlier` are the children passed. -/
theorem descendAmong_descent : ∀ (cs : List Subtree) (w : DiffWalk) (position : Length) (index : Nat)
    (earlier : List Subtree) {e : DiffEntry} {below : List DiffEntry},
    w.stack = e :: below → Path root w.stack → w.inPadding = false →
    e.tree.children = earlier ++ cs → position.bytes = e.position.bytes + (totalOf earlier).bytes →
    Descent root goal (2 * (nodeCountList cs + laterNodes w.stack)) w
      (diffDescendAmong goal w position index cs)
  | [], w, _, _, _, _, _, _, hp, _, _, _ => by
    rw [diffDescendAmong]
    exact ⟨hp, .inl ⟨rfl, rfl, rfl⟩⟩
  | c :: rest, w, position, index, earlier, e, below, hw, hp, hpad, hcs, hpos => by
    rw [diffDescendAmong]
    dsimp only
    have hpath : Path root (DiffEntry.onto c position index rest w.stack :: w.stack) := by
      rw [hw] at hp ⊢
      exact .child hp (by simpa using hcs) (by simpa using hpos)
    have hcount := ReuseCursor.nodeCount_eq c
    split
    · rename_i hright
      split
      · -- a visible child: the walk stops at it, in its padding if its text starts after goal
        split
        · rename_i hleft
          refine ⟨hpath, .inr ⟨?_, ?_⟩⟩
          · simpa using hleft
          · simp [nodeCountList]
            omega
        · refine ⟨hpath, .inr ⟨?_, ?_⟩⟩
          · simpa [hpad, Nat.add_assoc] using hright
          · simp [hpad, nodeCountList]
            omega
      · -- a hidden child: the walk goes on into its children
        have hd := descendInto_descent c { w with stack := DiffEntry.onto c position index rest w.stack :: w.stack }
          position rfl rfl rfl hpath hpad
        refine ⟨hd.path, .inr ?_⟩
        rcases hd.moved with ⟨-, hs, hp'⟩ | ⟨hg, hr⟩
        · rw [endPosition_congr hs hp', remaining_congr hs hp']
          refine ⟨by simpa [hpad, Nat.add_assoc] using hright, ?_⟩
          simp [hpad, nodeCountList]
          omega
        · refine ⟨hg, ?_⟩
          simp only [laterNodes_cons, onto_later, nodeCountList] at hr ⊢
          omega
    · -- the child ends at or before the goal: it is passed
      have hd := descendAmong_descent rest (w.note c) ((position.add c.padding).add c.size) (index + 1)
        (earlier ++ [c]) (by rw [note_stack, hw]) (by rwa [note_stack])
        (by rwa [note_inPadding]) (by rw [hcs, List.append_assoc]; rfl)
        (by simp [hpos, totalOf_append, Nat.add_assoc, totalBytes])
      refine hd.of_same (note_stack w c) (note_inPadding w c) ?_
      rw [note_stack]
      simp only [nodeCountList]
      omega

end

/-- Descending from a walk on a path. -/
theorem descend_descent (goal : Nat) {w : DiffWalk} (hp : Path root w.stack) :
    Descent root goal w.remaining w (w.descend goal) := by
  unfold descend
  split
  · exact ⟨hp, .inl ⟨rfl, rfl, rfl⟩⟩
  · rename_i hpad
    split
    · rename_i e rest hs
      have hd : Descent root goal _ w _ :=
        descendInto_descent e.tree w e.position hs rfl rfl hp (by simpa using hpad)
      rwa [remaining_eq hs, if_neg hpad, Nat.add_zero, ← hs]
    · exact ⟨hp, .inl ⟨rfl, rfl, rfl⟩⟩

/-! ### Advancing -/

/-- Climbing from a walk on a path, with fuel for its whole path, leaves the tree or moves
    on to a later sibling of a subtree on the path, with less left to pass than the later
    siblings along the path. -/
theorem climb_spec : ∀ (fuel : Nat) (w : DiffWalk), Path root w.stack → w.inPadding = false →
    w.stack.length ≤ fuel →
    (climb fuel w).stack = [] ∨
      (Path root (climb fuel w).stack ∧ (climb fuel w).remaining < 2 * laterNodes w.stack)
  | 0, w, hp, _, hlen => absurd (List.length_eq_zero_iff.1 (by omega)) hp.ne_nil
  | fuel + 1, w, hp, hpad, hlen => by
    obtain ⟨e, rest, hs⟩ := List.exists_cons_of_ne_nil hp.ne_nil
    rw [climb]
    dsimp only
    -- lowering the visible depth leaves the path and the padding as they are
    generalize hw1 : (if w.topVisible = true then { w with visibleDepth := w.visibleDepth - 1 } else w) = w1
    have hs1 : w1.stack = e :: rest := by rw [← hw1]; split <;> exact hs
    have hpad1 : w1.inPadding = false := by rw [← hw1]; split <;> exact hpad
    simp only [hs1]
    match rest, hp with
    | [], _ => exact .inl rfl
    | p :: rest', hp =>
      rw [hs] at hp hlen ⊢
      dsimp only
      cases hlater : e.later with
      | nil =>
        -- no later sibling: climb on from the subtree below
        have ih := climb_spec fuel ({ w1 with stack := p :: rest' }.note e.tree) (by simpa using hp.tail)
          (by simpa using hpad1) (by simp at hlen ⊢; omega)
        simpa [hlater, nodeCountList] using ih
      | cons next later =>
        dsimp only
        cases hp with
        | @child _ _ _ earlier hpp hch hpos =>
        -- the next sibling, pushed in place of the subtree climbed out of
        have hpath : Path root (DiffEntry.onto next (e.position.add e.tree.totalSize)
            (e.childIndex + 1) later (p :: rest') :: p :: rest') := by
          have hch' : p.tree.children = (earlier ++ [e.tree]) ++ next :: later := by simp [hch, hlater]
          exact .child hpp hch' (by simp [hpos, totalOf_append, Nat.add_assoc, totalBytes])
        have hcount := ReuseCursor.nodeCount_eq next
        have hbound : laterNodes (e :: p :: rest') =
            nodeCountList next.children + 1 + nodeCountList later + laterNodes (p :: rest') := by
          simp only [laterNodes_cons, hlater, nodeCountList]
          omega
        split
        · -- a visible sibling: the walk stands in its padding, or at its text
          split
          · exact .inr ⟨hpath, by simp only [remaining_mk, onto_tree, hbound]; simp; omega⟩
          · exact .inr ⟨hpath, by simp only [remaining_mk, onto_tree, hbound]; simp [hpad1]; omega⟩
        · -- a hidden sibling: the walk descends into it
          refine .inr ⟨(descend_descent 0 hpath).path, lt_of_le_of_lt (descend_descent 0 hpath).remaining_le ?_⟩
          simp only [remaining_mk, onto_tree, hbound]
          simp [hpad1]
          omega

/-- Advancing a walk on a path, with fuel for any path through the tree, leaves the tree or
    lowers what is left to pass. -/
theorem advance_spec {bound : Nat} {w : DiffWalk} (hp : Path root w.stack)
    (hbound : root.nodeCount ≤ bound) :
    (w.advance bound).stack = [] ∨
      (Path root (w.advance bound).stack ∧ (w.advance bound).remaining < w.remaining) := by
  obtain ⟨e, rest, hs⟩ := List.exists_cons_of_ne_nil hp.ne_nil
  unfold advance
  split
  · -- out of the padding, into the subtree's text: that alone lowers the measure by one
    rename_i hpad
    have hout : ({ w with inPadding := false } : DiffWalk).remaining + 1 = w.remaining := by
      rw [remaining_eq hs, remaining_eq (w := { w with inPadding := false }) hs]
      simp [hpad]
    dsimp only
    split
    · refine .inr ⟨hp, ?_⟩
      have : ({ w with visibleDepth := w.visibleDepth + 1, inPadding := false } : DiffWalk).remaining =
          ({ w with inPadding := false } : DiffWalk).remaining := remaining_congr rfl rfl
      omega
    · have hd := descend_descent 0 (w := { w with inPadding := false }) hp
      exact .inr ⟨hd.path, by have := hd.remaining_le; omega⟩
  · -- on to the next subtree
    rename_i hpad
    rcases climb_spec bound w hp (by simpa using hpad) (hp.length_le.trans hbound) with h | ⟨hpath, hrem⟩
    · exact .inl h
    · refine .inr ⟨hpath, lt_of_lt_of_le hrem ?_⟩
      rw [remaining_eq hs, hs]
      simp only [laterNodes_cons]
      omega

/-- With more moves than the walk has left to pass, advancing towards `goal` leaves the
    tree or stops at a piece that ends after `goal`. -/
theorem advanceTo_go_spec {fuel : Nat} (hfuel : root.nodeCount ≤ fuel) :
    ∀ (k : Nat) (w : DiffWalk), w.stack = [] ∨ (Path root w.stack ∧ w.remaining < k) →
    (advanceTo.go goal fuel k w).stack = [] ∨
      (Path root (advanceTo.go goal fuel k w).stack ∧
        goal < (advanceTo.go goal fuel k w).endPosition.bytes)
  | 0, w, .inl hs => by rw [advanceTo.go]; exact .inl hs
  | 0, _, .inr ⟨_, hk⟩ => absurd hk (Nat.not_lt_zero _)
  | k + 1, w, hw => by
    rw [advanceTo.go]
    split
    · rename_i hmove
      simp only [Bool.and_eq_true, Bool.not_eq_true', decide_eq_true_eq, done,
        List.isEmpty_eq_false_iff] at hmove
      rcases hw with hs | ⟨hp, hk⟩
      · exact absurd hs hmove.1
      · refine advanceTo_go_spec hfuel k _ ?_
        rcases advance_spec hp hfuel with h | ⟨hpath, hrem⟩
        · exact .inl h
        · exact .inr ⟨hpath, by omega⟩
    · rename_i hstay
      simp only [Bool.and_eq_true, Bool.not_eq_true', decide_eq_true_eq, done,
        List.isEmpty_eq_false_iff, not_and, not_le] at hstay
      rcases hw with hs | ⟨hp, -⟩
      · exact .inl hs
      · exact .inr ⟨hp, hstay hp.ne_nil⟩

/-- Advancing a walk on a path towards `goal`, with fuel for twice the tree's nodes, leaves
    the tree or stops at a piece that ends after `goal`. -/
theorem advanceTo_spec (goal : Nat) {fuel : Nat} {w : DiffWalk} (hp : Path root w.stack)
    (hfuel : 2 * root.nodeCount ≤ fuel) :
    (w.advanceTo goal fuel).stack = [] ∨
      (Path root (w.advanceTo goal fuel).stack ∧ goal < (w.advanceTo goal fuel).endPosition.bytes) :=
  advanceTo_go_spec (by omega) fuel w (.inr ⟨hp, hp.remaining_lt.trans_le hfuel⟩)

/-! ### Climbing out -/

/-- Climbing out towards visible depth `d`, with fuel for the whole path: the walk leaves
    the tree, stays where it is because it is no deeper than `d`, or stands at the text of a
    subtree further down its path. -/
theorem ascendTo_spec (d : Nat) : ∀ (fuel : Nat) (w : DiffWalk), w.stack.length ≤ fuel →
    (ascendTo d fuel w).stack = [] ∨ (ascendTo d fuel w = w ∧ w.visibleDepth ≤ d) ∨
      ∃ k, 0 < k ∧ (ascendTo d fuel w).stack = w.stack.drop k ∧ (ascendTo d fuel w).inPadding = false
  | 0, w, hlen => by
    rw [ascendTo]
    exact .inl (List.length_eq_zero_iff.1 (by omega))
  | fuel + 1, w, hlen => by
    rw [ascendTo]
    split
    · rename_i hdeep
      match hs : w.stack with
      | [] =>
        have hnil : w.ascend = w := by rw [ascend, hs]
        rw [hnil]
        rcases ascendTo_spec d fuel w (by simp [hs]) with h | ⟨h, -⟩ | ⟨k, -, h, -⟩
        · exact .inl h
        · exact .inl (by rw [h, hs])
        · exact .inl (by rw [h, hs, List.drop_nil])
      | e :: rest =>
        have hup : w.ascend.stack = rest := by rw [ascend, hs]
        rcases ascendTo_spec d fuel w.ascend (by rw [hs] at hlen; simp at hlen; rw [hup]; omega)
          with h | ⟨h, hd⟩ | ⟨k, hk, h, hpad⟩
        · exact .inl h
        · -- stopping right after one step up: that step left the text of a visible subtree
          right; right
          refine ⟨1, Nat.one_pos, by rw [h, hup]; rfl, ?_⟩
          rw [h]
          simp only [ascend, hs] at hd ⊢
          split at hd
          · rename_i hvis
            simp only [Bool.and_eq_true, Bool.not_eq_true'] at hvis
            split <;> simp [hvis.2]
          · omega
        · exact .inr (.inr ⟨k + 1, Nat.succ_pos k, by rw [h, hup]; rfl, hpad⟩)
    · rename_i hshallow
      exact .inr (.inl ⟨rfl, by omega⟩)

/-! ### On a tiled text -/

variable {X : List UInt8}

/-- On a text its root tiles, the subtree of every entry of a path has children that span
    the text from its start and end within it, and ends within the text. -/
theorem Path.placed (ht : Tiles X root) : ∀ {stack : List DiffEntry}, Path root stack →
    ∀ {e : DiffEntry} {rest : List DiffEntry}, stack = e :: rest →
    SpansList X e.position.bytes e.tree.children ∧
      (totalOf e.tree.children).bytes ≤ e.tree.totalBytes ∧ e.endBytes ≤ X.length
  | _, .root htree hpos _, _, _, hs => by
    obtain ⟨rfl, -⟩ := List.cons.inj hs
    have hlen := ht.totalBytes
    have hcs := ht.children.covers.le
    rw [← htree] at hlen hcs
    refine ⟨by rw [hpos, htree]; exact ht.children, by omega, ?_⟩
    simp [DiffEntry.endBytes, hpos, hlen]
  | _, .child hp hch hpos, _, _, hs => by
    obtain ⟨rfl, -⟩ := List.cons.inj hs
    obtain ⟨hlist, -, -⟩ := Path.placed ht hp rfl
    rw [hch] at hlist
    obtain ⟨-, hafter⟩ := hlist.of_append
    rw [← hpos] at hafter
    cases hafter with
    | cons hspans _ => exact ⟨hspans.children_within.1, hspans.children_within.2, hspans.le⟩

/-- Down a path on a tiled text, each subtree ends within the one below it. -/
theorem Path.endBytes_le_below (ht : Tiles X root) {e p : DiffEntry} {rest : List DiffEntry}
    (h : Path root (e :: p :: rest)) : e.endBytes ≤ p.endBytes := by
  cases h with
  | @child _ _ _ earlier hp hch hpos =>
    obtain ⟨-, hwithin, -⟩ := hp.placed ht rfl
    rw [hch, totalOf_append, totalOf_cons] at hwithin
    simp only [Length.bytes_add, totalSize_bytes] at hwithin
    simp only [DiffEntry.endBytes, hpos]
    omega

/-- A subtree further down a path ends no earlier than the current one. -/
theorem Path.endBytes_le_drop (ht : Tiles X root) : ∀ (k : Nat) {stack : List DiffEntry},
    Path root stack → ∀ {e a : DiffEntry} {rest rest' : List DiffEntry}, stack = e :: rest →
    stack.drop k = a :: rest' → e.endBytes ≤ a.endBytes
  | 0, _, _, _, _, _, _, hs, hk => by
    rw [hs, List.drop_zero] at hk
    obtain ⟨rfl, -⟩ := List.cons.inj hk
    exact Nat.le_refl _
  | k + 1, stack, h, e, a, rest, rest', hs, hk => by
    subst hs
    match rest, h with
    | [], _ => simp at hk
    | p :: rest'', h =>
      rw [List.drop_succ_cons] at hk
      exact (h.endBytes_le_below ht).trans (Path.endBytes_le_drop ht k h.tail rfl hk)

theorem endPosition_le_endBytes {w : DiffWalk} {e : DiffEntry} {rest : List DiffEntry}
    (hs : w.stack = e :: rest) : w.endPosition.bytes ≤ e.endBytes := by
  rw [endPosition_bytes_eq hs, DiffEntry.endBytes, totalBytes]
  split <;> omega

theorem endPosition_eq_endBytes {w : DiffWalk} {e : DiffEntry} {rest : List DiffEntry}
    (hs : w.stack = e :: rest) (hpad : w.inPadding = false) : w.endPosition.bytes = e.endBytes := by
  rw [endPosition_bytes_eq hs, hpad, DiffEntry.endBytes, totalBytes]
  simp [Nat.add_assoc]

/-- The current piece of a walk on a path ends within the text. -/
theorem Path.endPosition_le (ht : Tiles X root) {w : DiffWalk} (h : Path root w.stack) :
    w.endPosition.bytes ≤ X.length := by
  obtain ⟨e, rest, hs⟩ := List.exists_cons_of_ne_nil h.ne_nil
  exact (endPosition_le_endBytes hs).trans (h.placed ht hs).2.2

/-- Climbing out, with fuel for the whole path, leaves the tree or moves the end of the
    current piece nowhere back. -/
theorem ascendTo_end (ht : Tiles X root) {d fuel : Nat} {w : DiffWalk} (hp : Path root w.stack)
    (hfuel : w.stack.length ≤ fuel) :
    (w.ascendTo d fuel).stack = [] ∨
      (Path root (w.ascendTo d fuel).stack ∧ w.endPosition.bytes ≤ (w.ascendTo d fuel).endPosition.bytes) := by
  rcases ascendTo_spec d fuel w hfuel with h | ⟨h, -⟩ | ⟨k, hk, h, hpad⟩
  · exact .inl h
  · rw [h]; exact .inr ⟨hp, Nat.le_refl _⟩
  · obtain ⟨e, rest, hs⟩ := List.exists_cons_of_ne_nil hp.ne_nil
    by_cases hkl : k < w.stack.length
    · obtain ⟨a, rest', hd⟩ := List.exists_cons_of_ne_nil (hp.drop k hkl).ne_nil
      refine .inr ⟨by rw [h]; exact hp.drop k hkl, ?_⟩
      rw [endPosition_eq_endBytes (h.trans hd) hpad]
      exact (endPosition_le_endBytes hs).trans (hp.endBytes_le_drop ht k hs hd)
    · exact .inl (by rw [h]; exact List.drop_eq_nil_of_le (by omega))

end DiffWalk

end IncrementalLR
