import IncrementalLR.Proofs.Tree.VisibleChildren

/-!
# The children a cursor walks

A cursor that moves to the first child of a node and then from sibling to sibling stands on
the node's visible children, one after another, and then stops.
-/

namespace IncrementalLR

open Subtree

namespace CursorEntry

/-- Where the text after the entry's subtree ends, as the step to a later sibling finds it:
    back over its padding, then over all of it. -/
def after (e : CursorEntry) : Length :=
  ((e.position.retreat e.tree.padding).add e.tree.padding).add e.tree.size

/-- The visible children among the entry's later siblings. -/
def laterVisible (e : CursorEntry) : List SyntaxNode := visibleAmong e.later e.after

/-- The visible children a cursor at the entry stands for: the entry's node when it is
    visible, else the visible children it holds. -/
def visibleHere (e : CursorEntry) : List SyntaxNode :=
  if e.tree.isVisible then [e.node] else e.tree.visibleAt e.position

/-- The counts agree in the entry's subtree and in its later siblings. -/
def Agrees (e : CursorEntry) : Prop := e.tree.CountsAgree ∧ ∀ x ∈ e.later, x.CountsAgree

theorem after_of_position {e : CursorEntry} {from_ : Length}
    (h : e.position = from_.add e.tree.padding) : e.after = e.position.add e.tree.size := by
  rw [after, h, Length.retreat_add_cancel]

theorem visibleHere_of_visible {e : CursorEntry} (h : e.tree.isVisible = true) :
    e.visibleHere = [e.node] := by
  rw [visibleHere, if_pos h]

/-- An entry placed after its padding, from `from_`, stands for the visible children among
    it and its later siblings up to its own end, and the later ones hold the rest. -/
theorem visibleHere_append_laterVisible {e : CursorEntry} {from_ : Length}
    (h : e.position = from_.add e.tree.padding) :
    e.visibleHere ++ e.laterVisible = visibleAmong (e.tree :: e.later) from_ := by
  rw [visibleAmong_cons, ← h, laterVisible, after_of_position h, visibleHere]
  rfl

end CursorEntry

open CursorEntry

/-- The visible children a cursor has still to visit after the entries of `path`: those
    among the later siblings of each, innermost first. -/
def pendingVisible (path : List CursorEntry) : List SyntaxNode := path.flatMap laterVisible

@[simp] theorem pendingVisible_nil : pendingVisible [] = [] := rfl

@[simp] theorem pendingVisible_cons (e : CursorEntry) (path : List CursorEntry) :
    pendingVisible (e :: path) = e.laterVisible ++ pendingVisible path :=
  List.flatMap_cons

@[simp] theorem pendingVisible_append (path path' : List CursorEntry) :
    pendingVisible (path ++ path') = pendingVisible path ++ pendingVisible path' :=
  List.flatMap_append

/-! ### Counts that say where the visible children are -/

namespace Subtree

theorem visibleAt_ne_nil {t : Subtree} (h : t.CountsAgree) (hcount : 0 < t.info.visibleChildCount)
    (position : Length) : t.visibleAt position ≠ [] := by
  rw [← List.length_pos_iff, length_visibleAt t h]
  exact hcount

/-- A hidden child with no visible children adds nothing to the visible children among a
    list. -/
theorem visibleAmong_cons_of_hollow {c : Subtree} (hc : c.CountsAgree) (hvisible : c.isVisible = false)
    (hcount : c.info.visibleChildCount = 0) (rest : List Subtree) (from_ : Length) :
    visibleAmong (c :: rest) from_ = visibleAmong rest ((from_.add c.padding).add c.size) := by
  have hnil : c.visibleAt (from_.add c.padding) = [] := by
    rw [← List.length_eq_zero_iff, length_visibleAt c hc, hcount]
  rw [visibleAmong_cons, if_neg (by simp [hvisible]), hnil, List.nil_append]

mutual

/-- A subtree has fewer visible children than nodes. -/
theorem length_visibleAt_lt : ∀ (t : Subtree) (position : Length),
    (t.visibleAt position).length < t.nodeCount
  | .mk i cs, position => by
    rw [visibleAt, nodeCount]
    have := length_visibleAmong_le cs (position.retreat i.padding)
    omega

theorem length_visibleAmong_le : ∀ (cs : List Subtree) (from_ : Length),
    (visibleAmong cs from_).length ≤ nodeCountList cs
  | [], _ => by simp [nodeCountList]
  | c :: rest, from_ => by
    have hc := length_visibleAt_lt c (from_.add c.padding)
    have hrest := length_visibleAmong_le rest ((from_.add c.padding).add c.size)
    rw [visibleAmong_cons, List.length_append, nodeCountList]
    split
    · rw [List.length_singleton]
      omega
    · omega

end

end Subtree

/-! ### Where a move lands -/

/-- A cursor lands at `next`, on top of the hidden entries `new` it passed on the way down,
    with the visible children `pending` still to visit: the counts agree along the way,
    `next` is visible or holds a visible child, and what it stands for and what the new
    entries leave to visit are exactly `pending`. -/
structure StopsAt (next : CursorEntry) (new : List CursorEntry) (pending : List SyntaxNode) :
    Prop where
  agrees : ∀ x ∈ next :: new, x.Agrees
  hidden : ∀ x ∈ new, x.tree.isVisible = false
  holds : next.visibleHere ≠ []
  eq : next.visibleHere ++ pendingVisible (next :: new) = pending

namespace StopsAt

variable {pending : List SyntaxNode} {next : CursorEntry} {new : List CursorEntry}

/-- A cursor lands at an entry that holds something visible, its later siblings pending. -/
theorem entry {e : CursorEntry} {from_ : Length} (h : e.position = from_.add e.tree.padding)
    (hagree : e.Agrees) (hholds : e.visibleHere ≠ []) :
    StopsAt e [] (visibleAmong (e.tree :: e.later) from_) where
  agrees := List.forall_mem_singleton.2 hagree
  hidden := by simp
  holds := hholds
  eq := by
    rw [pendingVisible_cons, pendingVisible_nil, List.append_nil]
    exact visibleHere_append_laterVisible h

/-- Hidden entries below a landing leave what they hold after it pending. -/
theorem append (h : StopsAt next new pending) {rest : List CursorEntry}
    (hagree : ∀ x ∈ rest, x.Agrees) (hhidden : ∀ x ∈ rest, x.tree.isVisible = false) :
    StopsAt next (new ++ rest) (pending ++ pendingVisible rest) where
  agrees x hx := by
    rw [← List.cons_append, List.mem_append] at hx
    exact hx.elim (h.agrees x) (hagree x)
  hidden x hx := (List.mem_append.1 hx).elim (h.hidden x) (hhidden x)
  holds := h.holds
  eq := by
    rw [← h.eq, ← List.cons_append, pendingVisible_append, List.append_assoc]

/-- Descending from a hidden landing into the visible children it holds lands at the
    first of them, the rest pending as before. -/
theorem descend (h : StopsAt next new pending) (hhidden : next.tree.isVisible = false)
    {e : CursorEntry} {inner : List CursorEntry} (hinner : StopsAt e inner (next.tree.visibleAt next.position)) :
    StopsAt e (inner ++ next :: new) pending := by
  have hall := hinner.append h.agrees
    (fun x hx => (List.mem_cons.1 hx).elim (fun hx => hx ▸ hhidden) (h.hidden x))
  rw [← h.eq, visibleHere, if_neg (by simp [hhidden])]
  exact hall

/-- A landing at a visible entry: its node comes first, then what its path leaves pending. -/
theorem eq_cons (h : StopsAt next new pending) (hvisible : next.tree.isVisible = true) :
    pending = next.node :: pendingVisible (next :: new) := by
  rw [← h.eq, visibleHere_of_visible hvisible]
  rfl

end StopsAt

/-- The entry on top of a path is visible, or the path is empty: a cursor with this path
    stands at a visible node or at its start. -/
def Capped (path : List CursorEntry) : Prop := ∀ e ∈ path.head?, e.tree.isVisible = true

theorem capped_dropWhile : ∀ path : List CursorEntry, Capped (path.dropWhile fun e => !e.tree.isVisible)
  | [] => by simp [Capped]
  | e :: rest => by
    rw [List.dropWhile_cons]
    split
    · exact capped_dropWhile rest
    · rename_i hvisible
      intro x hx
      cases hx
      simpa using hvisible

/-! ### Descending -/

/-- The first subtree a step to a sibling may land on, among `cs`: none when they hold
    nothing visible, else an entry that holds the first of their visible children. -/
theorem stopAmong_spec {above : Nat} {fields : List FieldEntry} {inherited : Option Nat} :
    ∀ (cs : List Subtree) (from_ : Length) (index structural : Nat), (∀ c ∈ cs, c.CountsAgree) →
      (stopAmong above fields inherited from_ index structural cs = none ∧ visibleAmong cs from_ = []) ∨
      ∃ next, stopAmong above fields inherited from_ index structural cs = some (next, next.tree.isVisible) ∧
        StopsAt next [] (visibleAmong cs from_)
  | [], _, _, _, _ => .inl ⟨rfl, visibleAmong_nil _⟩
  | c :: rest, from_, index, structural, h => by
    have hc := h c List.mem_cons_self
    have hrest : ∀ x ∈ rest, x.CountsAgree := fun x hx => h x (List.mem_cons_of_mem c hx)
    rw [stopAmong]
    split
    · rename_i hstop
      -- the child is visible or holds a visible child: the step lands on it
      refine .inr ⟨_, rfl, StopsAt.entry rfl ⟨hc, hrest⟩ ?_⟩
      cases hvisible : c.isVisible with
      | true => simp [visibleHere, hvisible]
      | false =>
        simp only [hvisible, Bool.false_or, decide_eq_true_eq] at hstop
        rw [visibleHere, if_neg (by simp [hvisible])]
        exact visibleAt_ne_nil hc hstop _
    · rename_i hskip
      simp only [Bool.or_eq_true, decide_eq_true_eq, not_or, Bool.not_eq_true, not_lt,
        Nat.le_zero] at hskip
      rw [visibleAmong_cons_of_hollow hc hskip.1 hskip.2]
      exact stopAmong_spec rest _ _ _ hrest

theorem nextStop_spec {e : CursorEntry} (h : ∀ x ∈ e.later, x.CountsAgree) :
    (e.nextStop = none ∧ e.laterVisible = []) ∨
      ∃ next, e.nextStop = some (next, next.tree.isVisible) ∧ StopsAt next [] e.laterVisible :=
  stopAmong_spec e.later e.after _ _ h

mutual

/-- Descending into a subtree that holds visible children lands on the first of them,
    through hidden ones, the rest pending. -/
theorem descendInto_spec {table : ParseTable} : ∀ (t : Subtree) (path : List CursorEntry)
    (above : Nat) (inherited : Option Nat) (position : Length), t.CountsAgree →
    t.visibleAt position ≠ [] →
    ∃ e new, descendInto table path above inherited t position = some (true, e :: new ++ path) ∧
      e.tree.isVisible = true ∧ StopsAt e new (t.visibleAt position)
  | .mk i cs, path, above, inherited, position, h, hne => by
    rw [descendInto]
    exact descendAmong_spec cs path above _ inherited _ 0 0 (fun c hc => h.child hc) hne

theorem descendAmong_spec {table : ParseTable} : ∀ (cs : List Subtree) (path : List CursorEntry)
    (above : Nat) (fields : List FieldEntry) (inherited : Option Nat) (from_ : Length)
    (index structural : Nat), (∀ c ∈ cs, c.CountsAgree) → visibleAmong cs from_ ≠ [] →
    ∃ e new, descendAmong table path above fields inherited from_ index structural cs =
        some (true, e :: new ++ path) ∧
      e.tree.isVisible = true ∧ StopsAt e new (visibleAmong cs from_)
  | [], _, _, _, _, _, _, _, _, hne => absurd (visibleAmong_nil _) hne
  | c :: rest, path, above, fields, inherited, from_, index, structural, h, hne => by
    have hc := h c List.mem_cons_self
    have hrest : ∀ x ∈ rest, x.CountsAgree := fun x hx => h x (List.mem_cons_of_mem c hx)
    rw [descendAmong]
    by_cases hvisible : c.isVisible = true
    · rw [if_pos hvisible]
      refine ⟨_, [], rfl, hvisible, StopsAt.entry rfl ⟨hc, hrest⟩ ?_⟩
      simp [visibleHere, hvisible]
    · rw [if_neg hvisible]
      by_cases hcount : c.info.visibleChildCount > 0
      · -- a hidden child that holds visible ones: the descent lands inside it
        rw [if_pos hcount]
        have hne' := visibleAt_ne_nil hc hcount (from_.add c.padding)
        have hentry : StopsAt ⟨c, from_.add c.padding, index, structural, rest, above, fields,
            inherited⟩ [] (visibleAmong (c :: rest) from_) :=
          StopsAt.entry rfl ⟨hc, hrest⟩ (by rw [visibleHere, if_neg hvisible]; exact hne')
        obtain ⟨e, new, hd, he, hstops⟩ := descendInto_spec c _ above _ _ hc hne'
        rw [hd, Option.getD_some]
        exact ⟨e, new ++ [_], by simp, he, hentry.descend (by simpa using hvisible) hstops⟩
      · rw [if_neg hcount]
        rw [visibleAmong_cons_of_hollow hc (by simpa using hvisible)
          (Nat.eq_zero_of_not_pos hcount)] at hne ⊢
        exact descendAmong_spec rest path above fields inherited _ _ _ hrest hne

end

theorem descendInto_eq_none {table : ParseTable} {t : Subtree} {path : List CursorEntry}
    {above : Nat} {inherited : Option Nat} {position : Length} (h : t.CountsAgree)
    (hnil : t.visibleAt position = []) :
    descendInto table path above inherited t position = none := by
  -- the descent finds nothing in any child: each is hidden with no visible children
  have hamong : ∀ (cs : List Subtree) (fields : List FieldEntry) (from_ : Length)
      (index structural : Nat), (∀ c ∈ cs, c.CountsAgree) → visibleAmong cs from_ = [] →
      descendAmong table path above fields inherited from_ index structural cs = none := by
    intro cs
    induction cs with
    | nil => intros; rfl
    | cons c rest ih =>
      intro fields from_ index structural hcs hnil
      have hc := hcs c List.mem_cons_self
      rw [visibleAmong_cons, List.append_eq_nil_iff] at hnil
      obtain ⟨hhere, hlater⟩ := hnil
      have hvisible : c.isVisible = false := by
        cases hv : c.isVisible
        · rfl
        · simp [hv] at hhere
      rw [if_neg (by simp [hvisible])] at hhere
      have hcount : c.info.visibleChildCount = 0 := by
        rw [← length_visibleAt c hc (from_.add c.padding), hhere, List.length_nil]
      rw [descendAmong, if_neg (by simp [hvisible]), if_neg (by omega)]
      exact ih _ _ _ _ (fun x hx => hcs x (List.mem_cons_of_mem c hx)) hlater
  obtain ⟨i, cs⟩ := t
  rw [descendInto]
  exact hamong cs _ _ 0 0 (fun c hc => h.child hc) hnil

/-! ### Climbing to a sibling -/

theorem siblingStep_false_of_capped {base : List CursorEntry} (h : Capped base) :
    TreeCursor.siblingStep false base = none := by
  cases base with
  | nil => rfl
  | cons b rest => rw [TreeCursor.siblingStep, if_pos (by simp [h b rfl])]

/-- From an entry the climb may start from, the step lands among its later siblings, or
    goes on up the path when they hold nothing visible. -/
theorem siblingStep_cons {isTop : Bool} {x : CursorEntry} (rest : List CursorEntry)
    (htop : isTop = true ∨ x.tree.isVisible = false) (hx : ∀ y ∈ x.later, y.CountsAgree) :
    (TreeCursor.siblingStep isTop (x :: rest) = TreeCursor.siblingStep false rest ∧
        x.laterVisible = []) ∨
      ∃ next, TreeCursor.siblingStep isTop (x :: rest) = some (next :: rest, next.tree.isVisible) ∧
        StopsAt next [] x.laterVisible := by
  have hclimb : (x.tree.isVisible && !isTop) = false := by
    rcases htop with rfl | hx <;> simp [*]
  rw [TreeCursor.siblingStep, if_neg (by simp [hclimb])]
  rcases nextStop_spec hx with ⟨hnone, hempty⟩ | ⟨next, hnext, hstops⟩
  · rw [hnone]
    exact .inl ⟨rfl, hempty⟩
  · rw [hnext]
    exact .inr ⟨next, rfl, hstops⟩

/-- Climbing through hidden entries `new` below a capped `base` lands on the first visible
    child they leave pending, or finds none when they leave none. -/
theorem siblingStep_false_spec {base : List CursorEntry} (hbase : Capped base)
    (new : List CursorEntry) (hagree : ∀ y ∈ new, y.Agrees)
    (hhidden : ∀ y ∈ new, y.tree.isVisible = false) :
    (TreeCursor.siblingStep false (new ++ base) = none ∧ pendingVisible new = []) ∨
      ∃ next new', TreeCursor.siblingStep false (new ++ base) =
          some (next :: new' ++ base, next.tree.isVisible) ∧
        StopsAt next new' (pendingVisible new) := by
  induction new with
  | nil => exact .inl ⟨siblingStep_false_of_capped hbase, rfl⟩
  | cons x new ih =>
    have hnew : ∀ y ∈ new, y.Agrees := fun y hy => hagree y (List.mem_cons_of_mem x hy)
    have hhid : ∀ y ∈ new, y.tree.isVisible = false :=
      fun y hy => hhidden y (List.mem_cons_of_mem x hy)
    rcases siblingStep_cons (new ++ base) (.inr (hhidden x List.mem_cons_self))
      (hagree x List.mem_cons_self).2 with ⟨hstep, hempty⟩ | ⟨next, hstep, hstops⟩
    · rw [List.cons_append, hstep, pendingVisible_cons, hempty, List.nil_append]
      exact ih hnew hhid
    · rw [List.cons_append, pendingVisible_cons]
      exact .inr ⟨next, new, hstep, hstops.append hnew hhid⟩

/-- A step to a sibling from the entry `e` on top of hidden entries `new` below a capped
    `base` lands on the first visible child they leave pending, or finds none when they
    leave none. -/
theorem siblingStep_true_spec {e : CursorEntry} {new base : List CursorEntry} (hbase : Capped base)
    (hagree : ∀ y ∈ e :: new, y.Agrees) (hhidden : ∀ y ∈ new, y.tree.isVisible = false) :
    (TreeCursor.siblingStep true (e :: new ++ base) = none ∧ pendingVisible (e :: new) = []) ∨
      ∃ next new', TreeCursor.siblingStep true (e :: new ++ base) =
          some (next :: new' ++ base, next.tree.isVisible) ∧
        StopsAt next new' (pendingVisible (e :: new)) := by
  have hnew : ∀ y ∈ new, y.Agrees := fun y hy => hagree y (List.mem_cons_of_mem e hy)
  rcases siblingStep_cons (new ++ base) (.inl rfl) (hagree e List.mem_cons_self).2 with
    ⟨hstep, hempty⟩ | ⟨next, hstep, hstops⟩
  · rw [List.cons_append, hstep, pendingVisible_cons, hempty, List.nil_append]
    exact siblingStep_false_spec hbase new hnew hhidden
  · rw [List.cons_append, pendingVisible_cons]
    exact .inr ⟨next, new, hstep, hstops.append hnew hhidden⟩

/-! ### Moves -/

namespace TreeCursor

variable {c : TreeCursor}

/-- Moving to the first child lands on the first visible child, or, where there is none,
    leaves the cursor where it was. -/
theorem gotoFirstChild_spec (hcur : c.current.tree.CountsAgree) :
    (c.gotoFirstChild = (false, c) ∧ c.node.visibleChildren = []) ∨
      ∃ e new, c.gotoFirstChild = (true, { c with path := e :: new ++ c.path }) ∧
        e.tree.isVisible = true ∧ StopsAt e new c.node.visibleChildren := by
  rw [gotoFirstChild_eq]
  by_cases hnil : c.node.visibleChildren = []
  · have hnil' : c.current.tree.visibleAt c.current.position = [] := hnil
    rw [descendInto_eq_none hcur hnil']
    exact .inl ⟨rfl, hnil⟩
  · obtain ⟨e, new, hd, he, hstops⟩ := descendInto_spec c.current.tree c.path c.depth _
      c.current.position hcur hnil
    rw [hd]
    exact .inr ⟨e, new, rfl, he, hstops⟩

/-- Moving to the next sibling from the top of hidden entries `e :: new` below a capped
    `base` lands on the first visible child they leave pending, or, where there is none,
    leaves the cursor where it was. -/
theorem gotoNextSibling_spec {e : CursorEntry} {new base : List CursorEntry}
    (hpath : c.path = e :: new ++ base) (hbase : Capped base) (hagree : ∀ x ∈ e :: new, x.Agrees)
    (hhidden : ∀ x ∈ new, x.tree.isVisible = false) :
    (c.gotoNextSibling = (false, c) ∧ pendingVisible (e :: new) = []) ∨
      ∃ next new', c.gotoNextSibling = (true, { c with path := next :: new' ++ base }) ∧
        next.tree.isVisible = true ∧ StopsAt next new' (pendingVisible (e :: new)) := by
  unfold TreeCursor.gotoNextSibling
  rw [hpath]
  rcases siblingStep_true_spec hbase hagree hhidden with
    ⟨hstep, hempty⟩ | ⟨next, new', hstep, hstops⟩
  · rw [hstep]
    exact .inl ⟨rfl, hempty⟩
  · rw [hstep]
    cases hvisible : next.tree.isVisible with
    | true => exact .inr ⟨next, new', rfl, hvisible, hstops⟩
    | false =>
      -- a hidden sibling that holds visible children: the cursor descends into it
      let landed : TreeCursor := { c with path := next :: new' ++ base }
      have hnext : landed.current.tree.CountsAgree := (hstops.agrees next List.mem_cons_self).1
      rcases gotoFirstChild_spec hnext with ⟨-, hnil⟩ | ⟨e', new'', hfirst, he', hinner⟩
      · have hne : next.tree.visibleAt next.position ≠ [] := by
          simpa [visibleHere, hvisible] using hstops.holds
        exact absurd hnil hne
      · refine .inr ⟨e', new'' ++ next :: new', ?_, he', hstops.descend hvisible hinner⟩
        change (true, landed.gotoFirstChild.2) = _
        rw [hfirst]
        simp [landed]

/-! ### The cursors that find the visible children -/

/-- A cursor at a visible node or at its start, with counts that agree in its start's
    subtree and along its path. -/
def Settled (c : TreeCursor) : Prop :=
  c.start.tree.CountsAgree ∧ (∀ e ∈ c.path, e.Agrees) ∧ Capped c.path

theorem Settled.current (h : c.Settled) : c.current.tree.CountsAgree := by
  unfold TreeCursor.current
  cases hpath : c.path with
  | nil => exact h.1
  | cons e rest => exact (h.2.1 e (by simp [hpath])).1

theorem Settled.withPath (h : c.Settled) {e : CursorEntry} {new base : List CursorEntry}
    (hnew : ∀ x ∈ e :: new, x.Agrees) (hbase : ∀ x ∈ base, x.Agrees)
    (hvisible : e.tree.isVisible = true) : ({ c with path := e :: new ++ base } : TreeCursor).Settled := by
  refine ⟨h.1, fun x hx => ?_, fun x hx => ?_⟩
  · exact (List.mem_append.1 hx).elim (hnew x) (hbase x)
  · cases hx
    exact hvisible

theorem Settled.dropWhile (h : c.Settled) {rest : List CursorEntry} (hrest : ∀ x ∈ rest, x.Agrees) :
    ({ c with path := rest.dropWhile fun e => !e.tree.isVisible } : TreeCursor).Settled :=
  ⟨h.1, fun x hx => hrest x ((List.dropWhile_sublist _).subset hx), capped_dropWhile rest⟩

/-- A path with a visible entry on top is that entry, the hidden entries below it, and a
    capped rest. -/
theorem split_hidden (e : CursorEntry) (rest : List CursorEntry) :
    e :: rest = e :: rest.takeWhile (fun x => !x.tree.isVisible) ++ rest.dropWhile fun x => !x.tree.isVisible := by
  rw [List.cons_append, List.takeWhile_append_dropWhile]

/-- Every move keeps a cursor settled. -/
theorem settled_moves : Moves Settled where
  firstChild c h := by
    rcases gotoFirstChild_spec h.current with ⟨hfirst, -⟩ | ⟨e, new, hfirst, he, hstops⟩
    · rw [hfirst]
      exact h
    · rw [hfirst]
      exact h.withPath hstops.agrees h.2.1 he
  nextSibling c h := by
    cases hpath : c.path with
    | nil =>
      have hstay : c.gotoNextSibling = (false, c) := by
        unfold TreeCursor.gotoNextSibling
        rw [hpath]
        rfl
      rw [hstay]
      exact h
    | cons e rest =>
      have hall : ∀ x ∈ e :: rest, x.Agrees := hpath ▸ h.2.1
      have hrest : ∀ x ∈ rest, x.Agrees := fun x hx => hall x (List.mem_cons_of_mem e hx)
      have hnew : ∀ x ∈ e :: rest.takeWhile (fun x => !x.tree.isVisible), x.Agrees :=
        fun x hx => hall x ((List.cons_subset_cons e (List.takeWhile_sublist _).subset) hx)
      have hhidden : ∀ x ∈ rest.takeWhile (fun x => !x.tree.isVisible), x.tree.isVisible = false :=
        fun x hx => by simpa using List.mem_takeWhile_imp hx
      rcases gotoNextSibling_spec (hpath.trans (split_hidden e rest)) (capped_dropWhile rest) hnew
        hhidden with ⟨hnext, -⟩ | ⟨next, new', hnext, hv, hstops⟩
      · rw [hnext]
        exact h
      · rw [hnext]
        exact h.withPath hstops.agrees (fun x hx => hrest x ((List.dropWhile_sublist _).subset hx)) hv
  parent c p h hp := by
    unfold TreeCursor.gotoParent at hp
    split at hp
    · cases hp
    · rename_i e rest hpath
      cases hp
      have hall : ∀ x ∈ e :: rest, x.Agrees := hpath ▸ h.2.1
      exact h.dropWhile fun x hx => hall x (List.mem_cons_of_mem e hx)

/-! ### Runs of siblings -/

/-- The nodes a cursor stands on moving from sibling to sibling, its own first, at most
    `fuel` of them. -/
def siblingRun : Nat → TreeCursor → List SyntaxNode
  | 0, _ => []
  | fuel + 1, c =>
    c.node :: match c.gotoNextSibling with
      | (true, c') => siblingRun fuel c'
      | (false, _) => []

/-- The nodes a cursor stands on moving to the first child and then from sibling to
    sibling, at most `fuel` of them. -/
def childRun (fuel : Nat) (c : TreeCursor) : List SyntaxNode :=
  match c.gotoFirstChild with
  | (true, c') => c'.siblingRun fuel
  | (false, _) => []

/-- From the top of hidden entries `e :: new` below a capped `base`, the siblings a cursor
    steps through are `e` and the visible children the entries leave pending. -/
theorem siblingRun_eq {base : List CursorEntry} (hbase : Capped base) :
    ∀ (fuel : Nat) {c : TreeCursor} {e : CursorEntry} {new : List CursorEntry},
      c.path = e :: new ++ base → (∀ x ∈ e :: new, x.Agrees) →
      (∀ x ∈ new, x.tree.isVisible = false) → (pendingVisible (e :: new)).length < fuel →
      c.siblingRun fuel = e.node :: pendingVisible (e :: new)
  | 0, _, _, _, _, _, _, hfuel => absurd hfuel (Nat.not_lt_zero _)
  | fuel + 1, c, e, new, hpath, hagree, hhidden, hfuel => by
    have hnode : c.node = e.node := by
      rw [node_eq_nodeIn, hpath]
      rfl
    rw [siblingRun, hnode]
    rcases gotoNextSibling_spec hpath hbase hagree hhidden with
      ⟨hnext, hempty⟩ | ⟨next, new', hnext, hv, hstops⟩
    · rw [hnext, hempty]
    · rw [hnext, hstops.eq_cons hv]
      dsimp only
      rw [hstops.eq_cons hv, List.length_cons] at hfuel
      rw [siblingRun_eq hbase fuel rfl hstops.agrees hstops.hidden (by omega)]

/-- A settled cursor that moves to the first child and then from sibling to sibling stands
    on the visible children of its node, in order, and on nothing else. -/
theorem Settled.childRun_eq (h : c.Settled) {fuel : Nat} (hfuel : c.node.visibleChildren.length < fuel) :
    c.childRun fuel = c.node.visibleChildren := by
  rcases gotoFirstChild_spec h.current with ⟨hfirst, hnil⟩ | ⟨e, new, hfirst, he, hstops⟩
  · rw [childRun, hfirst, hnil]
  · rw [childRun, hfirst]
    dsimp only
    rw [hstops.eq_cons he] at hfuel ⊢
    rw [List.length_cons] at hfuel
    exact siblingRun_eq h.2.2 fuel rfl hstops.agrees hstops.hidden (by omega)

/-! ### Moving to the first child past a byte -/

/-- The scan over the siblings finds the index of the first that ends past the byte,
    counted from `index`. -/
theorem gotoFirstChildForByte.scan_fst (byte : Nat) :
    ∀ (fuel index : Nat) (c : TreeCursor), (gotoFirstChildForByte.scan byte fuel index c).1 =
      ((c.siblingRun fuel).findIdx? fun n => n.endByte > byte).map (· + index)
  | 0, _, _ => rfl
  | fuel + 1, index, c => by
    rw [gotoFirstChildForByte.scan, siblingRun, List.findIdx?_cons]
    by_cases hend : c.node.endByte > byte
    · simp [hend]
    · rw [if_neg hend, if_neg (by simpa using hend)]
      cases hnext : c.gotoNextSibling with
      | mk moved c' =>
        cases moved with
        | true =>
          dsimp only
          rw [scan_fst byte fuel (index + 1) c', Option.map_map]
          congr 1
          funext i
          simp only [Function.comp_apply]
          omega
        | false => rfl

/-- Moving to the first child past a byte gives the index of the first child that ends past
    it, among those the first child and its next siblings stand on. -/
theorem gotoFirstChildForByte_fst (byte : Nat) :
    (c.gotoFirstChildForByte byte).1 =
      (c.childRun (c.current.tree.nodeCount + 1)).findIdx? fun n => n.endByte > byte := by
  rw [gotoFirstChildForByte, childRun]
  cases c.gotoFirstChild with
  | mk moved inside =>
    cases moved with
    | true =>
      dsimp only
      rw [gotoFirstChildForByte.scan_fst]
      simp
    | false => rfl

/-- A settled cursor moving to the first child past a byte finds the index, among the
    visible children of its node, of the first that ends past it. -/
theorem Settled.gotoFirstChildForByte_fst (h : c.Settled) (byte : Nat) :
    (c.gotoFirstChildForByte byte).1 = c.node.visibleChildren.findIdx? fun n => n.endByte > byte := by
  rw [TreeCursor.gotoFirstChildForByte_fst, h.childRun_eq]
  exact Nat.lt_succ_of_lt (length_visibleAt_lt _ _)

end TreeCursor

end IncrementalLR
