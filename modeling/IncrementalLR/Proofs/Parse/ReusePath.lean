import IncrementalLR.Parse.Reuse
import IncrementalLR.Proofs.Tree.DiffWalk

/-!
# The reuse cursor in document order

A reuse cursor walks an old tree in document order.
-/

namespace IncrementalLR

open Subtree

/-! ### Scanned leaves -/

/-- The last subtree among `xs` that a scanner produced. -/
def lastScanned (xs : List Subtree) : Option Subtree :=
  (xs.filter (·.hasExternalTokens)).getLast?

theorem lastScanned_append (xs ys : List Subtree) :
    lastScanned (xs ++ ys) = (lastScanned ys).or (lastScanned xs) := by
  simp [lastScanned, List.filter_append]

/-- The lengths of subtrees one after another, in bytes, are the sum of their lengths. -/
theorem totalOf_bytes (cs : List Subtree) : (totalOf cs).bytes = (cs.map totalBytes).sum := by
  induction cs with
  | nil => rfl
  | cons c cs ih => simp [ih]

/-- The scanner flags of a tree agree with its leaves: a node with children has the flag
    exactly when one of its children has it, and so on below. -/
inductive Subtree.FlagsAgree : Subtree → Prop
  | leaf {i : NodeInfo} : FlagsAgree (.mk i [])
  | node {i : NodeInfo} {c : Subtree} {cs : List Subtree} :
      i.hasExternalTokens = (c :: cs).any (·.hasExternalTokens) →
      (∀ x ∈ c :: cs, FlagsAgree x) → FlagsAgree (.mk i (c :: cs))

theorem Subtree.FlagsAgree.child {t c : Subtree} (h : t.FlagsAgree) (hc : c ∈ t.children) :
    c.FlagsAgree := by
  cases h with
  | leaf => cases hc
  | node _ hall => exact hall c hc

/-- A summary has the scanner flag exactly when one of the children it adds up has it. -/
theorem ChildSummary.ofChildren_hasExternalTokens (isError : Bool) (cs : List Subtree) :
    (ChildSummary.ofChildren isError cs).hasExternalTokens = cs.any (·.hasExternalTokens) := by
  have hfold : ∀ (s : ChildSummary), (cs.foldl (ChildSummary.add isError) s).hasExternalTokens =
      (s.hasExternalTokens || cs.any (·.hasExternalTokens)) := by
    induction cs with
    | nil => simp
    | cons c cs ih =>
      intro s
      rw [List.foldl_cons, ih, List.any_cons, ← Bool.or_assoc]
      rfl
  simpa [ChildSummary.ofChildren, ChildSummary.empty] using hfold ChildSummary.empty

/-- A node whose record is summarised from children with agreeing flags has agreeing
    flags: this is how the parser builds every inner node. -/
theorem Subtree.FlagsAgree.summarize (i : NodeInfo) {c : Subtree} {cs : List Subtree}
    (h : ∀ x ∈ c :: cs, x.FlagsAgree) : (Subtree.mk (i.summarize (c :: cs)) (c :: cs)).FlagsAgree :=
  .node (ChildSummary.ofChildren_hasExternalTokens _ _) h

/-- A list has a scanned leaf exactly when one of its members has. -/
theorem lastScanned_leavesOf_isSome (cs : List Subtree) :
    (lastScanned (leavesOf cs)).isSome = cs.any fun x => (lastScanned x.leaves).isSome := by
  induction cs with
  | nil => rfl
  | cons x xs ih =>
    rw [leavesOf_cons, lastScanned_append, Option.isSome_or, ih, List.any_cons, Bool.or_comm]

/-- The last scanned token of a list is its last scanned leaf, when that holds of every
    member. -/
theorem lastExternalIn_eq_lastScanned {cs : List Subtree}
    (h : ∀ x ∈ cs, x.lastExternalToken = lastScanned x.leaves) :
    lastExternalIn cs = lastScanned (leavesOf cs) := by
  induction cs with
  | nil => simp [lastExternalIn, lastScanned]
  | cons x xs ih =>
    rw [lastExternalIn, leavesOf_cons, lastScanned_append,
      ih fun y hy => h y (List.mem_cons_of_mem _ hy), h x List.mem_cons_self]
    cases lastScanned (leavesOf xs) <;> rfl

/-- Where the flags agree with the leaves, a tree has the flag exactly when it has a
    scanned leaf, and its last scanned token is its last scanned leaf. -/
theorem Subtree.FlagsAgree.lastExternalToken_eq {t : Subtree} (h : t.FlagsAgree) :
    t.hasExternalTokens = (lastScanned t.leaves).isSome ∧
      t.lastExternalToken = lastScanned t.leaves := by
  induction h with
  | @leaf i =>
    -- a leaf is its own only leaf
    cases hflag : i.hasExternalTokens <;>
      simp [lastExternalToken, lastExternalIn, lastScanned, leaves, hasExternalTokens, hflag]
  | @node i c cs hflag _ ih =>
    have hlist := lastExternalIn_eq_lastScanned fun x hx => (ih x hx).2
    have hany : (c :: cs).any (·.hasExternalTokens) =
        (lastScanned (leavesOf (c :: cs))).isSome := by
      rw [lastScanned_leavesOf_isSome, Bool.eq_iff_iff, List.any_eq_true, List.any_eq_true]
      constructor
      · rintro ⟨x, hx, hfx⟩
        exact ⟨x, hx, by rw [← (ih x hx).1]; exact hfx⟩
      · rintro ⟨x, hx, hfx⟩
        exact ⟨x, hx, by rw [(ih x hx).1]; exact hfx⟩
    have hflag' : i.hasExternalTokens = (lastScanned (leavesOf (c :: cs))).isSome :=
      hflag.trans hany
    rw [leaves]
    refine ⟨hflag', ?_⟩
    rw [lastExternalToken, hlist]
    -- a flagged node has a scanned leaf, and an unflagged one none
    cases hlast : lastScanned (leavesOf (c :: cs)) with
    | none =>
      rw [hlast] at hflag'
      simp [hflag']
    | some x =>
      rw [hlast] at hflag'
      simp [hflag']

/-- A subtree with children that spans the text is exactly as long as its children. -/
theorem Subtree.Spans.totalBytes_eq {Y : List UInt8} {a : Nat} {t : Subtree} (h : Spans Y a t)
    (hne : t.children ≠ []) : t.totalBytes = (totalOf t.children).bytes := by
  obtain ⟨c, cs, hcs⟩ := List.exists_cons_of_ne_nil hne
  have := congrArg Length.bytes (h.node_geometry hcs).2
  rw [← hcs] at this
  simpa [Subtree.totalBytes] using this

namespace ReuseCursor

/-! ### Paths through the old tree -/

/-- The path of a reuse cursor through `root`, top first, with the subtrees that come
    before its top one in document order: the bottom entry holds `root` at offset zero
    with nothing before it, and every other entry holds a child of the entry below it,
    after that entry's earlier children and with its later siblings, at the offset that
    the subtrees before it add up to. -/
inductive Path (root : Subtree) : List ReuseEntry → List Subtree → Prop
  | root : Path root [⟨root, 0, []⟩] []
  | child {e p : ReuseEntry} {rest : List ReuseEntry} {before earlier : List Subtree} :
      Path root (p :: rest) before → p.tree.children = earlier ++ e.tree :: e.later →
      e.byteOffset = (totalOf (before ++ earlier)).bytes →
      Path root (e :: p :: rest) (before ++ earlier)

variable {root : Subtree} {Y : List UInt8}

/-- The top entry's offset is the length of the subtrees before it. -/
theorem Path.byteOffset {path : List ReuseEntry} {before : List Subtree}
    (h : Path root path before) {e : ReuseEntry} {rest : List ReuseEntry} (hs : path = e :: rest) :
    e.byteOffset = (totalOf before).bytes := by
  cases h with
  | root =>
    obtain ⟨rfl, -⟩ := List.cons.inj hs
    rfl
  | child _ _ hpos =>
    obtain ⟨rfl, -⟩ := List.cons.inj hs
    exact hpos

/-- Every subtree on a path of a tree whose flags agree with its leaves has such flags. -/
theorem Path.flagsAgree (hflags : root.FlagsAgree) {path : List ReuseEntry}
    {before : List Subtree} (h : Path root path before) : ∀ e ∈ path, e.tree.FlagsAgree := by
  induction h with
  | root =>
    intro e he
    rw [List.mem_singleton.1 he]
    exact hflags
  | child _ hch _ ih =>
    intro e he
    rcases List.mem_cons.1 he with rfl | he
    · exact (ih _ List.mem_cons_self).child (by rw [hch]; simp)
    · exact ih e he

/-- On a text the root tiles, the children of every subtree on a path span the text from
    its offset, and every subtree but the root spans it from there. -/
theorem Path.spans (ht : root.Tiles Y) {path : List ReuseEntry} {before : List Subtree}
    (h : Path root path before) : ∀ {e : ReuseEntry} {rest : List ReuseEntry}, path = e :: rest →
    SpansList Y e.byteOffset e.tree.children ∧ (rest ≠ [] → Spans Y e.byteOffset e.tree) := by
  induction h with
  | root =>
    intro e rest hs
    obtain ⟨rfl, rfl⟩ := List.cons.inj hs
    exact ⟨ht.children, fun hne => absurd rfl hne⟩
  | child hp hch hpos ih =>
    intro e rest hs
    obtain ⟨rfl, rfl⟩ := List.cons.inj hs
    -- the entry follows its earlier siblings from where its parent starts
    have hparent := (ih rfl).1
    rw [hch] at hparent
    obtain ⟨-, hafter⟩ := hparent.of_append
    rw [hp.byteOffset rfl, ← Length.bytes_add, ← totalOf_append, ← hpos] at hafter
    cases hafter with
    | cons hspans _ => exact ⟨hspans.children_within.1, fun _ => hspans⟩

/-- On a text the root tiles, the offset of a path's top entry is within the text. -/
theorem Path.byteOffset_le (ht : root.Tiles Y) {path : List ReuseEntry} {before : List Subtree}
    (h : Path root path before) {e : ReuseEntry} {rest : List ReuseEntry} (hs : path = e :: rest) :
    e.byteOffset ≤ Y.length := by
  cases rest with
  | nil =>
    cases h with
    | root =>
      obtain ⟨rfl, -⟩ := List.cons.inj hs
      exact Nat.zero_le _
    | child => cases (List.cons.inj hs).2
  | cons p rest =>
    have := ((h.spans ht hs).2 (List.cons_ne_nil _ _)).le
    omega

/-! ### Moves along a path -/

/-- Descending to the first child keeps the subtrees before the top. -/
theorem Path.descend {e : ReuseEntry} {rest : List ReuseEntry} {before : List Subtree}
    (h : Path root (e :: rest) before) {first : Subtree} {later : List Subtree}
    (hch : e.tree.children = first :: later) :
    Path root (⟨first, e.byteOffset, later⟩ :: e :: rest) before := by
  have hchild : Path root (⟨first, e.byteOffset, later⟩ :: e :: rest) (before ++ []) :=
    Path.child h (by rw [hch]; rfl) (by rw [List.append_nil]; exact Path.byteOffset h (e := e) rfl)
  rwa [List.append_nil] at hchild

/-- Going down the left spine keeps the subtrees before the top. -/
theorem Path.leftSpine {offset : Nat} {t : Subtree} {path : List ReuseEntry}
    {before : List Subtree} (h : Path root path before)
    (hhead : ∀ e ∈ path.head?, e.tree = t ∧ e.byteOffset = offset) (hne : path ≠ []) :
    Path root (ReuseCursor.leftSpineOnto offset t path) before := by
  fun_induction ReuseCursor.leftSpineOnto offset t path with
  | case1 => exact h
  | case2 i first later path ih =>
    obtain ⟨e, rest, rfl⟩ := List.exists_cons_of_ne_nil hne
    obtain ⟨htree, hoffset⟩ := hhead e rfl
    have hch : e.tree.children = first :: later := by rw [htree]; rfl
    refine ih ?_ (by simp) (List.cons_ne_nil _ _)
    rw [← hoffset]
    exact h.descend hch

theorem nextSibling_of_later {offset : Nat} {e p : ReuseEntry} {rest : List ReuseEntry}
    {sibling : Subtree} {later : List Subtree} (h : e.later = sibling :: later) :
    nextSibling offset (e :: p :: rest) = ⟨sibling, offset, later⟩ :: p :: rest := by
  simp [nextSibling, h]

theorem nextSibling_of_last {offset : Nat} {e p : ReuseEntry} {rest : List ReuseEntry}
    (h : e.later = []) : nextSibling offset (e :: p :: rest) = nextSibling offset (p :: rest) := by
  rw [nextSibling.eq_def]
  simp only [h]

theorem nextSibling_single (offset : Nat) (e : ReuseEntry) : nextSibling offset [e] = [] := by
  simp [nextSibling]

/-- The first entry that `nextSibling` puts on a path sits at the offset it is given. -/
theorem nextSibling_head (offset : Nat) {path : List ReuseEntry} {top : ReuseEntry}
    {rest : List ReuseEntry} (h : nextSibling offset path = top :: rest) :
    top.byteOffset = offset := by
  fun_induction nextSibling offset path with
  | case1 popped q rest' sibling later =>
    rw [List.cons.injEq] at h
    rw [← h.1]
  | case2 _ _ _ _ ih => exact ih h
  | case3 => cases h
  | case4 => cases h

/-- Moving past the top of a path leaves nothing exactly when no entry has a later
    sibling: nothing follows the top subtree in document order. -/
theorem Path.nextSibling_eq_nil_iff (offset : Nat) {path : List ReuseEntry}
    {before : List Subtree} (h : Path root path before) :
    nextSibling offset path = [] ↔ ∀ e ∈ path, e.later = [] := by
  induction h with
  | root => simp [nextSibling_single]
  | @child e p rest _ _ _ _ _ ih =>
    cases hlater : e.later with
    | cons sibling later => simp [nextSibling_of_later hlater, hlater]
    | nil =>
      rw [nextSibling_of_last hlater, ih]
      simp [hlater]

/-- On a text the root tiles, moving past the top of a path, at the offset where the top
    subtree ends, gives a path of the root again, whose subtrees before the top have the
    leaves of those before and of the old top subtree; or nothing. -/
theorem Path.next (ht : root.Tiles Y) {path : List ReuseEntry} {before : List Subtree}
    (h : Path root path before) : ∀ {e : ReuseEntry} {rest : List ReuseEntry} {offset : Nat},
    path = e :: rest → offset = e.byteOffset + e.tree.totalBytes →
    nextSibling offset path = [] ∨ ∃ before', Path root (nextSibling offset path) before' ∧
      leavesOf before' = leavesOf before ++ e.tree.leaves := by
  induction h with
  | root =>
    intro e rest offset hs _
    obtain ⟨rfl, rfl⟩ := List.cons.inj hs
    exact .inl rfl
  | @child e p rest before earlier hp hch hpos ih =>
    intro top rest' offset hs hoffset
    obtain ⟨rfl, rfl⟩ := List.cons.inj hs
    cases hlater : e.later with
    | cons sibling later =>
      -- the next sibling follows the old top subtree
      refine .inr ⟨before ++ (earlier ++ [e.tree]), ?_, ?_⟩
      · rw [nextSibling_of_later hlater]
        refine Path.child hp ?_ ?_
        · rw [hch, hlater]
          simp
        · rw [hoffset, hpos]
          simp [totalOf_append, Nat.add_assoc]
      · simp [leavesOf_append, List.append_assoc]
    | nil =>
      rw [nextSibling_of_last hlater]
      cases rest with
      | nil =>
        -- the parent is the root: nothing follows
        cases hp with
        | root => exact .inl (nextSibling_single _ _)
      | cons q rest =>
        -- the parent is exactly as long as its children, the last of which was the top,
        -- so the offset is where the parent ends
        have hch' : p.tree.children = earlier ++ [e.tree] := by rw [hch, hlater]
        have hne : p.tree.children ≠ [] := by simp [hch']
        have hlength := ((hp.spans ht rfl).2 (List.cons_ne_nil _ _)).totalBytes_eq hne
        have hoffset' : offset = p.byteOffset + p.tree.totalBytes := by
          rw [hoffset, hpos, hlength, hch', hp.byteOffset rfl, totalOf_append, totalOf_append]
          simp [Nat.add_assoc]
        rcases ih rfl hoffset' with hnil | ⟨before', hpath, hleaves⟩
        · exact .inl hnil
        · refine .inr ⟨before', hpath, ?_⟩
          have hpleaves : p.tree.leaves = leavesOf earlier ++ e.tree.leaves := by
            rw [leaves_of_children_ne_nil hne, hch', leavesOf_append]
            simp
          rw [hleaves, hpleaves, leavesOf_append, List.append_assoc]

theorem Path.ne_nil {path : List ReuseEntry} {before : List Subtree} (h : Path root path before) :
    path ≠ [] := by
  cases h <;> exact List.cons_ne_nil _ _

/-! ### The calls on a cursor -/

variable {c : ReuseCursor}

theorem advance_of_nil (hpath : c.path = []) : c.advance = c := by
  unfold advance
  rw [hpath]

/-- Advancing past the top subtree: the next sibling at the offset where the top subtree
    ends, and the scanned token found in the top subtree if it has one. -/
theorem advance_of_cons {e : ReuseEntry} {rest : List ReuseEntry} (hpath : c.path = e :: rest) :
    c.advance = ⟨nextSibling (e.byteOffset + e.tree.totalBytes) (e :: rest),
      if e.tree.hasExternalTokens then e.tree.lastExternalToken else c.lastExternal⟩ := by
  unfold advance
  rw [hpath]

/-- A cursor faithful to `root`: it has nothing left to offer, or its path is a path of
    `root` after the subtrees `before`, and the scanned token it remembers is the last
    scanned leaf among them. -/
def Faithful (root : Subtree) (c : ReuseCursor) : Prop :=
  c.path = [] ∨ ∃ before, Path root c.path before ∧ c.lastExternal = lastScanned (leavesOf before)

/-- A reset cursor stands at the root, with nothing before it. -/
theorem faithful_start (root : Subtree) : Faithful root (start root) :=
  .inr ⟨[], .root, by simp [start, lastScanned]⟩

/-- Descending keeps a cursor faithful. -/
theorem Faithful.descend (h : Faithful root c) {r : ReuseCursor} (hd : c.descend? = some r) :
    Faithful root r := by
  unfold descend? at hd
  split at hd
  · rename_i last rest hpath
    split at hd
    · rename_i first later hch
      cases hd
      rcases h with hnil | ⟨before, hp, hlast⟩
      · rw [hnil] at hpath
        cases hpath
      · refine .inr ⟨before, ?_, hlast⟩
        show Path root (_ :: c.path) before
        rw [hpath] at hp ⊢
        exact hp.descend hch
    · cases hd
  · cases hd

/-- Advancing keeps a cursor faithful: the subtrees before the new top are those before
    the old one and the old top subtree, so the scanned token to remember is the last
    scanned leaf of the old top subtree, or the one remembered before. -/
theorem Faithful.advance (ht : root.Tiles Y) (hflags : root.FlagsAgree) (h : Faithful root c) :
    Faithful root c.advance := by
  rcases h with hnil | ⟨before, hp, hlast⟩
  · rw [advance_of_nil hnil]
    exact .inl hnil
  · obtain ⟨e, rest, hpath⟩ := List.exists_cons_of_ne_nil hp.ne_nil
    rw [advance_of_cons hpath]
    rw [hpath] at hp
    rcases hp.next ht rfl rfl with hnil | ⟨before', hp', hleaves⟩
    · exact .inl hnil
    · refine .inr ⟨before', hp', ?_⟩
      obtain ⟨hflag, htoken⟩ := (hp.flagsAgree hflags e List.mem_cons_self).lastExternalToken_eq
      dsimp only
      rw [hleaves, lastScanned_append, htoken, hflag]
      -- the old top subtree has a scanned leaf exactly when its flag is set
      cases hls : lastScanned e.tree.leaves with
      | none => simpa using hlast
      | some x => rfl

/-- Advancing past the leftmost leaf keeps a cursor faithful. -/
theorem Faithful.advancePastLeaf (ht : root.Tiles Y) (hflags : root.FlagsAgree)
    (h : Faithful root c) : Faithful root c.advancePastLeaf := by
  unfold ReuseCursor.advancePastLeaf
  split
  · rename_i last rest hpath
    apply Faithful.advance ht hflags
    rcases h with hnil | ⟨before, hp, hlast⟩
    · rw [hnil] at hpath
      cases hpath
    · refine .inr ⟨before, ?_, hlast⟩
      show Path root (ReuseCursor.leftSpineOnto last.byteOffset last.tree c.path) before
      rw [hpath] at hp ⊢
      exact hp.leftSpine (by simp) (List.cons_ne_nil _ _)
  · exact h.advance ht hflags

/-- The cursors that calls on a reuse cursor over `root` reach from its last reset:
    descending into a first child, advancing, and advancing past the leftmost leaf. -/
inductive Walked (root : Subtree) : ReuseCursor → Prop
  | reset : Walked root (start root)
  | descend {c r : ReuseCursor} : Walked root c → c.descend? = some r → Walked root r
  | advance {c : ReuseCursor} : Walked root c → Walked root c.advance
  | advancePastLeaf {c : ReuseCursor} : Walked root c → Walked root c.advancePastLeaf

/-- Every cursor a walk over a tiled tree with agreeing flags reaches is faithful. -/
theorem Walked.faithful (ht : root.Tiles Y) (hflags : root.FlagsAgree) (h : Walked root c) :
    Faithful root c := by
  induction h with
  | reset => exact faithful_start root
  | descend _ hd ih => exact ih.descend hd
  | advance _ ih => exact ih.advance ht hflags
  | advancePastLeaf _ ih => exact ih.advancePastLeaf ht hflags

theorem byteOffset_of_cons {e : ReuseEntry} {rest : List ReuseEntry} (hpath : c.path = e :: rest) :
    c.byteOffset = e.byteOffset := by
  simp [byteOffset, hpath]

/-- While a faithful cursor offers a subtree, its offset is the length of the subtrees
    before it, which is where the subtree's padding starts unless it is the root, and its
    scanner state is that of the last scanned leaf among them, or empty. -/
theorem Faithful.offers (ht : root.Tiles Y) (h : Faithful root c) {e : ReuseEntry}
    {rest : List ReuseEntry} (hpath : c.path = e :: rest) :
    ∃ before, Path root c.path before ∧ c.byteOffset = (before.map totalBytes).sum ∧
      (rest ≠ [] → Spans Y c.byteOffset e.tree) ∧
      c.scannerState = ((lastScanned (leavesOf before)).bind (·.scannerState)).getD [] := by
  rcases h with hnil | ⟨before, hp, hlast⟩
  · rw [hnil] at hpath
    cases hpath
  · refine ⟨before, hp, ?_, ?_, ?_⟩
    · rw [byteOffset_of_cons hpath, hp.byteOffset hpath, totalOf_bytes]
    · rw [byteOffset_of_cons hpath]
      exact (hp.spans ht hpath).2
    · rw [scannerState, hlast]

/-- On a text of at most `4294967295` bytes that the root tiles, advancing a faithful
    cursor never moves its offset back. -/
theorem Faithful.byteOffset_le_advance (ht : root.Tiles Y) (hsize : Y.length ≤ 4294967295)
    (h : Faithful root c) : c.byteOffset ≤ c.advance.byteOffset := by
  rcases h with hnil | ⟨before, hp, -⟩
  · rw [advance_of_nil hnil]
  · obtain ⟨e, rest, hpath⟩ := List.exists_cons_of_ne_nil hp.ne_nil
    rw [advance_of_cons hpath, byteOffset_of_cons hpath]
    -- the next subtree starts where the current one ends; past the end the offset is
    -- the largest there is
    cases hnext : nextSibling (e.byteOffset + e.tree.totalBytes) (e :: rest) with
    | nil =>
      have := hp.byteOffset_le ht hpath
      simp only [byteOffset, List.head?_nil, Option.map_none, Option.getD_none]
      omega
    | cons top r =>
      have := nextSibling_head _ hnext
      simp only [byteOffset, List.head?_cons, Option.map_some, Option.getD_some]
      omega

/-- Advancing a faithful cursor leaves nothing to offer exactly when no subtree follows
    the current one. -/
theorem Faithful.advance_tree_none_iff (h : Faithful root c) :
    c.advance.tree? = none ↔ ∀ e ∈ c.path, e.later = [] := by
  rcases h with hnil | ⟨before, hp, -⟩
  · rw [advance_of_nil hnil, hnil]
    simp [tree?, hnil]
  · obtain ⟨e, rest, hpath⟩ := List.exists_cons_of_ne_nil hp.ne_nil
    rw [advance_of_cons hpath, hpath]
    rw [hpath] at hp
    rw [← hp.nextSibling_eq_nil_iff (e.byteOffset + e.tree.totalBytes)]
    simp only [tree?, Option.map_eq_none_iff, List.head?_eq_none_iff]

end ReuseCursor

end IncrementalLR
