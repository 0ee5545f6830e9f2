import IncrementalLR.Parse.Stack

/-!
# Walking an old tree for reuse

While reparsing, a cursor walks the old tree in document order and offers its subtrees, each
with its absolute byte offset, as candidates for reuse.
-/

namespace IncrementalLR

/-- A subtree of the old tree, where its padding starts, and its later siblings. -/
structure ReuseEntry where
  tree : Subtree
  byteOffset : Nat
  later : List Subtree

/-- The path from the old root to the current candidate, candidate first. -/
structure ReuseCursor where
  path : List ReuseEntry
  lastExternal : Option Subtree

namespace ReuseCursor

/-- A cursor with nothing to offer. -/
def empty : ReuseCursor := ⟨[], none⟩

/-- A cursor at the root of an old tree. -/
def start (root : Subtree) : ReuseCursor := ⟨[⟨root, 0, []⟩], none⟩

/-- The current candidate. -/
def tree? (c : ReuseCursor) : Option Subtree := c.path.head?.map (·.tree)

/-- Where the current candidate's padding starts. -/
def byteOffset (c : ReuseCursor) : Nat := (c.path.head?.map (·.byteOffset)).getD 4294967295

/-- The scanner state in effect before the current candidate. -/
def scannerState (c : ReuseCursor) : List UInt8 :=
  (c.lastExternal.bind (·.scannerState)).getD []

/-- The path to the next sibling of the first entry that has one, with that sibling
    starting at `offset`; empty when no entry has a next sibling. -/
def nextSibling (offset : Nat) : List ReuseEntry → List ReuseEntry
  | popped :: rest =>
    match rest, popped.later with
    | _ :: _, sibling :: later => ⟨sibling, offset, later⟩ :: rest
    | _ :: _, [] => nextSibling offset rest
    | [], _ => []
  | [] => []

/-- Moves past the current candidate to the next subtree in document order. -/
def advance (c : ReuseCursor) : ReuseCursor :=
  match c.path with
  | last :: _ =>
    let offset := last.byteOffset + last.tree.totalBytes
    let lastExternal :=
      if last.tree.hasExternalTokens then last.tree.lastExternalToken else c.lastExternal
    ⟨nextSibling offset c.path, lastExternal⟩
  | [] => c

/-- Moves to the first child of the current candidate; `none` for a leaf. -/
def descend? (c : ReuseCursor) : Option ReuseCursor :=
  match c.path with
  | last :: _ =>
    match last.tree.children with
    | first :: later => some { c with path := ⟨first, last.byteOffset, later⟩ :: c.path }
    | [] => none
  | [] => none

/-- Pushes on `path` the entries from the first child of `t` down to its leftmost
    leaf, all starting at `offset`. -/
def leftSpineOnto (offset : Nat) : Subtree → List ReuseEntry → List ReuseEntry
  | .mk _ [], path => path
  | .mk _ (first :: later), path => leftSpineOnto offset first (⟨first, offset, later⟩ :: path)

/-- Moves down to the leftmost leaf of the current candidate and then past it. -/
def advancePastLeaf (c : ReuseCursor) : ReuseCursor :=
  match c.path with
  | last :: _ => { c with path := leftSpineOnto last.byteOffset last.tree c.path }.advance
  | [] => c.advance

/-- The nodes of the later siblings along a path. -/
def laterNodes : List ReuseEntry → Nat
  | [] => 0
  | e :: rest => Subtree.nodeCountList e.later + laterNodes rest

/-- The nodes a walk along `path` can still offer: the current candidate's and those
    of every later sibling on the path. -/
def pathRemaining : List ReuseEntry → Nat
  | [] => 0
  | e :: rest => e.tree.nodeCount + laterNodes (e :: rest)

/-- The nodes the cursor can still offer. Every move lowers it, so a walk over an old
    tree ends. -/
def remaining (c : ReuseCursor) : Nat := pathRemaining c.path

@[simp] theorem laterNodes_nil : laterNodes [] = 0 := rfl

@[simp] theorem laterNodes_cons (e : ReuseEntry) (rest : List ReuseEntry) :
    laterNodes (e :: rest) = Subtree.nodeCountList e.later + laterNodes rest := rfl

theorem nodeCount_eq (t : Subtree) : t.nodeCount = 1 + Subtree.nodeCountList t.children := by
  cases t
  rfl

theorem nodeCount_pos (t : Subtree) : 0 < t.nodeCount := by
  rw [nodeCount_eq]
  omega

/-- Moving to the next sibling leaves at most the later siblings of the path. -/
theorem pathRemaining_nextSibling_le (offset : Nat) :
    ∀ path : List ReuseEntry, pathRemaining (nextSibling offset path) ≤ laterNodes path
  | [] => by simp [nextSibling, pathRemaining]
  | [e] => by simp [nextSibling, pathRemaining]
  | e :: next :: rest => by
    match hlater : e.later with
    | sibling :: later =>
      simp only [nextSibling, hlater, pathRemaining, laterNodes_cons]
      simp [Subtree.nodeCountList]
      omega
    | [] =>
      have h := pathRemaining_nextSibling_le offset (next :: rest)
      simp only [nextSibling, hlater, laterNodes_cons] at h ⊢
      simp only [Subtree.nodeCountList]
      omega

theorem remaining_advance_lt {c : ReuseCursor} (h : c.path ≠ []) :
    c.advance.remaining < c.remaining := by
  obtain ⟨last, rest, hpath⟩ := List.exists_cons_of_ne_nil h
  have hle := pathRemaining_nextSibling_le (last.byteOffset + last.tree.totalBytes) (last :: rest)
  have hpos := nodeCount_pos last.tree
  simp only [advance, hpath, remaining, pathRemaining] at hle ⊢
  omega

theorem remaining_descend_lt {c r : ReuseCursor} (h : c.descend? = some r) :
    r.remaining < c.remaining := by
  unfold descend? at h
  match hpath : c.path with
  | [] => simp [hpath] at h
  | last :: rest =>
    rw [hpath] at h
    match hchildren : last.tree.children with
    | [] => simp [hchildren] at h
    | first :: later =>
      simp only [hchildren, Option.some.injEq] at h
      subst h
      have hcount := nodeCount_eq last.tree
      rw [hchildren] at hcount
      simp only [remaining, hpath, pathRemaining, laterNodes_cons, Subtree.nodeCountList] at hcount ⊢
      omega

end ReuseCursor

end IncrementalLR
