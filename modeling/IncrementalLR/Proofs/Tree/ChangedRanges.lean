import IncrementalLR.Proofs.Tree.DiffWalk
import IncrementalLR.Proofs.Parse.Language

/-!
# Changed ranges are sorted and separated

`changedRanges` compares an old tree with a new one by walking both side by side
(`DiffState.step`).
-/

namespace IncrementalLR

open Subtree DiffWalk

theorem Length.bytes_min (a b : Length) : (a.min b).bytes = Min.min a.bytes b.bytes := by
  unfold Length.min
  split <;> omega

/-! ### Separated ranges -/

namespace TextRange

/-- Ranges in increasing order, each non-empty, with a gap before the next. -/
def Separated (rs : List TextRange) : Prop :=
  (∀ r ∈ rs, r.startByte < r.endByte) ∧ rs.IsChain (fun a b => a.endByte < b.startByte)

/-- Separated ranges that all end by byte `p`. -/
def SeparatedUpTo (rs : List TextRange) (p : Nat) : Prop :=
  Separated rs ∧ ∀ r ∈ rs, r.endByte ≤ p

theorem separated_append_singleton {rs : List TextRange} {x : TextRange} :
    Separated (rs ++ [x]) ↔
      Separated rs ∧ x.startByte < x.endByte ∧ ∀ a ∈ rs.getLast?, a.endByte < x.startByte := by
  simp only [Separated, List.mem_append, List.mem_singleton, List.isChain_append,
    List.isChain_singleton, List.head?_cons, Option.mem_some_iff, forall_eq', true_and]
  constructor
  · rintro ⟨hne, hchain, hlast⟩
    exact ⟨⟨fun r hr => hne r (.inl hr), hchain⟩, hne x (.inr rfl), hlast⟩
  · rintro ⟨⟨hne, hchain⟩, hx, hlast⟩
    refine ⟨fun r hr => ?_, hchain, hlast⟩
    rcases hr with hr | rfl
    · exact hne r hr
    · exact hx

theorem SeparatedUpTo.mono {rs : List TextRange} {p q : Nat} (h : SeparatedUpTo rs p) (hpq : p ≤ q) :
    SeparatedUpTo rs q :=
  ⟨h.1, fun r hr => (h.2 r hr).trans hpq⟩

/-- Recording a piece keeps separated ranges separated, and all of them end by its end if
    the earlier ones did: the piece is merged into the last range when it starts within it,
    and is added after a gap otherwise, unless it is empty. -/
theorem SeparatedUpTo.addRange {rs : Array TextRange} {start stop : Length}
    (h : SeparatedUpTo rs.toList stop.bytes) :
    SeparatedUpTo (IncrementalLR.addRange rs start stop).toList stop.bytes := by
  obtain ⟨hsep, hle⟩ := h
  unfold IncrementalLR.addRange
  cases hb : rs.back? with
  | none =>
    have hnil : rs.toList = [] := List.getLast?_eq_none_iff.1 (by rw [Array.getLast?_toList, hb])
    dsimp only
    split
    · rename_i hlt
      refine ⟨?_, ?_⟩
      · rw [Array.toList_push, hnil]
        exact separated_append_singleton.2 ⟨⟨by simp, .nil⟩, hlt, by simp⟩
      · simp [hnil, TextRange.ofLengths]
    · exact ⟨hsep, hle⟩
  | some last =>
    have hsplit : rs.toList = rs.toList.dropLast ++ [last] :=
      (List.dropLast_append_getLast? last (by simp [Array.getLast?_toList, hb])).symm
    have hmem : ∀ r ∈ rs.toList.dropLast, r ∈ rs.toList := fun r hr => List.mem_of_mem_dropLast hr
    rw [hsplit] at hsep
    obtain ⟨hsep', hlast, hbefore⟩ := separated_append_singleton.1 hsep
    have hlastle : last.endByte ≤ stop.bytes := hle last (by rw [hsplit]; simp)
    dsimp only
    split
    · -- the piece starts within the last range, which is made to end with it
      refine ⟨?_, ?_⟩
      · rw [Array.toList_push, Array.toList_pop]
        exact separated_append_singleton.2 ⟨hsep', by simp only; omega, by simpa using hbefore⟩
      · intro r hr
        rw [Array.toList_push, Array.toList_pop, List.mem_append] at hr
        rcases hr with hr | hr
        · exact hle r (hmem r hr)
        · simp at hr; rw [hr]
    · rename_i hafter
      split
      · -- a piece after a gap is added
        rename_i hlt
        refine ⟨?_, ?_⟩
        · rw [Array.toList_push, hsplit]
          refine separated_append_singleton.2 ⟨hsep, hlt, ?_⟩
          simp only [List.getLast?_append, List.getLast?_singleton, Option.some_or,
            Option.mem_some_iff]
          simp [TextRange.ofLengths]
          omega
        · intro r hr
          rw [Array.toList_push, List.mem_append] at hr
          rcases hr with hr | hr
          · exact hle r hr
          · simp at hr; simp [hr, TextRange.ofLengths]
      · exact ⟨by rw [hsplit]; exact hsep, hle⟩

end TextRange

/-! ### One comparison step -/

namespace DiffState

open TextRange

variable {X Y : List UInt8} {A B : Subtree} {budget : Nat}

/-- What a comparison has found: separated ranges up to the position reached, which lies
    within the longer text. -/
structure Found (X Y : List UInt8) (s : DiffState) : Prop where
  ranges : SeparatedUpTo s.ranges.toList s.position.bytes
  bounded : s.position.bytes ≤ max X.length Y.length

/-- A comparison of `A` and `B` under way: both walks on their paths, with pieces that end
    at or after the position reached, which is where the last piece compared ended. -/
structure Comparing (X Y : List UInt8) (A B : Subtree) (s : DiffState) : Prop extends Found X Y s where
  old : Path A s.old.stack
  new : Path B s.new.stack
  oldEnd : s.position.bytes ≤ s.old.endPosition.bytes
  newEnd : s.position.bytes ≤ s.new.endPosition.bytes
  next : s.next.bytes = s.position.bytes

/-- A walk on a path, advanced towards `next` and then climbed out of, leaves its tree or
    ends its piece after `next`, on its path. -/
theorem advance_ascend {root : Subtree} {Z : List UInt8} (hZ : Tiles Z root)
    (hroot : 2 * root.nodeCount ≤ budget) {w : DiffWalk} (hw : Path root w.stack) (next d : Nat) :
    ((w.advanceTo next budget).ascendTo d budget).stack = [] ∨
      (Path root ((w.advanceTo next budget).ascendTo d budget).stack ∧
        next < ((w.advanceTo next budget).ascendTo d budget).endPosition.bytes) := by
  rcases advanceTo_spec next hw hroot with h | ⟨hp, hend⟩
  · refine .inl ?_
    rcases ascendTo_spec d budget _ (by rw [h]; exact Nat.zero_le _) with h' | ⟨h', -⟩ | ⟨k, -, h', -⟩
    · exact h'
    · rw [h', h]
    · rw [h', h, List.drop_nil]
  · rcases ascendTo_end hZ (d := d) hp (hp.length_le.trans (by omega : root.nodeCount ≤ budget)) with h' | ⟨hp', hle⟩
    · exact .inl h'
    · exact .inr ⟨hp', by omega⟩

variable (hA : Tiles X A) (hB : Tiles Y B) (hbudget : 2 * (A.nodeCount + B.nodeCount) ≤ budget)
include hA hB hbudget

/-- The last part of a step: whatever the comparison chose, a piece that ends between the
    position and the end of the longer text, with both walks on their paths, gives a
    comparison that has found separated ranges up to its end, and that goes on as one under
    way while neither walk has left its tree. -/
theorem finish {changed : Bool} {next position : Length} {o n : DiffWalk} {ranges : Array TextRange}
    (ho : Path A o.stack) (hn : Path B n.stack) (hpos : position.bytes ≤ next.bytes)
    (hnext : next.bytes ≤ max X.length Y.length) (hr : SeparatedUpTo ranges.toList position.bytes) :
    let o' := (o.advanceTo next.bytes budget).ascendTo (n.advanceTo next.bytes budget).visibleDepth budget
    let n' := (n.advanceTo next.bytes budget).ascendTo o'.visibleDepth budget
    let s' : DiffState := ⟨o', n', next, next,
      if changed then addRange ranges position next else ranges⟩
    Found X Y s' ∧ (s'.old.stack ≠ [] → s'.new.stack ≠ [] → Comparing X Y A B s') := by
  intro o' n' s'
  have hfound : Found X Y s' := by
    refine ⟨?_, hnext⟩
    have hr' := hr.mono hpos
    show SeparatedUpTo (if changed then addRange ranges position next else ranges).toList next.bytes
    split
    · exact hr'.addRange
    · exact hr'
  refine ⟨hfound, fun hold hnew => ?_⟩
  rcases advance_ascend hA (by omega : 2 * A.nodeCount ≤ budget) ho next.bytes
    (n.advanceTo next.bytes budget).visibleDepth with h | ⟨hpo, heo⟩
  · exact absurd h hold
  rcases advance_ascend hB (by omega : 2 * B.nodeCount ≤ budget) hn next.bytes o'.visibleDepth with h | ⟨hpn, hen⟩
  · exact absurd h hnew
  exact { hfound with old := hpo, new := hpn, oldEnd := heo.le, newEnd := hen.le, next := rfl }

/-- One step of a comparison under way finds separated ranges up to where its piece ends,
    and leaves a comparison under way unless a walk has left its tree. -/
theorem Comparing.step {s : DiffState} (h : Comparing X Y A B s) :
    Found X Y (s.step budget) ∧
      ((s.step budget).old.stack ≠ [] → (s.step budget).new.stack ≠ [] →
        Comparing X Y A B (s.step budget)) := by
  have hoX := h.old.endPosition_le hA
  have hnY := h.new.endPosition_le hB
  have hbound := h.bounded
  have hoEnd := h.oldEnd
  have hnEnd := h.newEnd
  unfold DiffState.step
  rcases hc : compareWalks s.old s.new with _ | _ | _
  · -- different kinds: the piece up to the nearer end changed
    dsimp only
    exact finish hA hB hbudget h.old h.new (by rw [Length.bytes_min]; omega)
      (by rw [Length.bytes_min]; omega) h.ranges
  · -- the same kind, perhaps changed: both walks descend towards the position
    have hdo := descend_descent s.position.bytes h.old
    have hdn := descend_descent s.position.bytes h.new
    rcases hro : s.old.descend s.position.bytes with ⟨_ | _, o⟩ <;>
      rcases hrn : s.new.descend s.position.bytes with ⟨_ | _, n⟩ <;>
      rw [hro] at hdo <;> rw [hrn] at hdn <;> dsimp only
    · -- neither reached a visible subtree: the nearer end of the two pieces
      have ho : s.position.bytes ≤ o.endPosition.bytes := hdo.le_end hoEnd
      have hn : s.position.bytes ≤ n.endPosition.bytes := hdn.le_end hnEnd
      have hoX' : o.endPosition.bytes ≤ X.length := hdo.path.endPosition_le hA
      exact finish hA hB hbudget hdo.path hdn.path (by rw [Length.bytes_min]; omega)
        (by rw [Length.bytes_min]; omega) h.ranges
    · -- only the new walk reached one: its piece changed
      have hn : s.position.bytes < n.endPosition.bytes := hdn.lt_end rfl
      have hnY' : n.endPosition.bytes ≤ Y.length := hdn.path.endPosition_le hB
      exact finish hA hB hbudget hdo.path hdn.path (by omega) (by omega) h.ranges
    · -- only the old walk reached one: its piece changed
      have ho : s.position.bytes < o.endPosition.bytes := hdo.lt_end rfl
      have hoX' : o.endPosition.bytes ≤ X.length := hdo.path.endPosition_le hA
      exact finish hA hB hbudget hdo.path hdn.path (by omega) (by omega) h.ranges
    · -- both reached one: nothing is compared yet
      have hnext := h.next
      exact finish hA hB hbudget hdo.path hdn.path (by omega) (by omega) h.ranges
  · -- the same node: the piece is passed unchanged
    dsimp only
    exact finish hA hB hbudget h.old h.new hoEnd (by omega) h.ranges

/-- A comparison under way, run for any number of steps, finds separated ranges up to a
    position within the longer text. -/
theorem Comparing.run : ∀ (fuel : Nat) {s : DiffState}, Comparing X Y A B s →
    Found X Y (DiffState.run budget fuel s)
  | 0, _, h => by
    rw [DiffState.run]
    exact h.toFound
  | fuel + 1, s, h => by
    rw [DiffState.run]
    obtain ⟨hfound, hgoes⟩ := h.step hA hB hbudget
    split
    · exact hfound
    · rename_i hlive
      simp only [Bool.or_eq_true, DiffWalk.done, List.isEmpty_iff, not_or] at hlive
      exact Comparing.run fuel (hgoes hlive.1 hlive.2)

end DiffState

/-! ### The ranges -/

variable {X Y : List UInt8} {A B : Subtree}

theorem startPosition_new_bytes (t : Subtree) : (DiffWalk.new t).startPosition.bytes = t.padding.bytes := by
  simp [DiffWalk.new, DiffWalk.startPosition]

/-- A walk at the root is on the root's path. -/
theorem path_new (t : Subtree) : Path t (DiffWalk.new t).stack :=
  .root rfl rfl rfl

/-- On trees that tile their texts, the changed ranges are sorted, non-empty and separated
    by gaps, and none ends past the longer tree. -/
theorem changedRanges_separatedUpTo (hA : Tiles X A) (hB : Tiles Y B) :
    TextRange.SeparatedUpTo (changedRanges A B) (max A.totalBytes B.totalBytes) := by
  have hXA := hA.totalBytes
  have hYB := hB.totalBytes
  have hstartA : (DiffWalk.new A).startPosition.bytes = 0 := by
    rw [startPosition_new_bytes, hA.padding]; rfl
  have hstartB : (DiffWalk.new B).startPosition.bytes = 0 := by
    rw [startPosition_new_bytes, hB.padding]; rfl
  unfold changedRanges
  simp only [hstartA, hstartB, Nat.lt_irrefl, gt_iff_lt, ↓reduceIte, totalSize_bytes]
  -- the comparison starts at the start of both texts, with nothing found
  have hstart : DiffState.Comparing X Y A B
      ⟨DiffWalk.new A, DiffWalk.new B, (DiffWalk.new A).startPosition,
        (DiffWalk.new B).startPosition, #[]⟩ := by
    refine ⟨⟨⟨⟨by simp, .nil⟩, by simp⟩, by simp [hstartA]⟩, path_new A, path_new B, ?_, ?_, ?_⟩
    · simp [hstartA]
    · simp [hstartA]
    · simp [hstartA, hstartB]
  have hfound : DiffState.Found X Y (DiffState.run (2 * (A.nodeCount + B.nodeCount) + 4)
      ((2 * (A.nodeCount + B.nodeCount) + 4) * (2 * (A.nodeCount + B.nodeCount) + 4))
      ⟨DiffWalk.new A, DiffWalk.new B, (DiffWalk.new A).startPosition,
        (DiffWalk.new B).startPosition, #[]⟩) :=
    hstart.run hA hB (by omega) _
  obtain ⟨hranges, hbounded⟩ := hfound
  generalize DiffState.run _ _ _ = s at hranges hbounded ⊢
  -- the range for text added or removed at the end
  split
  · exact (TextRange.SeparatedUpTo.addRange (hranges.mono (by simp; omega))).mono (by simp)
  · split
    · exact (TextRange.SeparatedUpTo.addRange (hranges.mono (by simp; omega))).mono (by simp)
    · exact hranges.mono (by omega)

/-! ### A tree against itself -/

theorem DiffWalk.ascendTo_visibleDepth (w : DiffWalk) (fuel : Nat) :
    w.ascendTo w.visibleDepth fuel = w := by
  cases fuel <;> simp [DiffWalk.ascendTo]

/-- Two walks at the same place never see different kinds of subtrees. -/
theorem compareWalks_self (w : DiffWalk) : compareWalks w w ≠ .differs := by
  unfold compareWalks
  split
  · simp
  · rename_i a aStart b bStart ha hb
    rw [ha] at hb
    obtain ⟨rfl, rfl⟩ := Prod.mk.inj (Option.some.inj hb)
    simp only [bne_self_eq_false, Bool.false_eq_true, ↓reduceIte, ne_eq]
    split
    · simp
    · split <;> simp
  · -- the same walk cannot see a subtree and none
    rename_i hnone hsome
    cases h : w.visibleState with
    | none => exact (hnone h h).elim
    | some p => exact (hsome p.1 p.2 p.1 p.2 h h).elim

/-- A step of a comparison whose two walks are the same keeps them the same and records
    nothing: the walks see the same subtree and descend alike. -/
theorem DiffState.step_same (w : DiffWalk) (position next : Length) (budget : Nat) :
    let s' := DiffState.step ⟨w, w, position, next, #[]⟩ budget
    s'.old = s'.new ∧ s'.ranges = #[] := by
  intro s'
  have hsame : ∀ (next : Length) (v : DiffWalk),
      let v' := v.advanceTo next.bytes budget
      let o := v'.ascendTo v'.visibleDepth budget
      o = v'.ascendTo o.visibleDepth budget := by
    intro next v
    simp [DiffWalk.ascendTo_visibleDepth]
  unfold s' DiffState.step
  rcases hc : compareWalks w w with _ | _ | _
  · exact absurd hc (compareWalks_self w)
  · rcases w.descend position.bytes with ⟨_ | _, o⟩ <;> exact ⟨hsame _ o, rfl⟩
  · exact ⟨hsame _ w, rfl⟩

theorem DiffState.run_same (w : DiffWalk) (position next : Length) (budget : Nat) :
    ∀ fuel, (DiffState.run budget fuel ⟨w, w, position, next, #[]⟩).ranges = #[]
  | 0 => rfl
  | fuel + 1 => by
    rw [DiffState.run]
    obtain ⟨hsame, hranges⟩ := DiffState.step_same w position next budget
    generalize DiffState.step _ budget = s at hsame hranges
    obtain ⟨o, n, p, nx, rs⟩ := s
    dsimp only at hsame hranges
    subst hsame hranges
    split
    · rfl
    · exact DiffState.run_same _ _ _ budget fuel

/-- A tree compared with itself has no changed range, whatever its geometry. -/
theorem changedRanges_self (t : Subtree) : changedRanges t t = [] := by
  unfold changedRanges
  simp only [Nat.lt_irrefl, gt_iff_lt, ↓reduceIte, DiffState.run_same]

/-! ### Changed ranges -/

end IncrementalLR
