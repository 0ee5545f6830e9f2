/-!
# Association maps and insertion sort

The builder's name tables and its index of item-set kernels are small maps kept as lists
of bindings, newest first, and its sorts insert one element at a time.
-/

namespace IncrementalLR

/-- A finite map kept as a list of bindings, the newest first. -/
structure ListMap (α β : Type) where
  bindings : List (α × β)

namespace ListMap

variable {α β : Type}

instance : EmptyCollection (ListMap α β) := ⟨⟨[]⟩⟩

/-- Binds `k` to `v`, hiding any older binding of `k`. -/
def insert (m : ListMap α β) (k : α) (v : β) : ListMap α β := ⟨(k, v) :: m.bindings⟩

/-- The newest binding of `k`. -/
def get? [BEq α] (m : ListMap α β) (k : α) : Option β := m.bindings.lookup k

/-- Whether `k` is bound. -/
def contains [BEq α] (m : ListMap α β) (k : α) : Bool := (m.get? k).isSome

instance [BEq α] : GetElem? (ListMap α β) α β fun m k => m.contains k = true where
  getElem m k h := (m.get? k).get h
  getElem? m k := m.get? k

variable [BEq α]

@[simp] theorem getElem?_empty (k : α) : (({} : ListMap α β))[k]? = none := rfl

theorem getElem?_insert [LawfulBEq α] (m : ListMap α β) (k a : α) (v : β) :
    (m.insert k v)[a]? = if k == a then some v else m[a]? := by
  show ((k, v) :: m.bindings).lookup a = if k == a then some v else m.bindings.lookup a
  rw [List.lookup_cons]
  by_cases h : k = a
  · subst h
    simp
  · have hak : (a == k) = false := beq_eq_false_iff_ne.2 (Ne.symm h)
    have hka : (k == a) = false := beq_eq_false_iff_ne.2 h
    rw [hak, hka]
    rfl

theorem contains_eq_isSome (m : ListMap α β) (k : α) : m.contains k = m[k]?.isSome := rfl

@[simp] theorem contains_empty (k : α) : ({} : ListMap α β).contains k = false := rfl

end ListMap

section Sorting

variable {α : Type} (le : α → α → Bool)

/-- Inserts `a` into a list sorted by `le`, before the first element it is not above. -/
def insertBy (a : α) : List α → List α
  | [] => [a]
  | b :: l => if le a b then a :: b :: l else b :: insertBy a l

/-- Sorts by `le`, inserting from the last element back, so that elements that compare
    both ways keep their order. -/
def sortBy : List α → List α
  | [] => []
  | a :: l => insertBy le a (sortBy l)

theorem insertBy_perm (a : α) (l : List α) : (insertBy le a l).Perm (a :: l) := by
  induction l with
  | nil => exact .refl _
  | cons b l ih =>
    unfold insertBy
    split
    · exact .refl _
    · exact ((ih.cons b).trans (.swap a b l))

theorem sortBy_perm (l : List α) : (sortBy le l).Perm l := by
  induction l with
  | nil => exact .refl _
  | cons a l ih => exact (insertBy_perm le a _).trans (ih.cons a)

@[simp] theorem mem_sortBy {l : List α} {x : α} : x ∈ sortBy le l ↔ x ∈ l :=
  (sortBy_perm le l).mem_iff

variable {le}

/-- Inserting into a sorted list keeps it sorted, for a total and transitive order. -/
theorem pairwise_insertBy (trans : ∀ a b c, le a b → le b c → le a c)
    (total : ∀ a b, !le a b → le b a) (a : α) :
    ∀ {l : List α}, l.Pairwise (le · ·) → (insertBy le a l).Pairwise (le · ·)
  | [], _ => List.pairwise_singleton _ _
  | b :: l, h => by
    obtain ⟨hb, hl⟩ := List.pairwise_cons.1 h
    unfold insertBy
    split
    · rename_i hab
      exact List.pairwise_cons.2 ⟨fun c hc => by
        rcases List.mem_cons.1 hc with rfl | hc
        · exact hab
        · exact trans _ _ _ hab (hb c hc), h⟩
    · rename_i hab
      have hba : le b a := total a b (by simpa using hab)
      refine List.pairwise_cons.2 ⟨fun c hc => ?_, pairwise_insertBy trans total a hl⟩
      rcases List.mem_cons.1 ((insertBy_perm le a l).mem_iff.1 hc) with rfl | hc
      · exact hba
      · exact hb c hc

/-- The sort gives a sorted list, for a total and transitive order. -/
theorem pairwise_sortBy (trans : ∀ a b c, le a b → le b c → le a c)
    (total : ∀ a b, !le a b → le b a) (l : List α) : (sortBy le l).Pairwise (le · ·) := by
  induction l with
  | nil => exact .nil
  | cons a l ih => exact pairwise_insertBy trans total a ih

end Sorting

end IncrementalLR
