import IncrementalLR.Proofs.Parse.FieldMapsKept
import IncrementalLR.Proofs.Grammar.Labels
import IncrementalLR.Proofs.Tree.CursorFields

/-!
# Field names follow the grammar's labels
-/

namespace IncrementalLR

namespace Grammar

variable {g : Grammar} {sets : ItemSets} {t : ParseTable}

/-- A map that the run over productions `l` adds is the map of one of them. -/
theorem mem_foldl_addFieldMap (names : List String) (P : List FieldEntry → Prop) :
    ∀ (l : List Production) (acc : Array (List FieldEntry) × Array Nat),
      (∀ p ∈ l, P (fieldEntries names p)) → (∀ m ∈ acc.1, P m) →
      ∀ m ∈ (l.foldl (addFieldMap names) acc).1, P m
  | [], _, _, hacc => hacc
  | p :: l, (maps, ids), hl, hacc => by
    refine mem_foldl_addFieldMap names P l _ (fun q hq => hl q (List.mem_cons_of_mem p hq)) ?_
    rw [addFieldMap_mk]
    split
    · exact hacc
    · intro m hm
      rcases Array.mem_push.1 hm with hm | rfl
      · exact hacc m hm
      · exact hl p List.mem_cons_self

/-- Every field map the builder makes is the empty one or a production's. -/
theorem mem_fieldMaps (g : Grammar) (names : List String) {m : List FieldEntry}
    (hm : m ∈ (g.fieldMaps names).1) : m = [] ∨ ∃ prod ∈ g.productions, m = fieldEntries names prod := by
  rw [fieldMaps_eq, ← Array.foldl_toList] at hm
  refine mem_foldl_addFieldMap names (fun m => m = [] ∨ ∃ prod ∈ g.productions, m = fieldEntries names prod) _ _
    (fun p hp => .inr ⟨p, Array.mem_toList_iff.1 hp, rfl⟩) ?_ m hm
  simp

/-- Every field in the maps of a built table has a name. -/
theorem fieldName?_of_mem_fieldMap (h : g.table sets = .ok t) (hfew : g.fieldNames.length < 65536)
    {production : Nat} {e : FieldEntry}
    (he : e ∈ t.fieldMap production) : ∃ name, t.fieldName? e.field = some name := by
  rw [ParseTable.fieldMap, (table_fields h).2] at he
  cases hm : (g.fieldMaps g.fieldNames).1[production]? with
  | none =>
    rw [hm] at he
    cases he
  | some m =>
    rw [hm, Option.getD_some] at he
    rcases mem_fieldMaps g g.fieldNames (Array.mem_of_getElem? hm) with rfl | ⟨prod, hprod, rfl⟩
    · cases he
    · obtain ⟨x, hx, rfl⟩ := List.mem_map.1 ((sortBy_perm _ _).subset he)
      obtain ⟨p, hp⟩ := Array.mem_iff_getElem?.1 hprod
      exact ⟨x.2, fieldName?_fieldIdIn h hfew (mem_fieldNames hp hx)⟩

end Grammar

/-! ### From field ids to names -/

theorem ParseTable.childField_eq_bind (t : ParseTable) (production k : Nat) :
    t.childField production k = (t.childFieldId production k).bind t.fieldName? := by
  rw [ParseTable.childField, ParseTable.childFieldId, Option.bind_map]
  rfl

theorem findSome?_bind {α β : Type} (f : α → Option β) :
    ∀ l : List (Subtree × Option α), (∀ a ∈ l, ∀ i, a.2 = some i → (f i).isSome) →
      (l.findSome? (·.2)).bind f = l.findSome? fun a => a.2.bind f
  | [], _ => rfl
  | (x, none) :: l, hf => by
    simpa using findSome?_bind f l fun a ha => hf a (List.mem_cons_of_mem _ ha)
  | (x, some i) :: l, hf => by
    obtain ⟨b, hb⟩ := Option.isSome_iff_exists.1 (hf (x, some i) List.mem_cons_self i rfl)
    simp [hb]

/-- Reading the labels through `f` commutes with taking the innermost one, when `f`
    names every label. -/
theorem innermostLabel_bind {α β : Type} (f : α → Option β) (l : List (Subtree × Option α))
    (hf : ∀ a ∈ l, ∀ i, a.2 = some i → (f i).isSome) :
    (innermostLabel l).bind f = innermostLabel (l.map fun a => (a.1, a.2.bind f)) := by
  cases l with
  | nil => rfl
  | cons a up =>
    obtain ⟨x, l⟩ := a
    simp only [innermostLabel, List.map_cons]
    split
    · rfl
    · have hsub : ∀ b ∈ (x, l) :: up.takeWhile (fun a => !a.1.isVisible && !a.1.isExtra),
          ∀ i, b.2 = some i → (f i).isSome := by
        intro b hb
        rcases List.mem_cons.1 hb with rfl | hb
        · exact hf _ List.mem_cons_self
        · exact hf b (List.mem_cons_of_mem _ ((List.takeWhile_sublist _).subset hb))
      rw [findSome?_bind f _ hsub, List.takeWhile_map]
      exact (List.findSome?_map (p := fun a : Subtree × Option β => a.2)
        (f := fun a : Subtree × Option α => (a.1, a.2.bind f))
        (l := (x, l) :: up.takeWhile fun a => !a.1.isVisible && !a.1.isExtra)).symm

theorem labelsAlong_map {α β : Type} (label : Subtree → Nat → Option α) (f : α → Option β) :
    ∀ (x : Subtree) (address : List Nat),
      (x.labelsAlong label address).map (fun a => (a.1, a.2.bind f)) =
        x.labelsAlong (fun y k => (label y k).bind f) address
  | _, [] => rfl
  | x, i :: address => by
    simp only [Subtree.labelsAlong]
    cases x.children[i]? with
    | none => rfl
    | some c => simp [labelsAlong_map label f c address]

theorem mem_labelsAlong {α : Type} (label : Subtree → Nat → Option α) :
    ∀ (x : Subtree) (address : List Nat), ∀ a ∈ x.labelsAlong label address, ∃ y k, a.2 = label y k
  | _, [], _, ha => by cases ha
  | x, i :: address, a, ha => by
    simp only [Subtree.labelsAlong] at ha
    cases hc : x.children[i]? with
    | none =>
      rw [hc] at ha
      cases ha
    | some c =>
      rw [hc] at ha
      rcases List.mem_append.1 ha with ha | ha
      · exact mem_labelsAlong label c address a ha
      · rw [List.mem_singleton.1 ha]
        exact ⟨x, _, rfl⟩

theorem SyntaxNode.walkAll_table (n : SyntaxNode) (table : ParseTable) :
    ∀ c ∈ n.walkAll table, c.table = table := by
  intro c hc
  have hstart : (n.walk table).Below table n.tree := ⟨rfl, rfl, .nil⟩
  exact (TreeCursor.below_moves.walkFrom _ _ hstart c hc).1

/-- With a built table whose field ids do not wrap, every cursor of a pre-order walk
    reports the name of the innermost label on the chain above it. -/
theorem Grammar.walkAll_fieldName {g : Grammar} {sets : ItemSets} {t : ParseTable}
    (h : g.table sets = .ok t) (hfew : g.fieldNames.length < 65536) (n : SyntaxNode) :
    ∀ c ∈ n.walkAll t, n.tree.nodeAt c.address = some c.node.tree ∧
      c.fieldName? = innermostLabel (n.tree.labelsAlong (fun x k => t.childField x.production k) c.address) := by
  intro c hc
  obtain ⟨hnode, hfield⟩ := n.walkAll_fieldId t c hc
  refine ⟨hnode, ?_⟩
  -- every label on the chain is a field of some map, and so has a name
  have hnamed : ∀ a ∈ n.tree.labelsAlong (fun x k => t.childFieldId x.production k) c.address,
      ∀ i, a.2 = some i → (t.fieldName? i).isSome := by
    intro a ha i hi
    obtain ⟨y, k, hyk⟩ := mem_labelsAlong _ _ _ a ha
    rw [hyk, ParseTable.childFieldId, Option.map_eq_some_iff] at hi
    obtain ⟨e, he, rfl⟩ := hi
    obtain ⟨name, hname⟩ := Grammar.fieldName?_of_mem_fieldMap h hfew (List.mem_of_find?_eq_some he)
    simp [hname]
  rw [TreeCursor.fieldName?, hfield, n.walkAll_table t c hc, innermostLabel_bind _ _ hnamed,
    labelsAlong_map]
  simp only [← ParseTable.childField_eq_bind]

/-! ### Parse trees -/

namespace Subtree.Fielded

variable {g : Grammar} {u : Subtree}

/-- Every subtree that child indices lead to keeps its field maps. -/
theorem nodeAt : ∀ {x : Subtree} (address : List Nat), x.Fielded g → x.nodeAt address = some u →
    u.Fielded g
  | _, [], h, hu => by
    simp only [Subtree.nodeAt, Option.some.injEq] at hu
    exact hu ▸ h
  | x, i :: address, h, hu => by
    simp only [Subtree.nodeAt] at hu
    cases hc : x.children[i]? with
    | none =>
      rw [hc] at hu
      cases hu
    | some c =>
      rw [hc, Option.bind_some] at hu
      exact nodeAt address (h.child (List.mem_of_getElem? hc)) hu

/-- A node that keeps the field map of a labelled production it spells has the labels of
    a rule alternative its children spell, and its field map names each child by its
    label. -/
theorem labels {E : Ebnf} {reps : RepeatRules} {sets : ItemSets} {t : ParseTable}
    (ht : g.table sets = .ok t) (hfew : g.fieldNames.length < 65536)
    (hlabeled : ∀ p prod, 1 ≤ p → g.productions[p]? = some prod → prod.Labeled E reps)
    (hu : u.Fielded g) (herr : u.symbol ≠ errorSymbol) (hchild : ∃ c ∈ u.children, c.isExtra = false) :
    ∃ ls, E.LabelsOf reps u.symbol ((u.children.filter fun c => !c.isExtra).map Subtree.symbol) ls ∧
      ∀ k, t.childField u.production k = (ls[k]?).join := by
  obtain ⟨p, prod, hp, hprod, hlhs, hspell, hf⟩ := hu.keeps herr hchild
  obtain ⟨ls, hls, hkeys, hlookup⟩ := (hlabeled p prod hp hprod).lookup
  refine ⟨ls, by rw [hspell, ← hlhs]; exact hls, fun k => ?_⟩
  rw [hf, Grammar.childField_fieldMapId ht hfew hprod hkeys, hlookup]

end Subtree.Fielded

end IncrementalLR
