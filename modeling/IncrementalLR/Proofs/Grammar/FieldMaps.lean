import IncrementalLR.Proofs.Grammar.SlrTable

/-!
# Field maps

The builder numbers the field names of a grammar from 1, in sorted order, and gives each
production the list of its fields by child position, sorted by field id.
-/

namespace IncrementalLR

/-- The name that field map `production` gives the child at structural position `k`:
    the first entry for that child, read through the field names. -/
def ParseTable.childField (t : ParseTable) (production k : Nat) : Option String :=
  ((t.fieldMap production).find? (·.child == k)).bind fun e => t.fieldName? e.field

namespace Grammar

/-- The id of a field name among `names`: one more than its place, 0 when absent. -/
def fieldIdIn (names : List String) (name : String) : Nat :=
  (names.idxOf? name).map (fun i => (i + 1) % 65536) |>.getD 0

/-- The entries of a production's field map: its fields by id and child, sorted. -/
def fieldEntries (names : List String) (prod : Production) : List FieldEntry :=
  sortBy (fun a b => a.field < b.field || (a.field == b.field && a.child ≤ b.child))
    (prod.fields.map fun x => (⟨fieldIdIn names x.2, x.1⟩ : FieldEntry))

/-- One production's step in `fieldMaps`: reuse an equal map, or add its own. -/
def addFieldMap (names : List String) (acc : Array (List FieldEntry) × Array Nat)
    (p : Production) : Array (List FieldEntry) × Array Nat :=
  let (maps, ids) := acc
  match maps.findIdx? (· == fieldEntries names p) with
  | some id => (maps, ids.push id)
  | none => (maps.push (fieldEntries names p), ids.push maps.size)

theorem fieldMaps_eq (g : Grammar) (names : List String) :
    g.fieldMaps names = g.productions.foldl (addFieldMap names) (#[[]], #[]) := rfl

theorem addFieldMap_mk (names : List String) (maps : Array (List FieldEntry)) (ids : Array Nat)
    (p : Production) :
    addFieldMap names (maps, ids) p =
      match maps.findIdx? (· == fieldEntries names p) with
      | some id => (maps, ids.push id)
      | none => (maps.push (fieldEntries names p), ids.push maps.size) := rfl

/-- The number of the field map that reductions by production `p` carry. -/
def fieldMapId (g : Grammar) (p : Nat) : Nat := ((g.fieldMaps g.fieldNames).2[p]?).getD 0

/-- The maps and map numbers after the productions `ps`: one number for each, naming
    a map equal to its entries. -/
def MapsHold (names : List String) (ps : List Production)
    (acc : Array (List FieldEntry) × Array Nat) : Prop :=
  acc.2.size = ps.length ∧
    ∀ k (hk : k < ps.length), ∃ id, acc.2[k]? = some id ∧ acc.1[id]? = some (fieldEntries names ps[k])

/-- A step keeps the numbers and maps already given, and numbers the new production. -/
theorem MapsHold.add {names : List String} {ps : List Production}
    {acc : Array (List FieldEntry) × Array Nat} (h : MapsHold names ps acc) (p : Production) :
    MapsHold names (ps ++ [p]) (addFieldMap names acc p) := by
  obtain ⟨maps, ids⟩ := acc
  obtain ⟨hsize, hmaps⟩ := h
  simp only at hsize hmaps
  -- the entries of the productions before `p` stay where they were
  have hold : ∀ (maps' : Array (List FieldEntry)) (id : Nat),
      (∀ i < maps.size, maps'[i]? = maps[i]?) →
      ∀ k (hk : k < (ps ++ [p]).length), k < ps.length →
        ∃ i, (ids.push id)[k]? = some i ∧ maps'[i]? = some (fieldEntries names (ps ++ [p])[k]) := by
    intro maps' id hkeep k _ hk
    obtain ⟨i, hi, hmap⟩ := hmaps k hk
    refine ⟨i, ?_, ?_⟩
    · rw [Array.getElem?_push, if_neg (by omega), hi]
    · rw [hkeep i (Array.getElem?_eq_some_iff.1 hmap).1, hmap, List.getElem_append_left hk]
  rw [addFieldMap_mk]
  split
  · rename_i id hfind
    obtain ⟨hid, heq, -⟩ := Array.findIdx?_eq_some_iff_getElem.1 hfind
    refine ⟨by simp [hsize], fun k hk => ?_⟩
    by_cases hkp : k < ps.length
    · exact hold maps id (fun _ _ => rfl) k hk hkp
    · have hk' : k = ps.length := by simp at hk; omega
      subst hk'
      refine ⟨id, by rw [Array.getElem?_push, if_pos (by omega)], ?_⟩
      rw [Array.getElem?_eq_getElem hid, eq_of_beq heq]
      simp
  · refine ⟨by simp [hsize], fun k hk => ?_⟩
    by_cases hkp : k < ps.length
    · exact hold _ maps.size (fun i hi => by rw [Array.getElem?_push, if_neg (by omega)]) k hk hkp
    · have hk' : k = ps.length := by simp at hk; omega
      subst hk'
      refine ⟨maps.size, by rw [Array.getElem?_push, if_pos (by omega)], ?_⟩
      simp

/-- The run over a list of productions: each numbered as the step numbers it. -/
theorem mapsHold_foldl (names : List String) :
    ∀ (l ps : List Production) (acc : Array (List FieldEntry) × Array Nat),
      MapsHold names ps acc → MapsHold names (ps ++ l) (l.foldl (addFieldMap names) acc)
  | [], ps, acc, h => by simpa using h
  | p :: l, ps, acc, h => by
    have := mapsHold_foldl names l (ps ++ [p]) _ (h.add p)
    simpa using this

/-- The map that production `p` carries has its entries. -/
theorem fieldMaps_fieldMapId (g : Grammar) {p : Nat} {prod : Production}
    (hp : g.productions[p]? = some prod) :
    (g.fieldMaps g.fieldNames).1[g.fieldMapId p]? = some (fieldEntries g.fieldNames prod) := by
  have hstart : MapsHold g.fieldNames [] ((#[[]], #[]) : Array (List FieldEntry) × Array Nat) :=
    ⟨rfl, fun k hk => absurd hk (Nat.not_lt_zero k)⟩
  have hall := mapsHold_foldl g.fieldNames g.productions.toList [] _ hstart
  rw [List.nil_append, Array.foldl_toList, ← fieldMaps_eq] at hall
  have hlt : p < g.productions.toList.length := by
    simpa using (Array.getElem?_eq_some_iff.1 hp).1
  obtain ⟨id, hid, hmap⟩ := hall.2 p hlt
  have hprod : g.productions.toList[p] = prod := by
    simpa [Array.getElem?_eq_getElem (by simpa using hlt)] using hp
  rw [fieldMapId, hid, Option.getD_some, hmap, hprod]

/-- Every field name of every production is among the grammar's field names. -/
theorem mem_fieldNames {g : Grammar} {p : Nat} {prod : Production}
    (hp : g.productions[p]? = some prod) {k : Nat} {name : String} (h : (k, name) ∈ prod.fields) :
    name ∈ g.fieldNames := by
  rw [fieldNames, List.mem_eraseDups, mem_sortBy, List.mem_flatMap]
  exact ⟨prod, Array.mem_toList_iff.2 (Array.mem_of_getElem? hp), List.mem_map.2 ⟨(k, name), h, rfl⟩⟩

end Grammar

/-! ### Reading a field map back -/

/-- In a list whose entries name distinct children, the entry for a child is the same
    in any order. -/
theorem find?_child_perm {l l' : List FieldEntry} (hp : l.Perm l') (hn : (l.map (·.child)).Nodup)
    (k : Nat) : l.find? (·.child == k) = l'.find? (·.child == k) := by
  have hn' : (l'.map (·.child)).Nodup := (hp.map _).nodup_iff.1 hn
  -- with distinct children, the entry found is the one member for the child
  have hiff : ∀ {m : List FieldEntry}, (m.map (·.child)).Nodup → ∀ e,
      m.find? (·.child == k) = some e ↔ e ∈ m ∧ e.child = k := by
    intro m hm e
    constructor
    · intro h
      exact ⟨List.mem_of_find?_eq_some h, by simpa using List.find?_some h⟩
    · rintro ⟨he, rfl⟩
      obtain ⟨e', he'⟩ : ∃ e', m.find? (·.child == e.child) = some e' := by
        cases h : m.find? (·.child == e.child) with
        | some e' => exact ⟨e', rfl⟩
        | none => exact absurd (List.find?_eq_none.1 h e he) (by simp)
      have hk : e'.child = e.child := by simpa using List.find?_some he'
      rw [he', List.inj_on_of_nodup_map hm (List.mem_of_find?_eq_some he') he hk]
  cases h : l.find? (·.child == k) with
  | some e =>
    obtain ⟨he, hk⟩ := (hiff hn e).1 h
    exact ((hiff hn' e).2 ⟨hp.subset he, hk⟩).symm
  | none =>
    cases h' : l'.find? (·.child == k) with
    | none => rfl
    | some e =>
      obtain ⟨he, hk⟩ := (hiff hn' e).1 h'
      rw [(hiff hn e).2 ⟨hp.symm.subset he, hk⟩] at h
      cases h

/-- Looking a key up finds the value of the first pair with that key. -/
theorem List.lookup_eq_find?_map {β : Type} :
    ∀ (l : List (Nat × β)) (k : Nat), l.lookup k = (l.find? (·.1 == k)).map (·.2)
  | [], _ => rfl
  | (k', b) :: l, k => by
    rw [List.lookup_cons, List.find?_cons, List.lookup_eq_find?_map l k]
    by_cases h : k = k'
    · subst h
      simp
    · have h₁ : (k == k') = false := by simpa using h
      have h₂ : (k' == k) = false := by simpa using Ne.symm h
      simp [h₁, h₂]

namespace Grammar

variable {g : Grammar} {sets : ItemSets} {t : ParseTable}

/-- A built table keeps the grammar's field names and maps. -/
theorem table_fields (h : g.table sets = .ok t) :
    t.fieldNames = g.fieldNames.toArray ∧ t.fieldMaps = (g.fieldMaps g.fieldNames).1 := by
  replace h := tableWith_of_table h
  simp only [tableWith] at h
  obtain ⟨⟨actions, gotos⟩, -, h⟩ := Except.bind_eq_ok.1 h
  cases h
  exact ⟨rfl, rfl⟩

/-- A field name of the grammar reads back from its id, when the ids do not wrap. -/
theorem fieldName?_fieldIdIn (h : g.table sets = .ok t) (hfew : g.fieldNames.length < 65536)
    {name : String} (hname : name ∈ g.fieldNames) :
    t.fieldName? (fieldIdIn g.fieldNames name) = some name := by
  obtain ⟨i, hi⟩ : ∃ i, g.fieldNames.idxOf? name = some i := by
    cases hidx : g.fieldNames.idxOf? name with
    | some i => exact ⟨i, rfl⟩
    | none => exact absurd hname (List.idxOf?_eq_none_iff.1 hidx)
  obtain ⟨hlt, hget, -⟩ := List.idxOf?_eq_some_iff.1 hi
  have hid : (i + 1) % 65536 = i + 1 := Nat.mod_eq_of_lt (by omega)
  simp only [ParseTable.fieldName?, fieldIdIn, hi, Option.map_some, Option.getD_some, hid,
    Nat.add_one_ne_zero, if_false, Nat.add_sub_cancel, (table_fields h).1, List.getElem?_toArray,
    List.getElem?_eq_getElem hlt, hget]

/-- The field map that reductions by a production carry gives each child the name the
    production gives it, when the production names each child at most once. -/
theorem childField_fieldMapId (h : g.table sets = .ok t) (hfew : g.fieldNames.length < 65536)
    {p : Nat} {prod : Production}
    (hp : g.productions[p]? = some prod) (hkeys : (prod.fields.map Prod.fst).Nodup) (k : Nat) :
    t.childField (g.fieldMapId p) k = prod.fields.lookup k := by
  have hmap : t.fieldMap (g.fieldMapId p) = fieldEntries g.fieldNames prod := by
    rw [ParseTable.fieldMap, (table_fields h).2, fieldMaps_fieldMapId g hp, Option.getD_some]
  let entries : List FieldEntry :=
    prod.fields.map fun x => (⟨fieldIdIn g.fieldNames x.2, x.1⟩ : FieldEntry)
  have hchildren : (entries.map (·.child)).Nodup := by
    simpa [entries, List.map_map, Function.comp_def] using hkeys
  -- the sorted map finds what the unsorted entries find
  have hfind : (fieldEntries g.fieldNames prod).find? (·.child == k) = entries.find? (·.child == k) :=
    (find?_child_perm (sortBy_perm _ entries).symm hchildren k).symm
  have hcomp : ((·.child == k) ∘ fun x : Nat × String => (⟨fieldIdIn g.fieldNames x.2, x.1⟩ : FieldEntry)) =
      (·.1 == k) := rfl
  rw [ParseTable.childField, hmap, hfind, List.find?_map, hcomp, List.lookup_eq_find?_map]
  cases hf : prod.fields.find? (·.1 == k) with
  | none => rfl
  | some x =>
    simp only [Option.map_some, Option.bind_some]
    exact fieldName?_fieldIdIn h hfew (mem_fieldNames hp (List.mem_of_find?_eq_some hf))

end Grammar

/-- A reduction the table asks for in a state carries the field map of a production of
    its symbol and length whose completed item is in the state. -/
theorem ParseTable.Built.reduce_fieldMapId {g : Grammar} {sets : ItemSets} {t : ParseTable}
    (hb : t.Built g sets) {T a A n f : Nat} (h : t.action? T a = some (.reduce A n f)) :
    ∃ p prod items, 1 ≤ p ∧ g.productions[p]? = some prod ∧ prod.lhs = A ∧
      prod.rhs.length = n ∧ sets.states[T - 1]? = some items ∧ (p, n) ∈ items ∧
      f = g.fieldMapId p := by
  obtain ⟨ha, hT, items, hitems, -⟩ := hb.action_sound h
  obtain ⟨res, hres, hact⟩ := hb.action?_of_scan hitems (hb.tokenCount_eq ▸ ha)
  rw [Nat.sub_add_cancel hT, h] at hact
  rcases Grammar.cellAction_ok hres with ⟨T', -, -, rfl⟩ | ⟨r, -, hone, -, rfl⟩ | ⟨-, -, rfl⟩
  · simp [Grammar.cellOf] at hact
  · simp only [Grammar.cellOf, List.head?_cons, Option.some.injEq, Action.reduce.injEq] at hact
    obtain ⟨rfl, rfl, rfl⟩ := hact
    have hrs := Grammar.lookup_eq_some_of_getD_cons hone
    obtain ⟨prod, hprod, hsym, hcount, hmap⟩ := (Grammar.scan_reductions hb.sound hitems hrs).2 r
      List.mem_cons_self
    have hcell := Grammar.slrCell_reduce_of_scan hb.wellFormed hb.sound hitems
      ⟨_, hrs, r, List.mem_cons_self, rfl⟩
    cases hcell with
    | reduce hp hprod' hit _ =>
      rw [hprod] at hprod'
      cases hprod'
      rw [ItemSets.holds_succ hitems] at hit
      exact ⟨r.production, prod, items, hp, hprod, hsym.symm, hcount.symm, hitems, hcount ▸ hit, hmap⟩
  · -- acceptance, an extra's shift in place, or nothing
    split at hact
    · simp [Grammar.cellOf] at hact
    · simp only [Grammar.cellOf] at hact
      split at hact <;> simp at hact

end IncrementalLR
