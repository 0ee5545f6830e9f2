import IncrementalLR.Proofs.Grammar.FieldMaps

/-!
# Looking names up

A table names its symbols and its fields and looks them up by name: a symbol by its name and
whether it is named, a field by its name.
-/

namespace IncrementalLR

/-- Erasing duplicates leaves each member once. -/
theorem List.eraseDups_nodup {α : Type} [BEq α] [LawfulBEq α] : ∀ l : List α, l.eraseDups.Nodup
  | [] => List.nodup_nil
  | a :: as => by
    rw [List.eraseDups_cons]
    refine List.nodup_cons.2 ⟨?_, List.eraseDups_nodup _⟩
    -- the members equal to the head are filtered out before the rest is deduplicated
    rw [List.mem_eraseDups, List.mem_filter]
    simp
termination_by l => l.length
decreasing_by exact Nat.lt_succ_of_le (List.length_filter_le _ _)

/-- Searching the numbers below `n` for the first that passes, with `0` for none, gives a
    number `s` that passes exactly when no lower number passes. -/
theorem find?_range_getD_eq_iff {n s : Nat} {p : Nat → Bool} (hs : s < n) (hp : p s = true) :
    ((List.range n).find? p).getD 0 = s ↔ ∀ j < s, p j = false := by
  constructor
  · intro h
    cases hfind : (List.range n).find? p with
    | none =>
      have := List.find?_eq_none.1 hfind s (List.mem_range.2 hs)
      rw [hp] at this
      cases this rfl
    | some s₀ =>
      rw [hfind, Option.getD_some] at h
      subst h
      intro j hj
      simpa using (List.find?_range_eq_some.1 hfind).2.2 j hj
  · intro hlow
    have hfind : (List.range n).find? p = some s :=
      List.find?_range_eq_some.2 ⟨hp, List.mem_range.2 hs, fun j hj => by simp [hlow j hj]⟩
    rw [hfind, Option.getD_some]

namespace ParseTable

variable {t : ParseTable}

/-- A field id from 1 on names the field listed one place lower. -/
theorem fieldName?_eq {j : Nat} (hj : j ≠ 0) : t.fieldName? j = t.fieldNames.toList[j - 1]? := by
  rw [fieldName?, if_neg hj, Array.getElem?_toList]

/-- Where the field names are listed each once, every field id from 1 to the field count
    taken as 16 bits has a name, and looking that name up gives the id back. -/
theorem fieldId?_fieldName? (hnodup : t.fieldNames.toList.Nodup) {f : Nat} (h1 : 1 ≤ f)
    (hf : f ≤ t.fieldCount % 65536) :
    ∃ name, t.fieldName? f = some name ∧ t.fieldId? name = some f := by
  have hlt : f - 1 < t.fieldNames.toList.length := by
    have := Nat.mod_le t.fieldCount 65536
    rw [Array.length_toList]
    unfold fieldCount at hf this
    omega
  have hname : t.fieldName? f = some t.fieldNames.toList[f - 1] := by
    rw [fieldName?_eq (by omega), List.getElem?_eq_getElem hlt]
  refine ⟨_, hname, ?_⟩
  rw [fieldId?, List.find?_range'_eq_some]
  refine ⟨by simp [hname], List.mem_range'_1.2 ⟨h1, by omega⟩, ?_⟩
  -- a lower id has another name, since each name is listed once
  intro j hj hjf
  have hne := List.nodup_iff_getElem?_ne_getElem?.1 hnodup (j - 1) (f - 1) (by omega) hlt
  rw [List.getElem?_eq_getElem hlt] at hne
  simpa [fieldName?_eq (show j ≠ 0 by omega)] using hne

/-- Below the error symbol, a symbol's name is its entry in the names. -/
theorem kindName?_of_lt {j : Nat} (hj : j < errorSymbol) : t.kindName? j = t.symbolNames[j]? := by
  rw [kindName?, if_neg (Nat.ne_of_lt hj)]

/-- Below the error symbol, a symbol's namedness is that of its entry. -/
theorem info_of_lt {j : Nat} (hj : j < errorSymbol) :
    t.info j = t.symbolInfo[j]?.getD ⟨false, false⟩ := by
  rw [info, if_neg (Nat.ne_of_lt hj)]

/-- In a table with no symbol at the error symbol, looking up the name and namedness of a
    symbol finds that symbol exactly when it is no named `ERROR` and no lower symbol has
    the same name and namedness. -/
theorem kindId_kindName?_iff (herr : t.symbolCount ≤ errorSymbol) {s : Nat}
    (hs : s < t.symbolCount) :
    ∃ name, t.kindName? s = some name ∧
      (t.kindId name (t.info s).named = s ↔ ¬ (name = "ERROR" ∧ (t.info s).named = true) ∧
        ∀ s' < s, ¬ (t.kindName? s' = some name ∧ (t.info s').named = (t.info s).named)) := by
  have hse : s < errorSymbol := Nat.lt_of_lt_of_le hs herr
  have hname : t.kindName? s = some t.symbolNames[s] := by
    rw [kindName?_of_lt hse, Array.getElem?_eq_getElem hs]
  refine ⟨_, hname, ?_⟩
  rw [kindId]
  by_cases hE : t.symbolNames[s] = "ERROR" ∧ (t.info s).named = true
  · -- a named `ERROR` is the error symbol, above every symbol of the table
    rw [if_pos hE]
    exact ⟨fun h => absurd h (Nat.ne_of_gt hse), fun h => absurd hE h.1⟩
  · rw [if_neg hE, find?_range_getD_eq_iff hs
      (by simp [info_of_lt hse, Array.getElem?_eq_getElem hs])]
    simp only [hE, not_false_eq_true, true_and]
    -- below `s` the lookup reads the same entries as the names and infos do
    refine forall_congr' fun j => imp_congr_right fun hj => ?_
    have hje : j < errorSymbol := Nat.lt_trans hj hse
    rw [kindName?_of_lt hje, info_of_lt hje, info_of_lt hse]
    simp

end ParseTable

/-- A built table lists its field names each once. -/
theorem Grammar.fieldNames_nodup {g : Grammar} {sets : ItemSets} {t : ParseTable}
    (h : g.table sets = .ok t) : t.fieldNames.toList.Nodup := by
  rw [(Grammar.table_fields h).1, List.toList_toArray, Grammar.fieldNames]
  exact List.eraseDups_nodup _

/-- Names in a built table: every field id from 1 to the field count, which lookups take
    as 16 bits, leads to its name and back, and a symbol comes back from its name and
    namedness exactly when it is no named `ERROR` and no lower symbol has the same name and
    namedness. -/
theorem GrammarSpec.build_names_round_trip {spec : GrammarSpec} {t : ParseTable}
    (h : spec.build = .ok t) :
    (∀ f, 1 ≤ f → f ≤ t.fieldCount % 65536 →
      ∃ name, t.fieldName? f = some name ∧ t.fieldId? name = some f) ∧
    ∀ s < t.symbolCount, ∃ name, t.kindName? s = some name ∧
      (t.kindId name (t.info s).named = s ↔ ¬ (name = "ERROR" ∧ (t.info s).named = true) ∧
        ∀ s' < s, ¬ (t.kindName? s' = some name ∧ (t.info s').named = (t.info s).named)) := by
  obtain ⟨g, sets, hb⟩ := GrammarSpec.build_built h
  have herr : t.symbolCount ≤ errorSymbol := by
    rw [hb.symbolCount_eq]
    exact hb.wellFormed.size_le
  exact ⟨fun _ h1 hf => ParseTable.fieldId?_fieldName? (Grammar.fieldNames_nodup hb.table) h1 hf,
    fun _ hs => ParseTable.kindId_kindName?_iff herr hs⟩

/-- In the sample, the fields `f` and `g` have the ids 1 and 2, the literal `ab` and the
    rule `s` come back from their names, and so does every other symbol. -/
theorem GrammarSpec.build_names_round_trip_sample :
    ParseTable.sample.fieldId? "f" = some 1 ∧ ParseTable.sample.fieldId? "g" = some 2 ∧
      ParseTable.sample.kindId "ab" false = 3 ∧ ParseTable.sample.kindId "s" true = 4 ∧
      ((∀ f, 1 ≤ f → f ≤ ParseTable.sample.fieldCount % 65536 →
        ∃ name, ParseTable.sample.fieldName? f = some name ∧ ParseTable.sample.fieldId? name = some f) ∧
      ∀ s < ParseTable.sample.symbolCount, ∃ name, ParseTable.sample.kindName? s = some name ∧
        (ParseTable.sample.kindId name (ParseTable.sample.info s).named = s ↔
          ¬ (name = "ERROR" ∧ (ParseTable.sample.info s).named = true) ∧
          ∀ s' < s, ¬ (ParseTable.sample.kindName? s' = some name ∧
            (ParseTable.sample.info s').named = (ParseTable.sample.info s).named))) :=
  ⟨by decide, by decide, by decide, by decide,
    GrammarSpec.build_names_round_trip GrammarSpec.build_sample⟩

end IncrementalLR
