import IncrementalLR.Proofs.Grammar.Expansion

/-!
# The labels of the expanded productions

An item `field:x` labels the children it stands for with `field`.
-/

namespace IncrementalLR

namespace Ebnf

/-- The label an item puts on the symbol it writes: its field, unless it is repeated,
    when the repetition rule carries the field. -/
def itemLabel (item : Item) : Option String :=
  match item.suffix with
  | none => item.field
  | some c => if c = '?' then item.field else none

/-- The right sides that the expansion writes for an alternative, each symbol with its
    label: one side of each item, in order. -/
inductive LabeledSides (E : Ebnf) (reps : RepeatRules) :
    List Item → List Nat → List (Option String) → Prop
  | nil : LabeledSides E reps [] [] []
  | cons {item : Item} {items : List Item} {x : Nat} {γ δ : List Nat} {ls : List (Option String)}
      (hx : Expansion.resolve E.scope item = .ok x) (hside : ItemSide reps item x γ)
      (rest : LabeledSides E reps items δ ls) :
      LabeledSides E reps (item :: items) (γ ++ δ) (γ.map (fun _ => itemLabel item) ++ ls)

/-- The labels of a right side of `A`: those of a side of an alternative of rule `A`, or,
    when `A` is the repetition rule of `x` with field `f`, `f` on each `x` and nothing
    on `A`. -/
def LabelsOf (E : Ebnf) (reps : RepeatRules) (A : Nat) (rhs : List Nat)
    (ls : List (Option String)) : Prop :=
  (∃ i alts alt, E.rules[i]? = some alts ∧ alt ∈ alts ∧ A = E.tokenCount + i ∧
    E.LabeledSides reps alt rhs ls) ∨
  (∃ x f, ((x, f), A) ∈ reps ∧ ((rhs = [A, x] ∧ ls = [none, f]) ∨ (rhs = [x] ∧ ls = [f])))

/-- Labels as fields, each with its position, the first at `n`. -/
def fieldsFrom : Nat → List (Option String) → List (Nat × String)
  | _, [] => []
  | n, l :: ls => l.toList.map (n, ·) ++ fieldsFrom (n + 1) ls

variable {E : Ebnf} {reps : RepeatRules}

/-! ### Labelled sides -/

namespace LabeledSides

theorem length {alt : List Item} {rhs : List Nat} {ls : List (Option String)}
    (h : E.LabeledSides reps alt rhs ls) : ls.length = rhs.length := by
  induction h with
  | nil => rfl
  | cons _ _ _ ih => simp [ih]

theorem append {pre items : List Item} {δ₁ δ₂ : List Nat} {ls₁ ls₂ : List (Option String)}
    (h₁ : E.LabeledSides reps pre δ₁ ls₁) (h₂ : E.LabeledSides reps items δ₂ ls₂) :
    E.LabeledSides reps (pre ++ items) (δ₁ ++ δ₂) (ls₁ ++ ls₂) := by
  induction h₁ with
  | nil => exact h₂
  | cons hx hside _ ih => simpa [List.append_assoc] using cons hx hside ih

/-- The sides of one item, with its label on its symbol. -/
theorem single {item : Item} {x : Nat} {γ : List Nat} (hx : Expansion.resolve E.scope item = .ok x)
    (hside : ItemSide reps item x γ) :
    E.LabeledSides reps [item] γ (γ.map fun _ => itemLabel item) := by
  simpa using cons hx hside nil

end LabeledSides

/-- A repetition rule found stays found when more are made. -/
theorem itemSide_mono {item : Item} {x : Nat} {γ : List Nat} (h : ItemSide reps item x γ)
    (more : RepeatRules) : ItemSide (reps ++ more) item x γ := by
  unfold ItemSide at h ⊢
  rcases hs : item.suffix with _ | c
  · simpa only [hs] using h
  · simp only [hs] at h ⊢
    by_cases hq : c = '?'
    · simpa only [hq, if_true] using h
    · rw [if_neg hq] at h ⊢
      rcases h with h | ⟨r, hr, rfl⟩
      · exact .inl h
      · exact .inr ⟨r, by rw [List.lookup_append, hr]; rfl, rfl⟩

/-- The sides of a repeated item: nothing for `*`, or its repetition rule. -/
theorem itemSide_repeated {item : Item} {c : Char} (hsfx : item.suffix = some c) (hq : ¬c = '?')
    {x : Nat} {γ : List Nat} :
    ItemSide reps item x γ ↔ (c = '*' ∧ γ = []) ∨ ∃ r, reps.lookup (x, item.field) = some r ∧ γ = [r] := by
  simp only [ItemSide, hsfx, if_neg hq]

theorem LabeledSides.mono {alt : List Item} {rhs : List Nat} {ls : List (Option String)}
    (h : E.LabeledSides reps alt rhs ls) (more : RepeatRules) :
    E.LabeledSides (reps ++ more) alt rhs ls := by
  induction h with
  | nil => exact .nil
  | cons hx hside _ ih => exact .cons hx (itemSide_mono hside more) ih

theorem LabelsOf.mono {A : Nat} {rhs : List Nat} {ls : List (Option String)}
    (h : E.LabelsOf reps A rhs ls) (more : RepeatRules) : E.LabelsOf (reps ++ more) A rhs ls := by
  rcases h with ⟨i, alts, alt, hi, halt, hA, hs⟩ | ⟨x, f, hmem, hrhs⟩
  · exact .inl ⟨i, alts, alt, hi, halt, hA, hs.mono more⟩
  · exact .inr ⟨x, f, List.mem_append_left _ hmem, hrhs⟩

/-! ### Fields by position -/

theorem fieldsFrom_append (n : Nat) (ls₁ ls₂ : List (Option String)) :
    fieldsFrom n (ls₁ ++ ls₂) = fieldsFrom n ls₁ ++ fieldsFrom (n + ls₁.length) ls₂ := by
  induction ls₁ generalizing n with
  | nil => simp [fieldsFrom]
  | cons l ls ih => simp [fieldsFrom, ih, Nat.add_assoc, Nat.add_comm 1]

/-- The positions of the fields from `n` on are `n` or after, each once. -/
theorem fieldsFrom_keys (n : Nat) (ls : List (Option String)) :
    ((fieldsFrom n ls).map Prod.fst).Nodup ∧ ∀ key ∈ (fieldsFrom n ls).map Prod.fst, n ≤ key := by
  induction ls generalizing n with
  | nil => simp [fieldsFrom]
  | cons l ls ih =>
    obtain ⟨hnodup, hge⟩ := ih (n + 1)
    cases l with
    | none => exact ⟨by simpa [fieldsFrom] using hnodup, fun key hkey => by
        have := hge key (by simpa [fieldsFrom] using hkey); omega⟩
    | some f =>
      refine ⟨?_, fun key hkey => ?_⟩
      · simp only [fieldsFrom, Option.toList_some, List.map_cons, List.map_nil, List.singleton_append,
          List.map_cons, List.nodup_cons]
        exact ⟨fun hmem => Nat.lt_irrefl n (hge n hmem), hnodup⟩
      · simp only [fieldsFrom, Option.toList_some, List.map_cons, List.map_nil, List.singleton_append,
          List.map_cons, List.mem_cons] at hkey
        rcases hkey with rfl | hkey
        · exact Nat.le_refl _
        · have := hge key hkey; omega

/-- Before `n` there is no field. -/
theorem lookup_fieldsFrom_lt {n k : Nat} (hk : k < n) (ls : List (Option String)) :
    (fieldsFrom n ls).lookup k = none := by
  rw [List.lookup_eq_none_iff]
  intro q hq
  have := (fieldsFrom_keys n ls).2 q.1 (List.mem_map_of_mem hq)
  simp only [bne_iff_ne, ne_eq]
  omega

/-- The field at position `n + k` is the label at `k`. -/
theorem lookup_fieldsFrom : ∀ (n k : Nat) (ls : List (Option String)),
    (fieldsFrom n ls).lookup (n + k) = (ls[k]?).join
  | _, _, [] => by simp [fieldsFrom]
  | n, 0, l :: ls => by
    cases l with
    | none => simpa [fieldsFrom] using lookup_fieldsFrom_lt (Nat.lt_succ_self n) ls
    | some f => simp [fieldsFrom]
  | n, k + 1, l :: ls => by
    have hrest := lookup_fieldsFrom (n + 1) k ls
    rw [show n + 1 + k = n + (k + 1) by omega] at hrest
    cases l with
    | none => simpa [fieldsFrom] using hrest
    | some f =>
      have hne : (n + (k + 1) == n) = false := by simp
      simpa [fieldsFrom, List.lookup_cons, hne] using hrest

end Ebnf

/-- A production whose fields are the labels of its right side. -/
def Production.Labeled (E : Ebnf) (reps : RepeatRules) (prod : Production) : Prop :=
  ∃ ls, E.LabelsOf reps prod.lhs prod.rhs ls ∧ prod.fields = Ebnf.fieldsFrom 0 ls

/-- A labelled production names each position at most once, with its label. -/
theorem Production.Labeled.lookup {E : Ebnf} {reps : RepeatRules} {prod : Production}
    (h : prod.Labeled E reps) :
    ∃ ls, E.LabelsOf reps prod.lhs prod.rhs ls ∧ (prod.fields.map Prod.fst).Nodup ∧
      ∀ k, prod.fields.lookup k = (ls[k]?).join := by
  obtain ⟨ls, hls, hfields⟩ := h
  refine ⟨ls, hls, hfields ▸ (Ebnf.fieldsFrom_keys 0 ls).1, fun k => ?_⟩
  rw [hfields, ← Ebnf.lookup_fieldsFrom 0 k ls, Nat.zero_add]

namespace Expansion

open Ebnf

variable {E : Ebnf}

/-- Every production made so far, but the augmented start, has the labels of its side. -/
def LabelsHold (E : Ebnf) (e : Expansion) : Prop :=
  ∀ p prod, 1 ≤ p → e.grammar.productions[p]? = some prod → prod.Labeled E e.repeats

/-- Every side made so far from the items `pre` has their labels as fields. -/
def SidesLabeled (E : Ebnf) (reps : RepeatRules) (pre : List Item)
    (sides : List (List Nat × List (Nat × String))) : Prop :=
  ∀ side ∈ sides, ∃ ls, E.LabeledSides reps pre side.1 ls ∧ side.2 = fieldsFrom 0 ls

theorem SidesLabeled.mono {reps : RepeatRules} {pre : List Item}
    {sides : List (List Nat × List (Nat × String))} (h : SidesLabeled E reps pre sides)
    (more : RepeatRules) : SidesLabeled E (reps ++ more) pre sides := by
  intro side hside
  obtain ⟨ls, hls, hfields⟩ := h side hside
  exact ⟨ls, hls.mono more, hfields⟩

/-- Making the repetition rule of `x` with field `f` gives its productions `f` on `x`,
    keeps the labels of the others, and finds the rule by its symbol and field. -/
theorem repetition_labeled {e e' : Expansion} {ruleName : String} {x r : Nat}
    {f : Option String} (h : e.repetition ruleName x f = .ok (r, e')) (hl : LabelsHold E e) :
    LabelsHold E e' ∧ e'.repeats.lookup (x, f) = some r ∧ ∃ more, e'.repeats = e.repeats ++ more := by
  unfold Expansion.repetition at h
  split at h
  · rename_i r' hlookup
    simp only [Except.ok.injEq, Prod.mk.injEq] at h
    obtain ⟨rfl, rfl⟩ := h
    exact ⟨hl, hlookup, [], (List.append_nil _).symm⟩
  · rename_i hlookup
    simp only at h
    split at h
    · cases h
    simp only [Except.ok.injEq, Prod.mk.injEq] at h
    obtain ⟨rfl, rfl⟩ := h
    have hmem : ((x, f), e.grammar.symbolNames.size) ∈ e.repeats ++ [((x, f), e.grammar.symbolNames.size)] :=
      List.mem_append_right _ List.mem_cons_self
    refine ⟨?_, ?_, _, rfl⟩
    · intro p prod hp hprod
      simp only [Array.getElem?_push, Array.size_push] at hprod
      split at hprod
      -- the production `r → x`, which labels `x` with `f`
      · cases hprod
        exact ⟨[f], .inr ⟨x, f, hmem, .inr ⟨rfl, rfl⟩⟩, by cases f <;> rfl⟩
      · split at hprod
        -- the production `r → r x`, which labels `x` with `f`
        · cases hprod
          exact ⟨[none, f], .inr ⟨x, f, hmem, .inl ⟨rfl, rfl⟩⟩, by cases f <;> rfl⟩
        · obtain ⟨ls, hls, hfields⟩ := hl p prod hp hprod
          exact ⟨ls, hls.mono _, hfields⟩
    · rw [List.lookup_append, List.lookup_eq_none_iff.2 ?_]
      · simp
      · intro q hq
        simpa using (List.lookup_eq_none_iff.1 hlookup) q hq

/-- Extending the sides by one item whose sides are those it adds. -/
theorem SidesLabeled.extend {reps : RepeatRules} {pre : List Item}
    {sides : List (List Nat × List (Nat × String))} (h : SidesLabeled E reps pre sides)
    (opt : Bool) {item : Item} {x s : Nat} (hx : Expansion.resolve E.scope item = .ok x)
    (hkeep : opt = true → ItemSide reps item x []) (hadd : ItemSide reps item x [s]) :
    SidesLabeled E reps (pre ++ [item]) (Expansion.extend sides s (itemLabel item) opt) := by
  intro side hside
  simp only [Expansion.extend, List.mem_flatMap] at hside
  obtain ⟨⟨rhs, fields⟩, hmem, hside⟩ := hside
  obtain ⟨ls, hls, hfields⟩ := h _ hmem
  simp only at hls hfields
  -- the side extended by the item's symbol, its label at the side's end
  have hwith : ∃ ls', E.LabeledSides reps (pre ++ [item]) (rhs ++ [s]) ls' ∧
      fields ++ (itemLabel item).toList.map (rhs.length, ·) = fieldsFrom 0 ls' := by
    refine ⟨ls ++ [itemLabel item], hls.append (LabeledSides.single hx hadd), ?_⟩
    rw [fieldsFrom_append, ← hfields, hls.length]
    simp [fieldsFrom]
  split at hside
  · rcases List.mem_cons.1 hside with rfl | hside
    · -- an optional item left out
      refine ⟨ls, by simpa using hls.append (LabeledSides.single hx (hkeep ‹_›)), hfields⟩
    · rw [List.mem_singleton.1 hside]
      exact hwith
  · rw [List.mem_singleton.1 hside]
    exact hwith

/-- Expanding items after the items `pre` labels each side by all of them. -/
theorem expandItems_labeled {ruleName : String} :
    ∀ {items pre : List Item} {sides sides' : List (List Nat × List (Nat × String))}
      {e e' : Expansion}, expandItems E.scope ruleName items sides e = .ok (sides', e') →
      LabelsHold E e → SidesLabeled E e.repeats pre sides →
      LabelsHold E e' ∧ SidesLabeled E e'.repeats (pre ++ items) sides' ∧
        ∃ more, e'.repeats = e.repeats ++ more := by
  intro items
  induction items with
  | nil =>
    intro pre sides sides' e e' h hl hs
    simp only [Expansion.expandItems, Except.ok.injEq, Prod.mk.injEq] at h
    obtain ⟨rfl, rfl⟩ := h
    exact ⟨hl, by simpa using hs, [], (List.append_nil _).symm⟩
  | cons item items ih =>
    intro pre sides sides' e e' h hl hs
    simp only [Expansion.expandItems] at h
    obtain ⟨x, hx, h⟩ := Except.bind_eq_ok.1 h
    split at h
    -- neither optional nor repeated: the item's symbol, with its field
    · rename_i hsfx
      have hlabel : itemLabel item = item.field := by simp [itemLabel, hsfx]
      have hs' := hs.extend false hx (fun h => absurd h Bool.false_ne_true)
        (show ItemSide e.repeats item x [x] by simp [ItemSide, hsfx])
      rw [hlabel] at hs'
      obtain ⟨hl', hs'', more, hmore⟩ := ih h hl hs'
      exact ⟨hl', by simpa using hs'', more, hmore⟩
    -- optional: the item's symbol, with its field, or nothing
    · rename_i hsfx
      have hlabel : itemLabel item = item.field := by simp [itemLabel, hsfx]
      have hs' := hs.extend true hx (fun _ => by simp [ItemSide, hsfx])
        (show ItemSide e.repeats item x [x] by simp [ItemSide, hsfx])
      rw [hlabel] at hs'
      obtain ⟨hl', hs'', more, hmore⟩ := ih h hl hs'
      exact ⟨hl', by simpa using hs'', more, hmore⟩
    -- repeated: the repetition rule, unlabelled, or for `*` also nothing
    · rename_i c hq hsfx
      obtain ⟨⟨r, e₁⟩, hrep, h⟩ := Except.bind_eq_ok.1 h
      obtain ⟨hl₁, hlookup, more₁, hmore₁⟩ := repetition_labeled hrep hl
      have hlabel : itemLabel item = none := by simp only [itemLabel, hsfx, if_neg hq]
      have hs₁ : SidesLabeled E e₁.repeats pre sides := hmore₁ ▸ hs.mono more₁
      have hs' := hs₁.extend (decide (c = '*')) hx
        (fun hc => (itemSide_repeated hsfx hq).2 (.inl ⟨by simpa using hc, rfl⟩))
        ((itemSide_repeated hsfx hq).2 (.inr ⟨r, hlookup, rfl⟩))
      rw [hlabel] at hs'
      obtain ⟨hl', hs'', more, hmore⟩ := ih h hl₁ hs'
      exact ⟨hl', by simpa using hs'', more₁ ++ more, by rw [hmore, hmore₁, List.append_assoc]⟩

/-- Expanding the alternatives of rule `j`, each an alternative of the rule, gives
    productions labelled by them. -/
theorem expandRule_labeled {ruleName : String} {j : Nat} {all : List (List Item)}
    (hj : E.rules[j]? = some all) :
    ∀ {alts : List (List Item)} {e e' : Expansion}, (∀ alt ∈ alts, alt ∈ all) →
      expandRule E.scope ruleName (E.tokenCount + j) alts e = .ok e' → LabelsHold E e →
      LabelsHold E e' ∧ ∃ more, e'.repeats = e.repeats ++ more
  | [], e, e', _, h, hl => by
    simp only [Expansion.expandRule, Except.ok.injEq] at h
    subst h
    exact ⟨hl, [], (List.append_nil _).symm⟩
  | items :: rest, e, e', halts, h, hl => by
    simp only [Expansion.expandRule] at h
    obtain ⟨⟨sides, e₁⟩, hitems, h⟩ := Except.bind_eq_ok.1 h
    have hstart : SidesLabeled E e.repeats [] [([], [])] := by
      intro side hside
      rw [List.mem_singleton.1 hside]
      exact ⟨[], .nil, rfl⟩
    obtain ⟨hl₁, hs₁, more₁, hmore₁⟩ := expandItems_labeled hitems hl hstart
    rw [List.nil_append] at hs₁
    -- the sides become productions of the rule, after those there were
    have hl₂ : LabelsHold E { e₁ with grammar := { e₁.grammar with
        productions := sides.foldl (fun ps side => ps.push ⟨E.tokenCount + j, side.1, side.2⟩)
          e₁.grammar.productions } } := by
      intro p prod hp hprod
      rcases getElem?_foldl_push_cases hprod with hold | ⟨-, side, hside, rfl⟩
      · exact hl₁ p prod hp hold
      · obtain ⟨ls, hls, hfields⟩ := hs₁ side hside
        exact ⟨ls, .inl ⟨j, all, items, hj, halts items List.mem_cons_self, rfl, hls⟩, hfields⟩
    obtain ⟨hl', more, hmore⟩ :=
      expandRule_labeled hj (fun alt halt => halts alt (List.mem_cons_of_mem _ halt)) h hl₂
    exact ⟨hl', more₁ ++ more, by rw [hmore, hmore₁, List.append_assoc]⟩

/-- Expanding the rules one after another, each with its index. -/
theorem labeled_foldlM
    {f : Expansion → (RuleDecl × List (List Item)) × Nat → Except GrammarError Expansion}
    (hf : ∀ e r alts i, f e ((r, alts), i) = expandRule E.scope r.name (E.tokenCount + i) alts e) :
    ∀ (rs : List RuleDecl) (ps : List (List (List Item))) (k : Nat) {e e' : Expansion},
    (∀ i (h : i < ps.length), i < rs.length → E.rules[k + i]? = some ps[i]) →
    ((rs.zip ps).zipIdx k).foldlM f e = .ok e' → LabelsHold E e → LabelsHold E e'
  | [], _, _, e, e', _, h, hl => by
    simp only [List.zip_nil_left, List.zipIdx_nil, List.foldlM_nil, pure, Except.pure,
      Except.ok.injEq] at h
    exact h ▸ hl
  | _ :: _, [], _, e, e', _, h, hl => by
    simp only [List.zip_nil_right, List.zipIdx_nil, List.foldlM_nil, pure, Except.pure,
      Except.ok.injEq] at h
    exact h ▸ hl
  | r :: rs, alts :: ps, k, e, e', hrules, h, hl => by
    rw [List.zip_cons_cons, List.zipIdx_cons, List.foldlM_cons] at h
    obtain ⟨e₁, h₁, h⟩ := Except.bind_eq_ok.1 h
    rw [hf] at h₁
    have hk : E.rules[k]? = some alts := by
      have := hrules 0 (by simp) (by simp)
      rwa [Nat.add_zero, List.getElem_cons_zero] at this
    have hl₁ := (expandRule_labeled hk (fun _ h => h) h₁ hl).1
    refine labeled_foldlM hf rs ps (k + 1) (fun i hi hir => ?_) h hl₁
    rw [show k + 1 + i = k + (i + 1) by omega, hrules (i + 1) (by simp; omega) (by simp; omega),
      List.getElem_cons_succ]

end Expansion

/-- Every production but the augmented start of a grammar that `Grammar.ofSpec` returns
    has as fields the labels of its right side, read from the rules as EBNF with the
    repetition rules it made. -/
theorem Grammar.labeled_ofSpec {spec : GrammarSpec} {g : Grammar}
    (h : Grammar.ofSpec spec = .ok g) :
    ∃ E reps, spec.ebnf = .ok E ∧ g.Expands E reps ∧
      ∀ p prod, 1 ≤ p → g.productions[p]? = some prod → prod.Labeled E reps := by
  simp only [Grammar.ofSpec] at h
  split at h
  · cases h
  rename_i hrules
  have hpos : 0 < spec.rules.length := by
    cases hr : spec.rules with
    | nil => simp [hr] at hrules
    | cons _ _ => simp
  obtain ⟨parsed, hparsed, h⟩ := Except.bind_eq_ok.1 h
  obtain ⟨⟨scope, grammar⟩, hnumber, h⟩ := Except.bind_eq_ok.1 h
  obtain ⟨hscope, hnamedPos, hlitsPos, htc, hone, hstart⟩ :=
    GrammarSpec.number_valid hpos hnumber
  obtain ⟨e, hexpand, h⟩ := Except.bind_eq_ok.1 h
  simp only [pure, Except.pure, Except.ok.injEq] at h
  subst h
  have hlen := readRules_length hparsed
  let E : Ebnf := ⟨scope, grammar.tokenCount, parsed⟩
  have hE : spec.ebnf = .ok E := by
    simp [GrammarSpec.ebnf, hparsed, hnumber, bind, Except.bind, pure, Except.pure, E]
  have hbelow : E.scope.Below (E.tokenCount + E.rules.length) := by
    simpa [E, hlen] using hscope
  have hrulesAt : ∀ i (hi : i < parsed.length), E.rules[0 + i]? = some parsed[i] := fun i hi => by
    simp [E, List.getElem?_eq_getElem hi]
  -- the expansion as `Grammar.expands_ofSpec` follows it, and the labels beside it
  have ht₀ : Expansion.Tracks E (Expansion.DoneBefore E 0) ⟨grammar, [], 0⟩ := by
    refine ⟨by simpa [E, hlen] using hstart, ⟨by simp, by simp, by simp, by simp⟩,
      fun i _ hd => absurd hd.1 (Nat.not_lt_zero i), ?_, fun i _ _ hd => absurd hd.1 (Nat.not_lt_zero i)⟩
    intro p prod hp hprod
    have := (Array.getElem?_eq_some_iff.1 hprod).1
    simp only at this
    omega
  have ht := Expansion.tracks_foldlM hbelow ⟨hnamedPos, hlitsPos⟩ (fun _ _ _ _ => rfl)
    spec.rules parsed 0 hlen.symm hrulesAt (by simp [E]) hexpand ht₀
  rw [Nat.zero_add] at ht
  have hl₀ : Expansion.LabelsHold E ⟨grammar, [], 0⟩ := by
    intro p prod hp hprod
    have := (Array.getElem?_eq_some_iff.1 hprod).1
    simp only at this
    omega
  have hl := Expansion.labeled_foldlM (E := E) (fun _ _ _ _ => rfl) spec.rules parsed 0
    (fun i hi _ => hrulesAt i hi) hexpand hl₀
  exact ⟨E, e.repeats, hE, ht.expands hbelow ⟨hnamedPos, hlitsPos⟩ htc (by simp [E, hlen, hpos]), hl⟩

end IncrementalLR
