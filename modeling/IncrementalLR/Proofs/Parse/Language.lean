import Mathlib.Data.List.SplitBy
import IncrementalLR.Proofs.Grammar.Expansion
import IncrementalLR.Proofs.Parse.Recognition

/-!
# The language of a built table

A table that `GrammarSpec.build` returns recognises exactly the language of the grammar
description's rules read as EBNF (`build_accepts_iff_ebnf_derives`): fed the terminals of a
word from the start state and then the end of the input, with a large enough stack depth
limit, it shifts every terminal as a child and accepts at the end exactly when the start
rule derives the word.
-/

namespace IncrementalLR

namespace Ebnf

variable {E : Ebnf} {reps : RepeatRules}

/-- A symbol of an item's side is the item's own symbol or a repetition rule. -/
theorem ItemSide.mem {item : Item} {x X : Nat} {γ : List Nat} (hs : ItemSide reps item x γ)
    (hX : X ∈ γ) : X = x ∨ ∃ key, (key, X) ∈ reps := by
  cases hsfx : item.suffix with
  | none =>
    simp only [ItemSide, hsfx] at hs
    subst hs
    exact .inl (List.mem_singleton.1 hX)
  | some c =>
    simp only [ItemSide, hsfx] at hs
    by_cases hc : c = '?'
    · rw [if_pos hc] at hs
      rcases hs with rfl | rfl
      · cases hX
      · exact .inl (List.mem_singleton.1 hX)
    · rw [if_neg hc] at hs
      rcases hs with ⟨-, rfl⟩ | ⟨r, hr, rfl⟩
      · cases hX
      · rw [List.mem_singleton.1 hX]
        exact .inr ⟨_, List.mem_of_lookup hr⟩

/-- A symbol of the right side written for an alternative is one of its resolved items or
    a repetition rule. -/
theorem Sides.mem {alt : List Item} {rhs : List Nat} (hs : E.Sides reps alt rhs) {X : Nat}
    (hX : X ∈ rhs) :
    (∃ item ∈ alt, Expansion.resolve E.scope item = .ok X) ∨ ∃ key, (key, X) ∈ reps := by
  induction hs with
  | nil => cases hX
  | cons hx hside _ ih =>
    rcases List.mem_append.1 hX with hγ | hδ
    · rcases hside.mem hγ with rfl | hrep
      · exact .inl ⟨_, List.mem_cons_self, hx⟩
      · exact .inr hrep
    · rcases ih hδ with ⟨item, hitem, hres⟩ | hrep
      · exact .inl ⟨item, List.mem_cons_of_mem _ hitem, hres⟩
      · exact .inr hrep

end Ebnf

namespace Grammar.Expands

variable {g : Grammar} {E : Ebnf} {reps : RepeatRules}

/-- Repetition rules are past the end marker, being past every rule. -/
theorem repRule_pos (he : g.Expands E reps) {key : Nat × Option String} {r : Nat}
    (hr : (key, r) ∈ reps) : 1 ≤ r :=
  calc 1 ≤ E.tokenCount := he.tokenCount_pos
    _ ≤ E.tokenCount + E.rules.length := Nat.le_add_right _ _
    _ ≤ r := he.rep_ge key r hr

/-- Every symbol on the right side of a production of the expanded grammar is past the
    end marker. The augmented start production holds the start symbol; any other one is a
    side of an alternative or a production of a repetition rule. -/
theorem rhs_pos (he : g.Expands E reps) (hwf : g.WellFormed) {prod : Production}
    (hprod : prod ∈ g.productions) {X : Nat} (hX : X ∈ prod.rhs) : 1 ≤ X := by
  obtain ⟨p, hp⟩ := Array.mem_iff_getElem?.1 hprod
  rcases Nat.eq_zero_or_pos p with rfl | hp1
  · rw [hwf.augmented] at hp
    cases hp
    rw [List.mem_singleton.1 hX, he.tokenCount]
    exact he.tokenCount_pos
  · rcases he.sound p prod hp1 hp with ⟨_, _, _, -, -, -, hsides⟩ | ⟨x, f, hr, hrhs⟩
    · rcases hsides.mem hX with ⟨item, -, hres⟩ | ⟨_, hrep⟩
      · exact he.resolve_pos item X hres
      · exact he.repRule_pos hrep
    · have hx := he.rep_pos x f prod.lhs hr
      have hlhs := he.repRule_pos hr
      rcases hrhs with h | h <;> rw [h] at hX <;> simp only [List.mem_cons, List.not_mem_nil,
        or_false] at hX <;> omega

/-- The end of the input stands on no right side. -/
theorem end_not_mem (he : g.Expands E reps) (hwf : g.WellFormed) :
    ∀ prod ∈ g.productions, endSymbol ∉ prod.rhs :=
  fun _ hprod hend => absurd (he.rhs_pos hwf hprod hend) (by simp [endSymbol])

end Grammar.Expands

/-- A table that the grammar builder returns recognises the language of its description's
    rules read as EBNF: once the stack depth limit is large enough for the word, the run
    on a word shifts every terminal as a child and accepts at the end exactly when the
    start rule derives the word. -/
theorem GrammarSpec.build_accepts_iff_ebnf_derives {spec : GrammarSpec} {t : ParseTable}
    (h : spec.build = .ok t) :
    ∃ E, spec.ebnf = .ok E ∧ ∀ w, ∃ D, ∀ depth, D ≤ depth →
      (t.Accepts depth w ↔ E.Derives [E.tokenCount] w) := by
  obtain ⟨g, hg, h⟩ := Except.bind_eq_ok.1 h
  obtain ⟨sets, hsets, htable⟩ := Except.bind_eq_ok.1 h
  have hwf := Grammar.wellFormed_ofSpec hg
  have hb : t.Built g sets := ⟨hwf, Grammar.itemSets_sound hwf hsets, htable⟩
  obtain ⟨E, reps, hE, he⟩ := Grammar.expands_ofSpec hg
  have htc : 0 < g.tokenCount := he.tokenCount ▸ he.tokenCount_pos
  refine ⟨E, hE, fun w => ?_⟩
  obtain ⟨D, hD⟩ := accepts_iff_derives hb (Grammar.itemSets_complete hwf hsets)
    (he.end_not_mem hwf) htc w
  exact ⟨D, fun depth hdepth => (hD depth hdepth).trans (he.derives_iff w)⟩

/-! ### A sample description

`s` is a hidden rule `_h`, labelled `f`, followed by any number of `c`; `_h` is an `a`,
labelled `g`, with an optional `ab` after it. Blanks are skipped before every token. The
builder numbers the tokens `c`, `a` and `ab` from 1, then `s`, `_h` and the repetition
rule of `'c'*`, and its nine states share five lex modes. -/

/-- The sample description. -/
def GrammarSpec.sample : GrammarSpec :=
  (GrammarSpec.new "g").withSkip (some " ") |>.rule "s" ["f:_h 'c'*"] |>.rule "_h" ["g:'a' 'ab'?"]

/-- The table the builder makes of the sample description. -/
def ParseTable.sample : ParseTable where
  name := "g"
  version := newestVersion
  symbolNames := #["end", "c", "a", "ab", "s", "_h", "s_repeat1"]
  symbolInfo := #[⟨false, true⟩, ⟨true, false⟩, ⟨true, false⟩, ⟨true, false⟩, ⟨true, true⟩,
    ⟨false, true⟩, ⟨false, false⟩]
  tokenCount := 4
  stateCount := 9
  actions := #[[], [], [], [], [], [], [.shift 2 false], [],
    [.reduce 5 1 2], [.reduce 5 1 2], [], [.shift 5 false],
    [.accept], [], [], [],
    [.reduce 4 1 1], [.shift 6 false], [], [],
    [.reduce 5 2 2], [.reduce 5 2 2], [], [],
    [.reduce 6 1 0], [.reduce 6 1 0], [], [],
    [.reduce 4 2 1], [.shift 8 false], [], [],
    [.reduce 6 2 0], [.reduce 6 2 0], [], []]
  gotos := #[0, 0, 0, 3, 4, 0, 0, 0, 0, 0, 0, 0, 0, 0, 7, 0, 0, 0, 0, 0, 0, 0, 0, 0, 0, 0, 0]
  lexModes := #[⟨0, 0⟩, ⟨1, 0⟩, ⟨2, 0⟩, ⟨3, 0⟩, ⟨4, 0⟩, ⟨4, 0⟩, ⟨4, 0⟩, ⟨4, 0⟩, ⟨4, 0⟩]
  lexTable := ⟨#[none, some (.literal [99]), some (.literal [97]), some (.literal [97, 98])],
    #[[1, 2, 3], [2], [1, 3], [], [1]], (TokenPattern.compile " ").toOption⟩
  fieldNames := #["f", "g"]
  fieldMaps := #[[], [⟨1, 0⟩], [⟨2, 0⟩]]
  externals := #[]
  scanner := none

theorem GrammarSpec.build_sample : GrammarSpec.sample.build = .ok ParseTable.sample := by
  decide +kernel

/-- The text ` a ab c c`: four tokens of the sample, each after a blank. -/
def sampleText : ByteArray := ⟨#[32, 97, 32, 97, 98, 32, 99, 32, 99]⟩

/-- The sample table recognises the sample's language: `a ab c c` and `a` are in it,
    `ab` and `c a` are not. -/
theorem GrammarSpec.build_accepts_iff_ebnf_derives_sample :
    (∃ E, GrammarSpec.sample.ebnf = .ok E ∧ ∀ w, ∃ D, ∀ depth, D ≤ depth →
      (ParseTable.sample.Accepts depth w ↔ E.Derives [E.tokenCount] w)) ∧
    ParseTable.sample.Accepts 8 [2, 3, 1, 1] ∧ ParseTable.sample.Accepts 8 [2] ∧
    ¬ ParseTable.sample.Accepts 8 [3] ∧ ¬ ParseTable.sample.Accepts 8 [1, 2] :=
  ⟨GrammarSpec.build_accepts_iff_ebnf_derives GrammarSpec.build_sample, by decide +kernel,
    by decide +kernel, by decide +kernel, by decide +kernel⟩

/-! ### Reading a run the kernel evaluates -/

/-- Whether a computation returned a value that `p` holds of. -/
def returnsWith {ε α : Type} (p : α → Bool) : Except ε α → Bool
  | .ok a => p a
  | .error _ => false

section Returns

variable {ε α : Type} {p : α → Bool}

/-- A computation that `returnsWith p` holds of returned a value, and `p` holds of it;
    on a fixed input the kernel decides the first by running the computation. -/
theorem exists_of_returnsWith {x : Except ε α} (h : returnsWith p x = true) :
    ∃ a, x = .ok a ∧ p a = true := by
  cases x with
  | error e => cases h
  | ok a => exact ⟨a, rfl, h⟩

/-- The same for a run that may also give up without a result. -/
theorem exists_of_any_returnsWith {r : Option (Except ε α)} (h : r.any (returnsWith p) = true) :
    ∃ a, r = some (.ok a) ∧ p a = true := by
  cases r with
  | none => cases h
  | some x =>
    obtain ⟨a, rfl, ha⟩ := exists_of_returnsWith h
    exact ⟨a, rfl, ha⟩

end Returns

end IncrementalLR
