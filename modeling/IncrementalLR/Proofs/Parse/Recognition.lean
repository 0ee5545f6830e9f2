import Mathlib.Logic.Relation
import IncrementalLR.Proofs.Grammar.Cells
import IncrementalLR.Proofs.Parse.LRPath

/-!
# A built table recognises its grammar's language

`simulateToken` feeds one terminal to a stack of states as the parser does: it makes the
reductions the table asks for, then shifts the terminal, accepts or fails.
-/

namespace IncrementalLR

namespace ParseTable

variable {t : ParseTable}

/-! ### Feeding one terminal -/

/-- One reduction that the table makes before the lookahead `a`: the top `n` states
    are popped and the goto from the uncovered state on the left side is pushed. -/
inductive ReduceStep (t : ParseTable) (a : Nat) : List Nat → List Nat → Prop
  | mk {s A n f below : Nat} {σ rest : List Nat} (hact : t.action? s a = some (.reduce A n f))
      (hpop : (s :: σ).drop n = below :: rest) (hgoto : t.goto below A ≠ 0) :
      ReduceStep t a (s :: σ) (t.goto below A :: below :: rest)

/-- The reductions the table makes, one after another, before the lookahead `a`. -/
def Reduces (t : ParseTable) (a : Nat) : List Nat → List Nat → Prop :=
  Relation.ReflTransGen (t.ReduceStep a)

/-- What feeding the terminal `a` to the stack `σ` gives when it does not fail: some
    reductions, then the shift or the acceptance of the state they uncover. -/
inductive Fed (t : ParseTable) (a : Nat) (σ : List Nat) : SimStep × List Nat → Prop
  | shift {s T : Nat} {r : List Nat} (extra : Bool) : t.Reduces a σ (s :: r) →
      t.action? s a = some (.shift T extra) →
      Fed t a σ (.shifted extra, if extra then s :: r else T :: s :: r)
  | accept {s : Nat} {r : List Nat} : t.Reduces a σ (s :: r) → t.action? s a = some .accept →
      Fed t a σ (.accepted, s :: r)

theorem Fed.head {a : Nat} {σ σ' : List Nat} {res : SimStep × List Nat}
    (hstep : t.ReduceStep a σ σ') (h : t.Fed a σ' res) : t.Fed a σ res := by
  cases h with
  | shift extra hred hact => exact .shift extra (.head hstep hred) hact
  | accept hred hact => exact .accept (.head hstep hred) hact

/-- Feeding a terminal fails, or it is what `Fed` describes. -/
theorem simulateToken_fed (a : Nat) :
    ∀ fuel σ, (simulateToken t a fuel σ).1 = .failed ∨ t.Fed a σ (simulateToken t a fuel σ)
  | 0, σ => .inl rfl
  | _ + 1, [] => .inl rfl
  | fuel + 1, s :: r => by
    unfold simulateToken
    dsimp only
    split
    · next T extra hact => exact .inr (.shift extra .refl hact)
    · next A n f hact =>
      split
      · exact .inl rfl
      · next below rest hpop =>
        split
        · exact .inl rfl
        · next hgoto =>
          exact (simulateToken_fed a fuel _).imp_right (Fed.head (.mk hact hpop hgoto))
    · next hact => exact .inr (.accept .refl hact)
    · exact .inl rfl

theorem simulateToken_reduceStep {a : Nat} {σ σ' : List Nat} (h : t.ReduceStep a σ σ')
    (fuel : Nat) : simulateToken t a (fuel + 1) σ = simulateToken t a fuel σ' := by
  cases h with
  | mk hact hpop hgoto => simp [simulateToken, hact, hpop, hgoto]

/-- Reductions the table makes cost one unit of fuel each. -/
theorem simulateToken_reduces {a : Nat} {σ σ' : List Nat} (h : t.Reduces a σ σ') :
    ∃ k, ∀ fuel, simulateToken t a (fuel + k) σ = simulateToken t a fuel σ' := by
  induction h using Relation.ReflTransGen.head_induction_on with
  | refl => exact ⟨0, fun _ => rfl⟩
  | head hstep _ ih =>
    obtain ⟨k, hk⟩ := ih
    exact ⟨k + 1, fun fuel => by rw [← Nat.add_assoc, simulateToken_reduceStep hstep, hk]⟩

theorem reduces_of_shifted {a fuel : Nat} {σ σ' : List Nat}
    (h : simulateToken t a fuel σ = (.shifted false, σ')) :
    ∃ s r T, t.Reduces a σ (s :: r) ∧ t.action? s a = some (.shift T false) ∧
      σ' = T :: s :: r := by
  rcases simulateToken_fed a fuel σ with hfail | hfed
  · rw [h] at hfail
    cases hfail
  · rw [h] at hfed
    cases hfed with
    | shift extra hred hact => exact ⟨_, _, _, hred, hact, rfl⟩

theorem reduces_of_accepted {a fuel : Nat} {σ : List Nat}
    (h : (simulateToken t a fuel σ).1 = .accepted) :
    ∃ s r, t.Reduces a σ (s :: r) ∧ t.action? s a = some .accept := by
  rcases simulateToken_fed a fuel σ with hfail | hfed
  · rw [h] at hfail
    cases hfail
  · generalize simulateToken t a fuel σ = res at h hfed
    cases hfed with
    | shift => cases h
    | accept hred hact => exact ⟨_, _, hred, hact⟩

/-! ### Runs on a word -/

/-- Feeds the terminals of a word to a stack, each with the reduction limit `fuel`, and
    then the end of the input: true when every terminal is shifted as a child, not as
    an extra, and the end of the input is accepted. -/
def acceptsFrom (t : ParseTable) (fuel : Nat) : List Nat → List Nat → Bool
  | states, [] => (simulateToken t endSymbol fuel states).1 == .accepted
  | states, a :: w =>
    match simulateToken t a fuel states with
    | (.shifted false, states) => t.acceptsFrom fuel states w
    | _ => false

/-- The table accepts the word `w` from the start state, with the reduction limit that
    `ParseContext.feed` gives a stack depth limit of `depth`. -/
def Accepts (t : ParseTable) (depth : Nat) (w : List Nat) : Prop :=
  t.acceptsFrom (depth + 1) [startState] w = true

instance (depth : Nat) (w : List Nat) : Decidable (t.Accepts depth w) :=
  inferInstanceAs (Decidable (_ = true))

/-- A stack of states, top first, that is a path of the table from the start state;
    the second list holds the symbols of its steps, top first. -/
inductive StatePath (t : ParseTable) : List Nat → List Nat → Prop
  | start : StatePath t [startState] []
  | step {s e X : Nat} {σ γ : List Nat} : StatePath t (s :: σ) γ → PathStep t s X e →
      StatePath t (e :: s :: σ) (X :: γ)

/-- Feeding the terminals of `w` to the stack `σ`, each after the reductions the table
    makes before it and shifted as a child, and then making the reductions before the
    lookahead `a`, can end in the stack `σ'`. -/
inductive Feeds (t : ParseTable) (a : Nat) : List Nat → List Nat → List Nat → Prop
  | done {σ σ' : List Nat} : t.Reduces a σ σ' → Feeds t a σ [] σ'
  | shift {b s T : Nat} {σ r w σ' : List Nat} : t.Reduces b σ (s :: r) →
      t.action? s b = some (.shift T false) → Feeds t a (T :: s :: r) w σ' →
      Feeds t a σ (b :: w) σ'

namespace Feeds

variable {a : Nat}

theorem tail {σ w σ₁ σ₂ : List Nat} (h : t.Feeds a σ w σ₁) (hr : t.Reduces a σ₁ σ₂) :
    t.Feeds a σ w σ₂ := by
  induction h with
  | done hr' => exact .done (hr'.trans hr)
  | shift hr' hact _ ih => exact .shift hr' hact (ih hr)

/-- Reductions before the first terminal of `v`, or before `a` when `v` is empty, go
    in front of feeding `v`. -/
theorem reduces_head {σ σ₁ v σ₂ : List Nat} (hr : t.Reduces (v.headD a) σ σ₁)
    (h : t.Feeds a σ₁ v σ₂) : t.Feeds a σ v σ₂ := by
  cases h with
  | done hr' => exact .done (hr.trans hr')
  | shift hr' hact hrest => exact .shift (hr.trans hr') hact hrest

/-- Feeding `u` and then `v` feeds `u ++ v`: the reductions that end feeding `u` are
    made before the first terminal of `v`. -/
theorem append {σ σ₁ σ₂ u v : List Nat} (h₁ : t.Feeds (v.headD a) σ u σ₁)
    (h₂ : t.Feeds a σ₁ v σ₂) : t.Feeds a σ (u ++ v) σ₂ := by
  induction h₁ with
  | done hr => exact reduces_head hr h₂
  | shift hr hact _ ih => exact .shift hr hact (ih h₂)

/-- A feeding that ends in a state accepting the end of the input is a run that
    accepts, once the reduction limit covers the reductions before each terminal. -/
theorem acceptsFrom {σ w σ' : List Nat} (h : t.Feeds endSymbol σ w σ') {s : Nat}
    {r : List Nat} (hσ' : σ' = s :: r) (hacc : t.action? s endSymbol = some .accept) :
    ∃ D, ∀ fuel, D ≤ fuel → t.acceptsFrom fuel σ w = true := by
  induction h with
  | done hr =>
    subst hσ'
    obtain ⟨k, hk⟩ := simulateToken_reduces hr
    refine ⟨k + 1, fun fuel hfuel => ?_⟩
    obtain ⟨n, rfl⟩ := Nat.exists_eq_add_of_le hfuel
    rw [ParseTable.acceptsFrom, show k + 1 + n = n + 1 + k by omega, hk]
    simp [simulateToken, hacc]
  | @shift b s' T σ₀ r' _ _ hr hact _ ih =>
    obtain ⟨D, hD⟩ := ih hσ'
    obtain ⟨k, hk⟩ := simulateToken_reduces hr
    refine ⟨max D (k + 1), fun fuel hfuel => ?_⟩
    obtain ⟨n, rfl⟩ := Nat.exists_eq_add_of_le (le_of_max_le_right hfuel)
    have hsim : simulateToken t b (k + 1 + n) σ₀ = (.shifted false, T :: s' :: r') := by
      rw [show k + 1 + n = n + 1 + k by omega, hk]
      simp [simulateToken, hact]
    rw [ParseTable.acceptsFrom, hsim]
    exact hD _ (le_of_max_le_left hfuel)

end Feeds

end ParseTable

open ParseTable

variable {t : ParseTable} {g : Grammar} {sets : ItemSets}

/-! ### Soundness -/

namespace PathStep

/-- A step of a built table on `X` moves the dot over `X`: an item of its target state
    past its first symbol comes from an item of its source state with `X` after the
    dot. -/
theorem moved (hb : t.Built g sets) {b X e p d : Nat} (h : PathStep t b X e)
    (he : sets.Holds e (p, d + 1)) : g.next? (p, d) = some X ∧ sets.Holds b (p, d) := by
  obtain ⟨-, items', hitems', hit⟩ := he
  obtain ⟨hb1, -, edges, hedges, hedge⟩ := h.edge hb
  obtain ⟨items, hitems⟩ : ∃ items, sets.states[b - 1]? = some items := by
    have hlt := (Array.getElem?_eq_some_iff.1 hedges).1
    rw [hb.sound.transitions_size] at hlt
    exact ⟨_, Array.getElem?_eq_getElem hlt⟩
  obtain ⟨-, -, items'', hitems'', hmoved⟩ :=
    hb.sound.edge_sound _ items edges hitems hedges _ _ hedge
  rw [hitems'] at hitems''
  cases hitems''
  obtain ⟨hnext, hprev⟩ := hmoved (p, d + 1) hit (Nat.succ_pos d)
  exact ⟨hnext, hb1, items, hitems, hprev⟩

end PathStep

namespace ParseTable.StatePath

/-- No step leads back to the start state, so a path on it has no steps. -/
theorem eq_nil_of_startState (hb : t.Built g sets) {σ γ : List Nat} (hp : StatePath t σ γ)
    (hσ : σ.head? = some startState) : γ = [] := by
  cases hp with
  | start => rfl
  | step _ hstep => exact absurd (Option.some.inj hσ) (hstep.ne_startState hb)

/-- What a path whose top state holds the item `(p, d)` ends with. -/
structure ItemBelow (t : ParseTable) (sets : ItemSets) (prod : Production) (p d : Nat)
    (σ γ : List Nat) : Prop where
  le_length : d ≤ γ.length
  symbols : γ.take d = (prod.rhs.take d).reverse
  below : StatePath t (σ.drop d) (γ.drop d)
  start : ∃ s, (σ.drop d).head? = some s ∧ sets.Holds s (p, 0)

/-- The item-path lemma on states: an item `(p, d)` of the top state means that the
    symbols of the top `d` steps spell the start of `p`'s right side, with `(p, 0)` in
    the state below them. -/
theorem item (hb : t.Built g sets) {σ γ : List Nat} (hp : StatePath t σ γ) :
    ∀ {s p d : Nat} {prod : Production}, σ.head? = some s → sets.Holds s (p, d) →
      g.productions[p]? = some prod → ItemBelow t sets prod p d σ γ := by
  induction hp with
  | start =>
    intro s p d prod hs hhold _
    cases hs
    obtain rfl : d = 0 := by
      obtain ⟨_, items, hitems, hit⟩ := hhold
      exact hb.sound.start_dot items hitems _ hit
    exact ⟨Nat.zero_le _, rfl, .start, _, rfl, hhold⟩
  | @step s e X σ γ hrest hstep ih =>
    intro s' p d prod hs hhold hprod
    cases hs
    rcases d with _ | d
    · exact ⟨Nat.zero_le _, rfl, .step hrest hstep, _, rfl, hhold⟩
    · obtain ⟨hnext, hbelow⟩ := hstep.moved hb hhold
      obtain ⟨prod', hprod', hrhs⟩ := Grammar.next?_eq_some hnext
      rw [hprod] at hprod'
      cases hprod'
      obtain ⟨hle, hsym, hpath, hstart⟩ := ih rfl hbelow hprod
      have hrhs : prod.rhs[d]? = some X := hrhs
      refine ⟨by simpa using hle, ?_, by simpa using hpath, by simpa using hstart⟩
      rw [List.take_succ_cons, hsym, List.take_add_one, hrhs]
      simp

/-- A reduction keeps a path whose symbols derive `u`: it replaces the right side that
    it pops by the left side. -/
theorem reduceStep (hb : t.Built g sets) {a : Nat} {σ σ' γ u : List Nat}
    (hp : StatePath t σ γ) (hd : g.Derives γ.reverse u) (h : t.ReduceStep a σ σ') :
    ∃ γ', StatePath t σ' γ' ∧ g.Derives γ'.reverse u := by
  cases h with
  | @mk s A n f below σ₀ rest hact hpop hgoto =>
  obtain ⟨-, hs1, items, hitems, p, prod, hp1, hprod, rfl, rfl, hit⟩ := hb.action_sound hact
  obtain ⟨-, hsym, hbelow, -⟩ := hp.item hb rfl ⟨hs1, items, hitems, hit⟩ hprod
  rw [hpop] at hbelow
  have hA : prod.lhs < t.symbolCount := by
    rw [hb.symbolCount_eq]
    exact hb.wellFormed.lhs_lt prod (Array.mem_of_getElem? hprod)
  refine ⟨prod.lhs :: γ.drop prod.rhs.length, .step hbelow (.inr ⟨hA, rfl, hgoto⟩), ?_⟩
  -- the popped symbols are the right side, the rest derives a prefix of `u`
  have hsplit : γ.reverse = (γ.drop prod.rhs.length).reverse ++ prod.rhs := by
    conv_lhs => rw [← List.take_append_drop prod.rhs.length γ]
    rw [List.reverse_append, hsym, List.take_length, List.reverse_reverse]
  rw [hsplit] at hd
  obtain ⟨u₁, u₂, rfl, hd₁, hd₂⟩ := Grammar.Derives.append_iff.1 hd
  simpa using hd₁.append (Grammar.Derives.of_production hp1 hprod hd₂)

theorem reduces (hb : t.Built g sets) {a : Nat} {σ σ' γ u : List Nat}
    (hp : StatePath t σ γ) (hd : g.Derives γ.reverse u) (h : t.Reduces a σ σ') :
    ∃ γ', StatePath t σ' γ' ∧ g.Derives γ'.reverse u := by
  induction h with
  | refl => exact ⟨γ, hp, hd⟩
  | tail _ hstep ih =>
    obtain ⟨γ', hp', hd'⟩ := ih
    exact hp'.reduceStep hb hd' hstep

/-- Shifting a terminal as a child extends the path by it. -/
theorem shift (hb : t.Built g sets) {s b T : Nat} {r γ u : List Nat}
    (hp : StatePath t (s :: r) γ) (hd : g.Derives γ.reverse u)
    (hact : t.action? s b = some (.shift T false)) :
    StatePath t (T :: s :: r) (b :: γ) ∧ g.Derives (b :: γ).reverse (u ++ [b]) := by
  have hbt : b < g.tokenCount := hb.tokenCount_eq ▸ (hb.action_sound hact).1
  refine ⟨.step hp (.inl hact), ?_⟩
  simpa using hd.append (.token hbt .nil)

/-- Acceptance finds the augmented item `S' → S •` on top: the path is the single step
    on the start symbol, which derives what was fed. -/
theorem accept (hb : t.Built g sets) {s a : Nat} {r γ u : List Nat}
    (hp : StatePath t (s :: r) γ) (hd : g.Derives γ.reverse u)
    (hact : t.action? s a = some .accept) : g.Derives [g.startSymbol] u := by
  have hwf := hb.wellFormed
  obtain ⟨-, hs1, items, hitems, hit⟩ := (hb.action_sound hact).2
  obtain ⟨-, hsym, hbelow, s', hs', hs'1, items', hitems', hit'⟩ :=
    hp.item hb rfl ⟨hs1, items, hitems, hit⟩ hwf.augmented
  -- the state below holds `S' → • S`, which only the start state holds
  have hstart : s' = startState := by
    have := hb.sound.augmented _ items' hitems' hit'
    simp only [startState]
    omega
  have hnil := hbelow.eq_nil_of_startState hb (hstart ▸ hs')
  have hγ : γ = [g.tokenCount] := by
    rw [← List.take_append_drop 1 γ, hsym, hnil]
    rfl
  rw [hγ] at hd
  simpa [hwf.start] using hd

end ParseTable.StatePath

/-- Every run that accepts feeds a word that the start symbol derives. -/
theorem acceptsFrom_sound (hb : t.Built g sets) :
    ∀ (w : List Nat) {fuel : Nat} {σ γ u : List Nat}, StatePath t σ γ →
      g.Derives γ.reverse u → t.acceptsFrom fuel σ w = true →
      g.Derives [g.startSymbol] (u ++ w)
  | [], fuel, σ, γ, u, hp, hd, h => by
    rw [acceptsFrom, beq_iff_eq] at h
    obtain ⟨s, r, hred, hact⟩ := reduces_of_accepted h
    obtain ⟨γ', hp', hd'⟩ := hp.reduces hb hd hred
    simpa using hp'.accept hb hd' hact
  | b :: w, fuel, σ, γ, u, hp, hd, h => by
    rw [acceptsFrom] at h
    split at h
    · next σ' hsim =>
      obtain ⟨s, r, T, hred, hact, rfl⟩ := reduces_of_shifted hsim
      obtain ⟨γ', hp', hd'⟩ := hp.reduces hb hd hred
      obtain ⟨hp'', hd''⟩ := hp'.shift hb hd' hact
      simpa using acceptsFrom_sound hb w hp'' hd'' h
    · cases h

/-! ### Completeness -/

theorem rhs_of_drop {prod : Production} {d X : Nat} {α : List Nat}
    (h : prod.rhs.drop d = X :: α) : prod.rhs[d]? = some X ∧ prod.rhs.drop (d + 1) = α := by
  constructor
  · rw [← Nat.add_zero d, ← List.getElem?_drop, h]
    rfl
  · rw [← List.drop_drop, h, List.drop_one, List.tail_cons]

/-- Going down a derivation of what stands after the dot of an item of the top state:
    the table feeds its yield, ending in a state that holds the item with the dot moved
    over all of it, on top of the stack it started from. The lookahead after the yield
    follows the item's left side. -/
theorem feeds_of_derives (hb : t.Built g sets) (hc : sets.Complete g) {β w : List Nat}
    (h : g.Derives β w) :
    ∀ {s p d a : Nat} {σ : List Nat} {prod : Production}, sets.Holds s (p, d) →
      g.productions[p]? = some prod → prod.rhs.drop d = β → a ∈ g.followOf prod.lhs →
      a < g.tokenCount →
      ∃ s' σ', t.Feeds a (s :: σ) w (s' :: σ') ∧ (s' :: σ').drop β.length = s :: σ ∧
        sets.Holds s' (p, d + β.length) := by
  induction h with
  | nil =>
    intro s p d a σ prod hs _ _ _ _
    exact ⟨s, σ, .done .refl, rfl, hs⟩
  | @token b α w hbt _ ih =>
    intro s p d a σ prod hs hprod hdrop hfa hat
    obtain ⟨hX, hdrop'⟩ := rhs_of_drop hdrop
    have hnext : g.next? (p, d) = some b := by simp [Grammar.next?, hprod, hX]
    obtain ⟨T, hact, hT⟩ := hb.shift_of_next hc hs hnext hbt
    obtain ⟨s', σ', hf, hdrop'', hhold⟩ := ih (σ := s :: σ) hT hprod hdrop' hfa hat
    refine ⟨s', σ', .shift .refl hact hf, ?_, ?_⟩
    · rw [List.length_cons, ← List.drop_drop, hdrop'']
      rfl
    · rwa [List.length_cons, ← Nat.add_assoc, Nat.add_right_comm]
  | @rule q prodq α u v hq hprodq _ rest ihb ihr =>
    intro s p d a σ prod hs hprod hdrop hfa hat
    have hwf := hb.wellFormed
    obtain ⟨hX, hdrop'⟩ := rhs_of_drop hdrop
    have hnext : g.next? (p, d) = some prodq.lhs := by simp [Grammar.next?, hprod, hX]
    have hXnt : g.tokenCount ≤ prodq.lhs := hwf.lhs_ge prodq (Array.mem_of_getElem? hprodq)
    -- the state predicts `prodq`, whose subtree is fed before the lookahead after it
    have hpred : sets.Holds s (q, 0) := by
      obtain ⟨hs1, items, hitems, hit⟩ := hs
      exact ⟨hs1, items, hitems, hc.closed _ items hitems _ hit q prodq hq hprodq hnext⟩
    have ha₁ : v.headD a ∈ g.followOf prodq.lhs :=
      Grammar.headD_mem_followOf hwf hprod hX hXnt (hdrop' ▸ rest) hfa
    have ha₁t : v.headD a < g.tokenCount := by
      cases v with
      | nil => exact hat
      | cons b v => exact rest.terminal_lt b List.mem_cons_self
    obtain ⟨s₁, σ₁, hf₁, hd₁, hh₁⟩ := ihb (σ := σ) hpred hprodq List.drop_zero ha₁ ha₁t
    -- the subtree ends with the reduction by `prodq`, then the goto on its left side
    obtain ⟨f, hred⟩ := hb.reduce_of_complete (by simpa using hh₁) hq hprodq rfl ha₁ ha₁t
    obtain ⟨hgoto, hhgoto⟩ := hb.goto_of_next hc hs hnext hXnt
    have hstep : t.ReduceStep (v.headD a) (s₁ :: σ₁) (t.goto s prodq.lhs :: s :: σ) :=
      .mk hred hd₁ hgoto
    obtain ⟨s₂, σ₂, hf₂, hd₂, hh₂⟩ := ihr (σ := s :: σ) hhgoto hprod hdrop' hfa hat
    refine ⟨s₂, σ₂, (hf₁.tail (.single hstep)).append hf₂, ?_, ?_⟩
    · rw [List.length_cons, ← List.drop_drop, hd₂]
      rfl
    · rwa [List.length_cons, ← Nat.add_assoc, Nat.add_right_comm]

/-- Every word that the start symbol derives is accepted, once the reduction limit
    covers the reductions before each of its terminals. -/
theorem accepts_of_derives (hb : t.Built g sets) (hc : sets.Complete g)
    (hend : ∀ prod ∈ g.productions, endSymbol ∉ prod.rhs) (htc : 0 < g.tokenCount)
    {w : List Nat} (h : g.Derives [g.startSymbol] w) :
    ∃ D, ∀ depth, D ≤ depth → t.Accepts depth w := by
  have hwf := hb.wellFormed
  obtain ⟨items, hitems, hit⟩ := hc.start
  have hs : sets.Holds startState (0, 0) := ⟨Nat.le_refl 1, items, hitems, hit⟩
  have hfollow : endSymbol ∈ g.followOf g.tokenCount :=
    hwf.start ▸ Grammar.end_mem_followOf_start hwf
  obtain ⟨s', σ', hf, -, hh⟩ :=
    feeds_of_derives hb hc h (σ := []) hs hwf.augmented (by simp [hwf.start]) hfollow htc
  have hacc := hb.accept_of_complete (by simpa using hh) hend htc
  obtain ⟨D, hD⟩ := hf.acceptsFrom rfl hacc
  exact ⟨D, fun depth hdepth => hD (depth + 1) (by omega)⟩

/-- A table built from a grammar through a complete automaton accepts exactly the
    words that the start symbol derives, once the stack depth limit is large enough for
    the word. -/
theorem accepts_iff_derives (hb : t.Built g sets) (hc : sets.Complete g)
    (hend : ∀ prod ∈ g.productions, endSymbol ∉ prod.rhs) (htc : 0 < g.tokenCount)
    (w : List Nat) : ∃ D, ∀ depth, D ≤ depth → (t.Accepts depth w ↔ g.Derives [g.startSymbol] w) := by
  by_cases hw : g.Derives [g.startSymbol] w
  · obtain ⟨D, hD⟩ := accepts_of_derives hb hc hend htc hw
    exact ⟨D, fun depth hdepth => iff_of_true (hD depth hdepth) hw⟩
  · refine ⟨0, fun depth _ => iff_of_false (fun hacc => hw ?_) hw⟩
    simpa using acceptsFrom_sound hb w .start .nil hacc

end IncrementalLR
