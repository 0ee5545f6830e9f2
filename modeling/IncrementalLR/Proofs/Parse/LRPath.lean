import IncrementalLR.Proofs.Grammar.Actions
import IncrementalLR.Proofs.Parse.Steps

/-!
# The parse stack as a path of the LR(0) automaton

Read from the bottom, the entries of the parse stack that are not extras follow the
automaton the table was built from: each one's state is where the table's shift, or its goto
that is not 0, leads from the state below it on the entry's symbol.
-/

namespace IncrementalLR

/-- The state on top of a list of stack entries, and 0 for none. -/
def topState (es : List StackEntry) : Nat := (es.head?.map (·.state)).getD 0

@[simp] theorem topState_cons (e : StackEntry) (es : List StackEntry) :
    topState (e :: es) = e.state := rfl

theorem Stack.state_eq_topState (st : Stack) : st.state = topState st.entries := rfl

/-! ### Popping -/

namespace Stack

theorem popFrom_append (r : Nat) (acc₁ acc₂ : List Subtree) (es : List StackEntry) :
    popFrom r (acc₁ ++ acc₂) es = ((popFrom r acc₁ es).1 ++ acc₂, (popFrom r acc₁ es).2) := by
  fun_induction popFrom r acc₁ es with
  | case1 => simp [popFrom]
  | case2 remaining popped e rest hstop => simp [popFrom, hstop]
  | case3 remaining popped e rest hstop x hx ih =>
    rw [popFrom, if_neg hstop, hx]
    simpa using ih
  | case4 remaining popped e rest hstop hx ih =>
    rw [popFrom, if_neg hstop, hx]
    exact ih

/-- Popped subtrees come from the entries. -/
theorem mem_popFrom {r : Nat} {acc : List Subtree} {es : List StackEntry} {x : Subtree}
    (h : x ∈ (popFrom r acc es).1) : x ∈ acc ∨ ∃ e ∈ es, e.subtree = some x := by
  fun_induction popFrom r acc es with
  | case1 => exact .inl h
  | case2 => exact .inl h
  | case3 remaining popped e rest hstop y hy ih =>
    rcases ih h with h | ⟨e', he', hx⟩
    · rcases List.mem_cons.1 h with rfl | h
      · exact .inr ⟨e, List.mem_cons_self, hy⟩
      · exact .inl h
    · exact .inr ⟨e', List.mem_cons_of_mem _ he', hx⟩
  | case4 remaining popped e rest hstop hy ih =>
    rcases ih h with h | ⟨e', he', hx⟩
    · exact .inl h
    · exact .inr ⟨e', List.mem_cons_of_mem _ he', hx⟩

/-- Popping splits the entries: the popped subtrees are those of the entries above what
    is left, in document order, before the ones popped already. -/
theorem popFrom_split (r : Nat) (acc : List Subtree) (es : List StackEntry) :
    ∃ pre, es = pre ++ (popFrom r acc es).2 ∧
      (popFrom r acc es).1 = (pre.filterMap (·.subtree)).reverse ++ acc := by
  fun_induction popFrom r acc es with
  | case1 => exact ⟨[], rfl, rfl⟩
  | case2 => exact ⟨[], rfl, rfl⟩
  | case3 remaining popped e rest hstop y hy ih =>
    obtain ⟨pre, hpre, hpopped⟩ := ih
    refine ⟨e :: pre, by rw [List.cons_append, ← hpre], ?_⟩
    rw [hpopped, List.filterMap_cons, hy]
    simp
  | case4 remaining popped e rest hstop hy ih =>
    obtain ⟨pre, hpre, hpopped⟩ := ih
    exact ⟨e :: pre, by rw [List.cons_append, ← hpre], by rw [hpopped, List.filterMap_cons, hy]⟩

/-- Popping everything leaves the bottom entry and gives the subtrees above it in
    document order. -/
theorem popAll_of_eq {st : Stack} {above : List StackEntry} {bottom : StackEntry}
    (h : st.entries = above ++ [bottom]) :
    st.popAll = ((above.filterMap (·.subtree)).reverse, { st with entries := [bottom] }) := by
  unfold popAll
  rw [h, List.reverse_append]
  simp [List.filterMap_reverse]

end Stack

/-! ### Paths -/

/-- One step of the automaton as the table takes it: a shift of `X` from state `b` to
    `e`, or a goto on the symbol `X` from `b` to `e` that is not 0. -/
def PathStep (t : ParseTable) (b X e : Nat) : Prop :=
  t.action? b X = some (.shift e false) ∨ (X < t.symbolCount ∧ t.goto b X = e ∧ e ≠ 0)

/-- The stack entries, top first, form a path of the automaton from the start state:
    the bottom entry holds the start state and no subtree; an extra keeps the state
    below it; any other entry is a step of the automaton on its subtree's symbol. -/
inductive StackPath (t : ParseTable) : List StackEntry → Prop
  | bottom {e : StackEntry} : e.state = startState → e.subtree = none → StackPath t [e]
  | extra {e below : StackEntry} {rest : List StackEntry} {x : Subtree} :
      StackPath t (below :: rest) → e.subtree = some x → x.isExtra = true →
      e.state = below.state → StackPath t (e :: below :: rest)
  | step {e below : StackEntry} {rest : List StackEntry} {x : Subtree} :
      StackPath t (below :: rest) → e.subtree = some x → x.isExtra = false →
      PathStep t below.state x.symbol e.state → StackPath t (e :: below :: rest)

/-- A path ends in its bottom entry. -/
theorem StackPath.exists_bottom {t : ParseTable} {es : List StackEntry} (hp : StackPath t es) :
    ∃ above bottom, es = above ++ [bottom] ∧ bottom.state = startState ∧ bottom.subtree = none := by
  induction hp with
  | @bottom e hstate hsub => exact ⟨[], e, rfl, hstate, hsub⟩
  | @extra e _ _ _ _ _ _ _ ih =>
    obtain ⟨above, bottom, heq, h⟩ := ih
    exact ⟨e :: above, bottom, by rw [heq, List.cons_append], h⟩
  | @step e _ _ _ _ _ _ _ ih =>
    obtain ⟨above, bottom, heq, h⟩ := ih
    exact ⟨e :: above, bottom, by rw [heq, List.cons_append], h⟩

/-- Extras pushed in the top state keep a path a path. -/
theorem StackPath.push_extras {t : ParseTable} :
    ∀ (l : List Subtree) {e : StackEntry} {rest es : List StackEntry},
      StackPath t (e :: rest) → (∀ x ∈ l, x.isExtra = true) →
      es.map StackEntry.view = (l.map fun x => (e.state, some x)).reverse →
      StackPath t (es ++ e :: rest)
  | [], _, _, es, hp, _, hview => by
    rw [List.map_nil, List.reverse_nil, List.map_eq_nil_iff] at hview
    rwa [hview, List.nil_append]
  | x :: l, e, rest, es, hp, hextra, hview => by
    rw [List.map_cons, List.reverse_cons, ← List.map_reverse] at hview
    obtain ⟨es', last, rfl, hes', hlast⟩ := List.map_eq_append_iff.1 hview
    obtain ⟨ex, rfl, hex⟩ := List.map_eq_singleton_iff.1 hlast
    simp only [StackEntry.view, Prod.mk.injEq] at hex
    have hp' : StackPath t (ex :: e :: rest) :=
      .extra hp hex.2 (hextra x List.mem_cons_self) hex.1
    have := push_extras l hp' (fun y hy => hextra y (List.mem_cons_of_mem x hy))
      (by rw [hes', List.map_reverse, hex.1])
    rwa [List.append_assoc, List.singleton_append]

/-- An extra pushed in the top state keeps a path a path. -/
theorem StackPath.push_extra {t : ParseTable} {es : List StackEntry} (hp : StackPath t es)
    {x : Subtree} (hx : x.isExtra = true) (pos : Length) (height : Nat) :
    StackPath t (⟨topState es, some x, pos, height⟩ :: es) := by
  obtain ⟨below, rest, rfl⟩ : ∃ below rest, es = below :: rest := by
    cases hp <;> exact ⟨_, _, rfl⟩
  exact .extra hp rfl hx rfl

/-- A subtree pushed by a step of the automaton from the top state keeps a path a path. -/
theorem StackPath.push_step {t : ParseTable} {es : List StackEntry} (hp : StackPath t es)
    {x : Subtree} {state : Nat} (hx : x.isExtra = false)
    (hstep : PathStep t (topState es) x.symbol state) (pos : Length) (height : Nat) :
    StackPath t (⟨state, some x, pos, height⟩ :: es) := by
  obtain ⟨below, rest, rfl⟩ : ∃ below rest, es = below :: rest := by
    cases hp <;> exact ⟨_, _, rfl⟩
  exact .step hp rfl hx hstep

section Built

variable {t : ParseTable} {g : Grammar} {sets : ItemSets}

/-- A step of a built table follows an edge of its automaton. -/
theorem PathStep.edge (hb : t.Built g sets) {b X e : Nat} (h : PathStep t b X e) :
    1 ≤ b ∧ 1 ≤ e ∧ ∃ edges, sets.transitions[b - 1]? = some edges ∧ (X, e - 1) ∈ edges := by
  rcases h with h | ⟨hX, hgoto, he⟩
  · exact (hb.action_sound h).2
  · obtain ⟨-, hb1, edges, hedges, hedge⟩ := hb.goto_sound hX (hgoto ▸ he)
    rw [hgoto] at hedge
    exact ⟨hb1, Nat.one_le_iff_ne_zero.2 he, edges, hedges, hedge⟩

/-- The top state of a path is a state of the automaton, never the error state. -/
theorem StackPath.top_items (hb : t.Built g sets) {es : List StackEntry} (hp : StackPath t es) :
    1 ≤ topState es ∧ ∃ items, sets.states[topState es - 1]? = some items := by
  induction hp with
  | bottom hstate _ =>
    simp only [topState_cons, hstate, startState]
    exact ⟨Nat.le_refl 1, _, Array.getElem?_eq_getElem hb.sound.nonempty⟩
  | extra _ _ _ hstate ih =>
    simpa only [topState_cons, hstate] using ih
  | @step e below rest x _ _ _ hstep ih =>
    obtain ⟨-, items, hitems⟩ := ih
    obtain ⟨-, he, edges, hedges, hedge⟩ := hstep.edge hb
    obtain ⟨-, -, items', hitems', -⟩ := hb.sound.edge_sound _ items edges hitems hedges _ _ hedge
    exact ⟨he, items', hitems'⟩

/-- What popping `d` subtrees that are not extras gives on a path whose top state holds
    the item `(p, d)`. -/
structure PoppedItem (t : ParseTable) (g : Grammar) (sets : ItemSets) (p d : Nat)
    (prod : Production) (r : List Subtree × List StackEntry) : Prop where
  /-- The popped subtrees that are not extras spell the first `d` symbols of `p`. -/
  symbols : (r.1.filter fun x => !x.isExtra).map Subtree.symbol = prod.rhs.take d
  /-- The first popped subtree is not an extra. -/
  first : 0 < d → ∃ x xs, r.1 = x :: xs ∧ x.isExtra = false
  path : StackPath t r.2
  /-- The state uncovered holds `p` with its dot at the start. -/
  start : ∃ items, sets.states[topState r.2 - 1]? = some items ∧ (p, 0) ∈ items

theorem popFrom_extra {r : Nat} {e below : StackEntry} {rest : List StackEntry} {x : Subtree}
    (hx : e.subtree = some x) (hextra : x.isExtra = true) (hr : 0 < r) :
    Stack.popFrom r [] (e :: below :: rest) =
      ((Stack.popFrom r [] (below :: rest)).1 ++ [x], (Stack.popFrom r [] (below :: rest)).2) := by
  rw [Stack.popFrom_cons_some (Nat.pos_iff_ne_zero.1 hr) hx]
  simp only [hextra]
  exact Stack.popFrom_append r [] [x] _

theorem popFrom_step {r : Nat} {e below : StackEntry} {rest : List StackEntry} {x : Subtree}
    (hx : e.subtree = some x) (hextra : x.isExtra = false) :
    Stack.popFrom (r + 1) [] (e :: below :: rest) =
      ((Stack.popFrom r [] (below :: rest)).1 ++ [x], (Stack.popFrom r [] (below :: rest)).2) := by
  rw [Stack.popFrom_cons_some (Nat.succ_ne_zero r) hx]
  simp only [hextra, Bool.false_eq_true]
  exact Stack.popFrom_append r [] [x] _

/-- Nothing popped: the path is what it was, and an item with its dot at the start is
    in its top state. -/
theorem PoppedItem.zero {es : List StackEntry} {p : Nat} {items : List LrItem}
    {prod : Production} (hp : StackPath t es) (hitems : sets.states[topState es - 1]? = some items)
    (hit : (p, 0) ∈ items) : PoppedItem t g sets p 0 prod (Stack.popFrom 0 [] es) := by
  rw [Stack.popFrom_zero]
  exact ⟨by simp, fun h => absurd h (Nat.lt_irrefl 0), hp, items, hitems, hit⟩

/-- The item-path lemma: an item `(p, d)` of the top state means that the top `d`
    subtrees that are not extras spell the start of `p`'s right side, with `(p, 0)` in the
    state below them. The induction is on the path; an edge into a state moves the dot
    of every kernel item over the edge's symbol. -/
theorem StackPath.popFrom_item (hb : t.Built g sets) {es : List StackEntry}
    (hp : StackPath t es) :
    ∀ {d p : Nat} {items : List LrItem} {prod : Production},
      sets.states[topState es - 1]? = some items → (p, d) ∈ items →
      g.productions[p]? = some prod → PoppedItem t g sets p d prod (Stack.popFrom d [] es) := by
  induction hp with
  | @bottom e hstate hsub =>
    intro d p items prod hitems hit hprod
    simp only [topState_cons, hstate, startState, Nat.sub_self] at hitems
    obtain rfl : d = 0 := hb.sound.start_dot items hitems _ hit
    exact .zero (.bottom hstate hsub) (by simpa [hstate, startState] using hitems) hit
  | @extra e below rest x hrest hx hextra hstate ih =>
    intro d p items prod hitems hit hprod
    rcases Nat.eq_zero_or_pos d with rfl | hd
    · exact .zero (.extra hrest hx hextra hstate) hitems hit
    · rw [topState_cons, hstate] at hitems
      obtain ⟨hsym, hfirst, hpath, hstart⟩ := ih hitems hit hprod
      rw [popFrom_extra hx hextra hd]
      refine ⟨?_, fun hd => ?_, hpath, hstart⟩
      · simpa [List.filter_append, hextra] using hsym
      · obtain ⟨y, ys, hys, hy⟩ := hfirst hd
        exact ⟨y, ys ++ [x], by rw [hys, List.cons_append], hy⟩
  | @step e below rest x hrest hx hextra hstep ih =>
    intro d p items prod hitems hit hprod
    rcases d with _ | d
    · exact .zero (.step hrest hx hextra hstep) hitems hit
    -- the edge into the top state moves the dot of `(p, d)` over the subtree's symbol
    · obtain ⟨-, itemsBelow, hbelow⟩ := hrest.top_items hb
      obtain ⟨-, -, edges, hedges, hedge⟩ := hstep.edge hb
      obtain ⟨-, -, items', hitems', hmoved⟩ :=
        hb.sound.edge_sound _ itemsBelow edges hbelow hedges _ _ hedge
      rw [topState_cons] at hitems
      rw [hitems] at hitems'
      cases hitems'
      obtain ⟨hnext, hprev⟩ := hmoved (p, d + 1) hit (Nat.succ_pos d)
      simp only [Nat.add_sub_cancel] at hnext hprev
      obtain ⟨prod', hprod', hrhs⟩ := Grammar.next?_eq_some hnext
      rw [hprod] at hprod'
      cases hprod'
      obtain ⟨hsym, hfirst, hpath, hstart⟩ := ih hbelow hprev hprod
      rw [popFrom_step hx hextra]
      refine ⟨?_, fun _ => ?_, hpath, hstart⟩
      · simp only [List.filter_append, List.filter_cons, List.filter_nil, hextra, Bool.not_false,
          ↓reduceIte, List.map_append, List.map_cons, List.map_nil, hsym,
          List.take_add_one, hrhs, Option.toList_some]
      · rcases Nat.eq_zero_or_pos d with rfl | hd
        · rw [Stack.popFrom_zero]
          exact ⟨x, [], rfl, hextra⟩
        · obtain ⟨y, ys, hys, hy⟩ := hfirst hd
          exact ⟨y, ys ++ [x], by rw [hys, List.cons_append], hy⟩

/-- An extra on top can be popped: what is below is a path with the same top state. -/
theorem StackPath.pop_extra {e : StackEntry} {rest : List StackEntry} {x : Subtree}
    (hp : StackPath t (e :: rest)) (hx : e.subtree = some x) (hextra : x.isExtra = true) :
    StackPath t rest ∧ topState rest = e.state := by
  cases hp with
  | bottom _ hsub => rw [hsub] at hx; cases hx
  | extra hrest _ _ hstate => exact ⟨hrest, hstate.symm⟩
  | step _ hx' hextra' _ =>
    rw [hx] at hx'
    cases hx'
    rw [hextra] at hextra'
    cases hextra'

/-- A step of the automaton never leads back to the start state. -/
theorem PathStep.ne_startState (hb : t.Built g sets) {b X e : Nat} (h : PathStep t b X e) :
    e ≠ startState := by
  obtain ⟨-, -, edges, hedges, hedge⟩ := h.edge hb
  obtain ⟨items, hitems⟩ : ∃ items, sets.states[b - 1]? = some items := by
    have hlt := (Array.getElem?_eq_some_iff.1 hedges).1
    rw [hb.sound.transitions_size] at hlt
    exact ⟨_, Array.getElem?_eq_getElem hlt⟩
  have hpos := (hb.sound.edge_sound _ items edges hitems hedges _ _ hedge).1
  simp only [startState]
  omega

/-- No entry of a path is in the error state. -/
theorem StackPath.state_pos (hb : t.Built g sets) {es : List StackEntry} (hp : StackPath t es) :
    ∀ e ∈ es, 1 ≤ e.state := by
  induction hp with
  | bottom hstate _ =>
    intro e he
    rw [List.mem_singleton.1 he, hstate]
    exact Nat.le_refl 1
  | @extra e below rest _ _ _ _ hstate ih =>
    intro e' he'
    rcases List.mem_cons.1 he' with rfl | he'
    · rw [hstate]
      exact ih below List.mem_cons_self
    · exact ih e' he'
  | step _ _ _ hstep ih =>
    intro e' he'
    rcases List.mem_cons.1 he' with rfl | he'
    · exact (hstep.edge hb).2.1
    · exact ih e' he'

/-- On a path whose top state is the start state every subtree is an extra: no step of
    the automaton ends there. -/
theorem StackPath.extra_of_startState (hb : t.Built g sets) {es : List StackEntry}
    (hp : StackPath t es) (hs : topState es = startState) :
    ∀ e ∈ es, ∀ x, e.subtree = some x → x.isExtra = true := by
  induction hp with
  | bottom _ hsub =>
    intro e he x hx
    rw [List.mem_singleton.1 he, hsub] at hx
    cases hx
  | @extra e below rest x hrest hx hextra hstate ih =>
    rw [topState_cons, hstate] at hs
    intro e' he' y hy
    rcases List.mem_cons.1 he' with rfl | he'
    · rw [hx] at hy
      cases hy
      exact hextra
    · exact ih hs e' he' y hy
  | step _ _ _ hstep _ =>
    exact absurd hs (hstep.ne_startState hb)

/-- What a reduction to `A` of `n` subtrees finds on a path: a production of `A` whose
    right side the popped subtrees that are not extras spell, and a goto on `A` that is
    not 0 from the state below them. -/
structure ReduceOnPath (t : ParseTable) (g : Grammar) (sets : ItemSets) (A n : Nat)
    (es : List StackEntry) : Prop where
  production : ∃ p prod, 1 ≤ p ∧ g.productions[p]? = some prod ∧ prod.lhs = A ∧
    prod.rhs.length = n ∧ PoppedItem t g sets p n prod (Stack.popFrom n [] es)
  goto_ne_zero : t.goto (topState (Stack.popFrom n [] es).2) A ≠ 0
  symbol_lt : A < t.symbolCount

/-- A reduction the table asks for on a path pops a right side of its symbol and finds a
    goto: the item with the dot at the start was predicted from an item with `A` after
    its dot, and every such item has an edge on `A`. -/
theorem StackPath.reduce (hb : t.Built g sets) {es : List StackEntry} (hp : StackPath t es)
    {a A n f : Nat} (h : t.action? (topState es) a = some (.reduce A n f)) :
    ReduceOnPath t g sets A n es := by
  obtain ⟨-, -, items, hitems, p, prod, hp1, hprod, hlhs, hlen, hit⟩ := hb.action_sound h
  have hpop := hp.popFrom_item hb hitems hit hprod
  obtain ⟨items', hitems', hstart⟩ := hpop.start
  have hr1 := (hpop.path.top_items hb).1
  obtain ⟨-, -, prod', hprod', it, hit', hnext⟩ :=
    hb.sound.predicted _ items' hitems' _ hstart rfl hp1
  rw [hprod] at hprod'
  cases hprod'
  obtain ⟨edges, hedges⟩ : ∃ edges, sets.transitions[topState (Stack.popFrom n [] es).2 - 1]? =
      some edges := by
    have hlt := (Array.getElem?_eq_some_iff.1 hitems').1
    rw [← hb.sound.transitions_size] at hlt
    exact ⟨_, Array.getElem?_eq_getElem hlt⟩
  obtain ⟨u, hu⟩ := hb.sound.complete _ items' edges hitems' hedges it hit' _ hnext
  have hmem := Array.mem_of_getElem? hprod
  have hgoto := hb.goto_ne_zero hedges hu (hb.wellFormed.lhs_ge prod hmem)
  rw [Nat.sub_add_cancel hr1, hlhs] at hgoto
  refine ⟨⟨p, prod, hp1, hprod, hlhs, hlen, hpop⟩, hgoto, ?_⟩
  rw [hb.symbolCount_eq, ← hlhs]
  exact hb.wellFormed.lhs_lt prod hmem

/-- What accepting finds on a path: the subtrees above the bottom are extras around one
    subtree of the start symbol. -/
theorem StackPath.accept (hb : t.Built g sets) {es : List StackEntry} (hp : StackPath t es)
    {a : Nat} (h : t.action? (topState es) a = some .accept) :
    ∃ above bottom pre x xs, es = above ++ [bottom] ∧ bottom.state = startState ∧
      bottom.subtree = none ∧
      (above.filterMap (·.subtree)).reverse = pre ++ x :: xs ∧ x.isExtra = false ∧
      x.symbol = g.startSymbol ∧ (∀ y ∈ pre, y.isExtra = true) ∧ (∀ y ∈ xs, y.isExtra = true) := by
  obtain ⟨-, -, -, items, hitems, hit⟩ := hb.action_sound h
  have hpop := hp.popFrom_item hb hitems hit hb.wellFormed.augmented
  obtain ⟨x, xs, hxs, hx⟩ := hpop.first Nat.one_pos
  -- the item `(0, 0)` is only in the first state, so below `x` the path is at the start
  obtain ⟨items', hitems', hstart⟩ := hpop.start
  have hr1 := (hpop.path.top_items hb).1
  have hr : topState (Stack.popFrom 1 [] es).2 = startState := by
    have := hb.sound.augmented _ items' hitems' hstart
    simp only [startState]
    omega
  have hsym := hpop.symbols
  rw [hxs, List.filter_cons, hx] at hsym
  simp only [Bool.not_false, ↓reduceIte, List.map_cons, List.take_one, List.head?_cons,
    Option.toList_some, List.cons.injEq, List.map_eq_nil_iff, List.filter_eq_nil_iff,
    Bool.not_eq_eq_eq_not] at hsym
  obtain ⟨pre, hpre, hpopped⟩ := Stack.popFrom_split 1 [] es
  obtain ⟨below, bottom, hbelow, hstate, hsub⟩ := hpop.path.exists_bottom
  have hextras := hpop.path.extra_of_startState hb hr
  refine ⟨pre ++ below, bottom, (below.filterMap (·.subtree)).reverse, x, xs,
    by rw [hpre, hbelow, List.append_assoc], hstate, hsub, ?_, hx,
    hsym.1.trans hb.wellFormed.start.symm, ?_, fun y hy => by simpa using hsym.2 y hy⟩
  · rw [List.filterMap_append, List.reverse_append, ← hxs, hpopped, List.append_nil]
  · intro y hy
    obtain ⟨e, he, hey⟩ := List.mem_filterMap.1 (List.mem_reverse.1 hy)
    exact hextras e (hbelow ▸ List.mem_append_left _ he) y hey

end Built

end IncrementalLR
